import AuthSigner.Auth.Signer
import AuthSigner.Proofs.HexLaws
import AuthSigner.Proofs.KeyTexts
import Mathlib.Data.List.DropRight

/-! The spellings of a secret. Within the white space around it, a text stands for a seed in two ways, as
the text of a key and as hexadecimal digits. The two differ in their length, so that it makes no difference
which one is tried first, and no text stands for two seeds. -/
namespace AuthSigner

namespace Text

/-- A text is what another one has within the white space around it. -/
structure Trimmed (whole text : List Char) : Prop where
  around : ∃ front back, whole = front ++ (text ++ back) ∧
    (∀ c ∈ front, isWhiteSpace c) ∧ ∀ c ∈ back, isWhiteSpace c
  first : ∀ c, text.head? = some c → ¬ isWhiteSpace c
  last : ∀ c, text.getLast? = some c → ¬ isWhiteSpace c

variable {whole text front rest : List Char}

private theorem solid_behind (text : List Char) :
    ∀ c, (text.dropWhile isWhiteSpace).head? = some c → ¬ isWhiteSpace c := by
  intro c first
  have stop := List.head?_dropWhile_not isWhiteSpace text
  rw [first] at stop
  exact Bool.eq_false_iff.mp stop

private theorem dropWhile_front (white : ∀ c ∈ front, isWhiteSpace c)
    (solid : ∀ c, rest.head? = some c → ¬ isWhiteSpace c) : (front ++ rest).dropWhile isWhiteSpace = rest := by
  rw [List.dropWhile_append_of_pos white]
  cases rest with
  | nil => rfl
  | cons c rest => exact List.dropWhile_cons_of_neg (solid c rfl)

theorem trimmed_trimChars (whole : List Char) : Trimmed whole (trimChars whole) := by
  have cut : trimChars whole = (whole.dropWhile isWhiteSpace).rdropWhile isWhiteSpace := rfl
  refine ⟨⟨whole.takeWhile isWhiteSpace, (whole.dropWhile isWhiteSpace).rtakeWhile isWhiteSpace, ?_, ?_, ?_⟩, ?_, ?_⟩
  · rw [cut, List.rdropWhile_append_rtakeWhile, List.takeWhile_append_dropWhile]
  · exact fun c member => List.mem_takeWhile_imp member
  · exact fun c member => List.mem_rtakeWhile_imp member
  · intro c first
    obtain ⟨back, rest⟩ := List.rdropWhile_prefix isWhiteSpace (whole.dropWhile isWhiteSpace)
    refine solid_behind whole c ?_
    rw [← rest, ← cut, List.head?_append, first]
    rfl
  · intro c last
    rw [trimChars, List.getLast?_reverse] at last
    exact solid_behind _ c last

theorem trimmed_iff : Trimmed whole text ↔ trimChars whole = text := by
  constructor
  · rintro ⟨⟨front, back, rfl, white, white'⟩, first, last⟩
    cases text with
    | nil =>
      have all : (front ++ ([] ++ back)).dropWhile isWhiteSpace = [] := by
        refine List.dropWhile_eq_nil_iff.mpr fun c member => ?_
        exact (List.mem_append.mp member).elim (white c) (white' c)
      rw [trimChars, all]
      rfl
    | cons c cs =>
      have begins : ∀ d, (c :: cs ++ back).head? = some d → ¬ isWhiteSpace d := first
      have ends : ∀ d, (c :: cs).reverse.head? = some d → ¬ isWhiteSpace d := by
        intro d
        rw [List.head?_reverse]
        exact last d
      rw [trimChars, dropWhile_front white begins, List.reverse_append,
        dropWhile_front (fun d member => white' d (List.mem_reverse.mp member)) ends, List.reverse_reverse]
  · rintro rfl
    exact trimmed_trimChars whole

end Text

namespace Secret

/-- The spellings of a seed, without white space around them. -/
inductive Spelling (seed : Octets 32) (text : List Char) : Prop where
  /-- A key's text, whose first byte says that it is a seed. -/
  | key : StrKey.KeyText 0x90 seed.toBytes text → Spelling seed text
  /-- Hexadecimal digits, each in either case. -/
  | digits : Hex.Spells text seed.toBytes → Spelling seed text

/-- Texts that look like a spelling of a seed and are none. -/
inductive Misspelling : List Char → Prop where
  /-- A key's text with another first byte. -/
  | version {version : UInt8} {payload : Octets 32} {text : List Char} : version ≠ 0x90 →
    StrKey.KeyText version payload.toBytes text → Misspelling text
  /-- The text of a key of another kind, of whatever size, as long as it has not the length of the digits. -/
  | kind {kind : StrKey.Kind} {payload : Bytes} : kind ≠ .seed →
    (StrKey.encode kind payload).toList.length ≠ 64 → Misspelling (StrKey.encode kind payload).toList
  /-- A seed's text with two bytes that do not check it. -/
  | check {seed : Octets 32} {check : Bytes} {text : List Char} : check.length = 2 →
    ¬ StrKey.Checks (0x90 :: seed.toBytes) check →
    Positional Base32.alphabet text (0x90 :: seed.toBytes ++ check) → Misspelling text
  /-- A seed's text with some of its letters in lower case. -/
  | recased {seed : Octets 32} {text other : List Char} : StrKey.KeyText 0x90 seed.toBytes text →
    other ≠ text → other.map Char.toLower = text.map Char.toLower → Misspelling other
  /-- Hexadecimal digits, but too few or too many. -/
  | size {text : List Char} : (∀ c ∈ text, c.toLower ∈ Hex.alphabet) → text.length ≠ 64 → Misspelling text

variable {seed seed' : Octets 32} {text other : List Char} {whole : String}

/-! ## The two spellings -/

theorem length_of_key {version : UInt8} {payload : Octets 32} (key : StrKey.KeyText version payload.toBytes text) :
    text.length = 56 := by
  have length := key.length
  rw [payload.length_toBytes] at length
  omega

theorem length_of_digits (spelt : Hex.Spells text seed.toBytes) : text.length = 64 := by
  rw [spelt.length, seed.length_toBytes]

/-- No key's text is a spelling in digits. -/
theorem not_digits_of_key {version : UInt8} {payload : Octets 32}
    (key : StrKey.KeyText version payload.toBytes text) : ¬ Hex.Spells text seed.toBytes := by
  intro digits
  have same := (length_of_key key).symm.trans (length_of_digits digits)
  exact absurd same (by decide)

theorem keyText_iff_encode {version : UInt8} {payload : Octets 32} : StrKey.KeyText version payload.toBytes text ↔
    text = Base32.encode (version :: payload.toBytes ++ StrKey.checksum (version :: payload.toBytes)) := by
  refine StrKey.keyText_iff ?_
  rw [payload.length_toBytes]
  decide

theorem head_of_key (key : StrKey.KeyText 0x90 seed.toBytes text) : text.head? = some 'S' := by
  rw [keyText_iff_encode.mp key]
  exact StrKey.head_encode_seed _

theorem decode_key_iff {text : String} :
    StrKey.decode? .seed text = some seed.toBytes ↔ StrKey.KeyText 0x90 seed.toBytes text.toList := by
  refine (StrKey.keyText_iff_decode ?_).symm
  rw [seed.length_toBytes]
  decide

/-- No text is a spelling of two seeds. -/
theorem Spelling.unique (spelt : Spelling seed text) (spelt' : Spelling seed' text) : seed = seed' := by
  refine Octets.ext ?_
  cases spelt with
  | key key =>
    cases spelt' with
    | key key' =>
      obtain ⟨check, ⟨low, high, rfl, _⟩, written⟩ := key'
      exact (key.unique written rfl).2.1
    | digits digits => exact (not_digits_of_key key digits).elim
  | digits digits =>
    cases spelt' with
    | key key => exact (not_digits_of_key key digits).elim
    | digits digits' => exact digits.bytes_unique digits'

/-! ## Reading -/

private theorem seed_of_read {read : Option Bytes} :
    (do return (⟨← Octets.ofBytes? 32 (← read)⟩ : Secret)) = some ⟨seed⟩ ↔ read = some seed.toBytes := by
  simp only [bind, pure, Option.bind_eq_some_iff, Octets.ofBytes?_eq_some_iff, Option.some.injEq, mk.injEq]
  constructor
  · rintro ⟨bytes, rfl, found, same, rfl⟩
    rw [same]
  · rintro rfl
    exact ⟨_, rfl, seed, rfl, rfl⟩

/-- A text is read as a seed exactly if it is a spelling of it. -/
theorem ofTrimmed_eq_some_iff {text : String} : ofTrimmed? text = some ⟨seed⟩ ↔ Spelling seed text.toList := by
  rw [ofTrimmed?, Option.orElse_eq_some, seed_of_read, seed_of_read, decode_key_iff, Hex.decode?,
    Hex.decode_eq_some_iff_spells]
  constructor
  · rintro (key | ⟨_, digits⟩)
    · exact .key key
    · exact .digits digits
  · rintro (key | digits)
    · exact .inl key
    · -- the first reading is of a key's text, and fails at digits
      refine .inr ⟨Option.eq_none_iff_forall_ne_some.mpr fun ⟨other⟩ read => ?_, digits⟩
      exact not_digits_of_key (decode_key_iff.mp (seed_of_read.mp read)) digits

theorem parse_eq_ok_iff (trimmed : Text.Trimmed whole.toList text) :
    parse whole = .ok ⟨seed⟩ ↔ Spelling seed text := by
  obtain rfl := Text.trimmed_iff.mp trimmed
  have read : ofTrimmed? (Text.trim whole) = some ⟨seed⟩ ↔ Spelling seed (Text.trim whole).toList :=
    ofTrimmed_eq_some_iff
  rw [Text.trim, String.toList_ofList] at read
  rw [← read, parse, Text.trim]
  cases ofTrimmed? (String.ofList (Text.trimChars whole.toList)) with
  | none => simp
  | some secret => simp

theorem parse_of_unspelt (trimmed : Text.Trimmed whole.toList text) (unspelt : ∀ seed, ¬ Spelling seed text) :
    parse whole = .error .invalidSecretKey := by
  cases read : parse whole with
  | ok secret => exact absurd ((parse_eq_ok_iff trimmed).mp read) (unspelt secret.seed)
  | error cause => rfl

/-! ## What is no spelling -/

private theorem alphabet_upper : ∀ c ∈ Base32.alphabet, c.toLower.toUpper = c :=
  List.all_iff_forall_prop.mp (by decide +kernel)

private theorem eq_of_lower (letters : ∀ c ∈ text, c ∈ Base32.alphabet)
    (letters' : ∀ c ∈ other, c ∈ Base32.alphabet) (same : text.map Char.toLower = other.map Char.toLower) :
    text = other := by
  have back : ∀ {t : List Char}, (∀ c ∈ t, c ∈ Base32.alphabet) → (t.map Char.toLower).map Char.toUpper = t := by
    intro t letters
    rw [List.map_map]
    exact (List.map_congr_left fun c member => alphabet_upper c (letters c member)).trans (List.map_id t)
  rw [← back letters, same, back letters']

private theorem seed_of_version (kind : StrKey.Kind) (version : kind.version = 0x90) : kind = .seed := by
  cases kind <;> first | rfl | exact absurd version (by decide)

/-- What looks like a spelling is none of any seed. -/
theorem Misspelling.unspelt (wrong : Misspelling text) (seed : Octets 32) : ¬ Spelling seed text := by
  rintro (key | digits)
  · cases wrong with
    | version other written =>
      obtain ⟨check, ⟨low, high, rfl, _⟩, written⟩ := written
      exact other (key.unique written rfl).1.symm
    | kind other _ =>
      have same := StrKey.decode_eq_some_iff.mp (decode_key_iff.mpr key)
      exact other (seed_of_version _ (StrKey.encode_injective same).1)
    | check two unchecked written =>
      obtain ⟨_, same, checks⟩ := key.unique written two
      exact unchecked (same ▸ checks)
    | recased key' different lower => exact different (eq_of_lower key.letters key'.letters lower)
    | size letters _ =>
      have first := List.mem_of_head? (head_of_key key)
      exact absurd (letters 'S' first) (by decide)
  · have length := length_of_digits digits
    cases wrong with
    | version _ written => exact not_digits_of_key written digits
    | kind _ apart => exact apart length
    | @check seed' check _ two _ written =>
      have places := Base32.length_of_positional written
      rw [List.length_append, List.length_cons, seed'.length_toBytes, two] at places
      omega
    | recased key _ lower =>
      have places := congrArg List.length lower
      rw [List.length_map, List.length_map, length_of_key key] at places
      omega
    | size _ apart => exact apart length

/-! ## All texts -/

theorem misspelling_publicKey (key : Octets 32) : Misspelling (StrKey.encode .publicKey key.toBytes).toList := by
  have text : StrKey.KeyText StrKey.Kind.publicKey.version key.toBytes
      (StrKey.encode .publicKey key.toBytes).toList := by
    refine keyText_iff_encode.mpr ?_
    rw [StrKey.encode, String.toList_ofList]
  exact .version (by decide) text

/-- Each seed has one text as a key, and can be spelt in digits. -/
theorem exists_spellings (seed : Octets 32) :
    (∃! text, StrKey.KeyText 0x90 seed.toBytes text) ∧ ∃ text, Hex.Spells text seed.toBytes := by
  refine ⟨⟨_, keyText_iff_encode.mpr rfl, fun text key => keyText_iff_encode.mp key⟩, ?_⟩
  exact ⟨_, Hex.spells_encodeChars seed.toBytes⟩

/-- A secret has exactly two spellings, and they are never confused. What a text has within the white space
around it is one text. It is read as a seed if that text is the key's text of the seed, which begins with S and
has 56 characters, or its 64 hexadecimal digits of either case, and anything else is refused. So no text is read
as two seeds, and the signer depends on the seed alone. A public key is refused, and so is the text of another
kind of key, one with a wrong check or with letters in the wrong case, and digits of any other length. -/
theorem two_spellings :
    (∀ whole : String, ∃! text, Text.Trimmed whole.toList text) ∧
    (∀ (whole : String) text, Text.Trimmed whole.toList text →
      (∀ seed, parse whole = .ok ⟨seed⟩ ↔ Spelling seed text) ∧
      ((∀ seed, ¬ Spelling seed text) → parse whole = .error .invalidSecretKey) ∧
      (∀ seed, Spelling seed text → (parse whole).map Signer.ofSecret = .ok (.ofSecret ⟨seed⟩)) ∧
      (Misspelling text → parse whole = .error .invalidSecretKey)) ∧
    (∀ seed text, Spelling seed text → (∀ other, Spelling other text → other = seed) ∧
      (text.length = 56 ∧ text.head? = some 'S' ∨ text.length = 64)) ∧
    (∀ seed : Octets 32, (∃! text, StrKey.KeyText 0x90 seed.toBytes text) ∧ ∃ text, Hex.Spells text seed.toBytes) ∧
    ∀ key : Octets 32, Misspelling (StrKey.encode .publicKey key.toBytes).toList := by
  refine ⟨?_, ?_, ?_, exists_spellings, misspelling_publicKey⟩
  · intro whole
    exact ⟨_, Text.trimmed_trimChars _, fun text trimmed => (Text.trimmed_iff.mp trimmed).symm⟩
  · intro whole text trimmed
    refine ⟨fun seed => parse_eq_ok_iff trimmed, parse_of_unspelt trimmed, ?_, ?_⟩
    · intro seed spelt
      rw [(parse_eq_ok_iff trimmed).mpr spelt]
      rfl
    · exact fun wrong => parse_of_unspelt trimmed wrong.unspelt
  · intro seed text spelt
    refine ⟨fun other spelt' => spelt'.unique spelt, ?_⟩
    cases spelt with
    | key key => exact .inl ⟨length_of_key key, head_of_key key⟩
    | digits digits => exact .inr (length_of_digits digits)

/-- A seed, for an example. -/
def sampleSeed : Octets 32 :=
  ⟨[0x4a, 0x62, 0x97, 0x5f, 0xc7, 0xb9, 0x9a, 0x18, 0xa0, 0x41, 0xba, 0x06, 0x24, 0xd0, 0x70, 0xf3,
    0x95, 0x57, 0x58, 0x82, 0x81, 0x5a, 0x51, 0xbc, 0x3b, 0x49, 0xae, 0x5f, 0x37, 0x1e, 0x9c, 0x4a], rfl⟩

/-- The seed's key, within white space, and its digits in both cases are read as the seed. The key with a letter
in lower case is refused. -/
theorem two_spellings_sample :
    parse "\u2003SBFGFF27Y64ZUGFAIG5AMJGQODZZKV2YQKAVUUN4HNE24XZXD2OEUVUP\n" = .ok ⟨sampleSeed⟩ ∧
    parse "4A62975FC7B99A18A041BA0624D070F395575882815a51bc3b49ae5f371e9c4a" = .ok ⟨sampleSeed⟩ ∧
    parse "SBFGFF27Y64ZUGFAIG5AMJGQODZZKV2YQKAVUUN4HNE24XZXD2OEUVUp" = .error .invalidSecretKey := by
  have key : StrKey.KeyText 0x90 sampleSeed.toBytes
      "SBFGFF27Y64ZUGFAIG5AMJGQODZZKV2YQKAVUUN4HNE24XZXD2OEUVUP".toList :=
    keyText_iff_encode.mpr (by decide +kernel)
  have digits : Hex.Spells
      "4A62975FC7B99A18A041BA0624D070F395575882815a51bc3b49ae5f371e9c4a".toList sampleSeed.toBytes :=
    Hex.decode_eq_some_iff_spells.mp (by decide +kernel)
  obtain ⟨_, reads, _⟩ := two_spellings
  refine ⟨((reads _ _ ?_).1 sampleSeed).mpr (.key key), ((reads _ _ ?_).1 sampleSeed).mpr (.digits digits),
    (reads _ "SBFGFF27Y64ZUGFAIG5AMJGQODZZKV2YQKAVUUN4HNE24XZXD2OEUVUp".toList ?_).2.2.2 (.recased key ?_ ?_)⟩
  · exact Text.trimmed_iff.mpr (by decide +kernel)
  · exact Text.trimmed_iff.mpr (by decide +kernel)
  · exact Text.trimmed_iff.mpr (by decide +kernel)
  · decide +kernel
  · decide +kernel

end Secret
end AuthSigner
