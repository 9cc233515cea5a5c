import AuthSigner.Text.CaseTable

/-! Full lower-casing of text. Most letters have one lower-case form; a capital I
with a dot becomes two characters, and a capital sigma is written differently at
the end of a word. -/
namespace AuthSigner.Text

/-- The lower-case form of a character, where that is one character whatever
stands around it. -/
def simpleLower (c : Char) : Char :=
  let n := c.toNat
  match caseRuns.find? fun r => r.first ≤ n && n ≤ r.last && (n - r.first) % r.stride == 0 with
  | some r => Char.ofNat (r.lower + (n - r.first))
  | none => c

def inRanges (ranges : List (Nat × Nat)) (c : Char) : Bool :=
  ranges.any fun (first, last) => first ≤ c.toNat && c.toNat ≤ last

/-- The first character that counts is a letter with case. -/
def meetsCased (text : List Char) : Bool :=
  match text.dropWhile (inRanges caseIgnorableRanges) with
  | c :: _ => inRanges casedRanges c
  | [] => false

/-- The lower-case text of the characters `rest`, before which stand those of
`before`, the nearest first. -/
def lowerFrom : List Char → List Char → List Char
  | _, [] => []
  | before, c :: rest =>
    let lowered :=
      if c = 'Σ' then (if meetsCased before && !meetsCased rest then ['ς'] else ['σ'])
      else if c = 'İ' then ['i', '\u0307']
      else [simpleLower c]
    lowered ++ lowerFrom (c :: before) rest

/-- The text in lower case. -/
def lowercase (text : String) : String := String.ofList (lowerFrom [] text.toList)

end AuthSigner.Text
