import AuthSigner.Bytes.Octets
import AuthSigner.Command.Environment
import AuthSigner.Text.Alphanumeric
import AuthSigner.Text.WhiteSpace

/-! Files of settings for the environment, a `NAME=value` to a line. A value may be
quoted, and go on over several lines; it may escape characters and refer to
variables. A comment starts with a hash sign, alone on its line or after a
blank. What is set in the environment already is left as it is, and the first
line that is not of this form, or not text, ends the reading. -/
namespace AuthSigner.EnvironmentFile
open Text (isWhiteSpace isAlphanumeric)

/-! ## Lines -/

/-- The lines of a file, each with the line feed that ends it. -/
def rawLines : Bytes → List Bytes
  | [] => []
  | b :: rest =>
    if b = 10 then [10] :: rawLines rest
    else match rawLines rest with
      | line :: others => (b :: line) :: others
      | [] => [[b]]

/-- What stands open where a line is cut. -/
inductive Cut where
  | plain | blank | escaped
  | single | singleEscaped
  | double | doubleEscaped
deriving DecidableEq

/-- What stands open after one more character outside a comment. -/
def Cut.next : Cut → Char → Cut
  | .escaped, _ => .plain
  | .single, '\\' => .singleEscaped
  | .single, '\'' => .plain
  | .single, _ => .single
  | .singleEscaped, _ => .single
  | .double, '\\' => .doubleEscaped
  | .double, '"' => .plain
  | .double, _ => .double
  | .doubleEscaped, _ => .double
  | _, '\\' => .escaped
  | _, '"' => .double
  | _, '\'' => .single
  | .plain, c => if isWhiteSpace c && c != '\n' && c != '\r' then .blank else .plain
  | .blank, _ => .plain

/-- What stands open after a line, or, if a comment starts in it, the part before
the comment. A comment starts at a hash sign after a single blank. -/
def scan : Cut → List Char → Cut ⊕ List Char
  | cut, [] => .inl cut
  | cut, c :: rest =>
    if cut = .blank ∧ c = '#' then .inr []
    else match scan (cut.next c) rest with
      | .inl final => .inl final
      | .inr part => .inr (c :: part)

/-- A line without its line end. -/
def chomp (line : List Char) : List Char :=
  match line.reverse with
  | '\n' :: '\r' :: rest => rest.reverse
  | '\n' :: rest => rest.reverse
  | _ => line

/-- The lines as they are read, where a line goes on after its end if something
stands open there. `none` stands for a line in which something stays open to the
end of the file, and for one that is not text. The first arguments are what stands
open, and what is read of the line so far. -/
def joinLines : Cut → List Char → List Bytes → List (Option (List Char))
  | cut, _, [] => if cut = .plain then [] else [none]
  | cut, before, raw :: rest =>
    match Bytes.toString? raw with
    | none => [none]
    | some text =>
      let line := before ++ text.toList
      if (line.dropWhile isWhiteSpace).head? = some '#' then some [] :: joinLines .plain [] rest
      else match scan cut text.toList with
        | .inr part => some (before ++ part) :: joinLines .plain [] rest
        | .inl .plain => some (chomp line) :: joinLines .plain [] rest
        | .inl openAt => joinLines openAt line rest

/-! ## Values -/

/-- How the next character of a value is read. -/
inductive Mode where
  | text (quoted : Bool)
  | escaped (quoted : Bool)
  /-- Between single quotes, where every character stands for itself. -/
  | literal
  /-- In the name of a variable. -/
  | reference (quoted : Bool) (name : List Char)
  /-- In the name of a variable between braces. -/
  | braced (quoted : Bool) (name : List Char)
  /-- After the value, where only a comment may follow. -/
  | over
deriving DecidableEq

/-- The value of a variable, as it is filled in. -/
def lookUp (env : Environment) (name : List Char) : List Char :=
  ((env (String.ofList name)).getD "").toList

/-- The value that characters spell, or none if they spell none. A double quote
after the name of a variable is text and closes nothing. -/
def valueFrom (env : Environment) : Mode → List Char → Option (List Char)
  | .text false, [] | .escaped false, [] | .over, [] => some []
  | .reference false name, [] => some (lookUp env name)
  | _, [] => none
  | .text quoted, c :: rest =>
    if c = '$' then valueFrom env (.reference quoted []) rest
    else if c = '\\' then valueFrom env (.escaped quoted) rest
    else if c = '"' then valueFrom env (.text (!quoted)) rest
    else if quoted then (valueFrom env (.text quoted) rest).map (c :: ·)
    else if c = '\'' then valueFrom env .literal rest
    else if c = ' ' ∨ c = '\t' then valueFrom env .over rest
    else (valueFrom env (.text quoted) rest).map (c :: ·)
  | .escaped quoted, c :: rest =>
    if c = 'n' then (valueFrom env (.text quoted) rest).map ('\n' :: ·)
    else if ['\\', '\'', '"', '$', ' '].contains c then
      (valueFrom env (.text quoted) rest).map (c :: ·)
    else none
  | .literal, c :: rest =>
    if c = '\'' then valueFrom env (.text false) rest
    else (valueFrom env .literal rest).map (c :: ·)
  | .reference quoted name, c :: rest =>
    if isAlphanumeric c then valueFrom env (.reference quoted (name ++ [c])) rest
    else if c = '\x7b' ∧ name = [] then valueFrom env (.braced quoted []) rest
    else if c = '$' then (valueFrom env (.reference quoted []) rest).map (lookUp env name ++ ·)
    else (valueFrom env (.text quoted) rest).map (lookUp env name ++ c :: ·)
  | .braced quoted name, c :: rest =>
    if c = '\x7d' then (valueFrom env (.text quoted) rest).map (lookUp env name ++ ·)
    else valueFrom env (.braced quoted (name ++ [c])) rest
  | .over, c :: rest =>
    if c = ' ' ∨ c = '\t' then valueFrom env .over rest
    else if c = '#' then some []
    else none

/-! ## Settings -/

/-- The character may stand in a name. -/
def isNameChar (c : Char) : Bool := c.isAlphanum || c == '_' || c == '.'

/-- The name at the front of a text, and what follows it. -/
def name? (text : List Char) : Option (List Char × List Char) :=
  match text with
  | c :: _ =>
    if c.isAlpha || c == '_' then some (text.takeWhile isNameChar, text.dropWhile isNameChar)
    else none
  | [] => none

/-- A text without the white space at its front. -/
def skipBlank (text : List Char) : List Char := text.dropWhile isWhiteSpace

/-- What follows the equals sign that a text must start with, after white space. -/
def afterEquals? (text : List Char) : Option (List Char) :=
  match skipBlank text with
  | '=' :: rest => some rest
  | _ => none

/-- The name and the text of the value of a setting. The word `export` may stand
before the name. -/
def split? (line : List Char) : Option (List Char × List Char) := do
  let (name, rest) ← name? line
  match afterEquals? rest with
  | some value => return (name, skipBlank value)
  | none =>
    guard (name = "export".toList)
    let (name, rest) ← name? (skipBlank rest)
    return (name, skipBlank (← afterEquals? rest))

/-- There is nothing here, or nothing but a comment. -/
def isVoid (text : List Char) : Bool :=
  match text with
  | [] => true
  | c :: _ => c == '#'

/-- The environment after a line, or none if the line is not of the form. -/
def loadLine (env : Environment) (line : List Char) : Option Environment := do
  let text := Text.trimChars line
  if isVoid text then return env
  let (name, value) ← split? text
  let value ← if isVoid value then some [] else valueFrom env (.text false) value
  return env.setDefault (String.ofList name) (String.ofList value)

/-- The environment after lines, up to the first that is not of the form. -/
def loadLines (env : Environment) : List (Option (List Char)) → Environment
  | [] => env
  | line :: rest =>
    match line.bind (loadLine env) with
    | some env' => loadLines env' rest
    | none => env

/-- What follows the mark that may start a file. -/
def withoutMark : Bytes → Bytes
  | 0xEF :: 0xBB :: 0xBF :: rest => rest
  | content => content

/-- The environment after a file is read. -/
def load (env : Environment) (content : Bytes) : Environment :=
  loadLines env (joinLines .plain [] (rawLines (withoutMark content)))

/-- The longest runs of characters of a kind in a text. -/
def runsOf (kind : Char → Bool) (text : String) : List String :=
  ((text.toList.splitBy fun a b => kind a == kind b).filter (·.all kind)).map String.ofList

/-- The names that may be those of variables in a file, which it sets or refers to. -/
def mentioned (content : Bytes) : List String :=
  ((rawLines content).filterMap Bytes.toString?).flatMap fun text =>
    runsOf isNameChar text ++ runsOf isAlphanumeric text

end AuthSigner.EnvironmentFile
