import AuthSigner.Bytes.Hex

/-! JSON values and their layout over several lines: two spaces for each level,
every element and every field on a line of its own, and empty lists and records
on one line. -/
namespace AuthSigner

/-- A JSON value whose records keep the order of their fields. -/
inductive Json where
  | null
  | bool (b : Bool)
  | number (n : Int)
  | string (text : String)
  | array (items : List Json)
  | object (fields : List (String × Json))

namespace Json

/-- A character inside a quoted text. -/
def escape (c : Char) : List Char :=
  if c = '"' then ['\\', '"']
  else if c = '\\' then ['\\', '\\']
  else if c.toNat = 8 then ['\\', 'b']
  else if c.toNat = 9 then ['\\', 't']
  else if c.toNat = 10 then ['\\', 'n']
  else if c.toNat = 12 then ['\\', 'f']
  else if c.toNat = 13 then ['\\', 'r']
  else if c.toNat < 32 then ['\\', 'u', '0', '0', Hex.digit (c.toNat / 16), Hex.digit (c.toNat % 16)]
  else [c]

/-- A quoted text. -/
def quote (text : String) : String := "\"" ++ String.ofList (text.toList.flatMap escape) ++ "\""

/-- The beginning of a line at a level. -/
def newLine (level : Nat) : String := "\n" ++ String.ofList (List.replicate (2 * level) ' ')

mutual

/-- Appends a value that stands at a level to the text before it. -/
def appendTo (level : Nat) (before : String) : Json → String
  | .null => before ++ "null"
  | .bool b => before ++ (if b then "true" else "false")
  | .number n => before ++ toString n
  | .string text => before ++ quote text
  | .array [] => before ++ "[]"
  | .array (item :: rest) =>
    let first := appendTo (level + 1) (before ++ "[" ++ newLine (level + 1)) item
    appendItems (level + 1) first rest ++ newLine level ++ "]"
  | .object [] => before ++ "\x7b\x7d"
  | .object ((name, value) :: rest) =>
    let first := appendTo (level + 1) (before ++ "\x7b" ++ newLine (level + 1) ++ quote name ++ ": ") value
    appendFields (level + 1) first rest ++ newLine level ++ "\x7d"
termination_by structural j => j

/-- Appends further elements of a list. -/
def appendItems (level : Nat) (before : String) : List Json → String
  | [] => before
  | item :: rest => appendItems level (appendTo level (before ++ "," ++ newLine level) item) rest
termination_by structural items => items

/-- Appends further fields of a record. -/
def appendFields (level : Nat) (before : String) : List (String × Json) → String
  | [] => before
  | (name, value) :: rest =>
    appendFields level (appendTo level (before ++ "," ++ newLine level ++ quote name ++ ": ") value) rest
termination_by structural fields => fields

end

/-- The text of a value. -/
def pretty (j : Json) : String := appendTo 0 "" j

end Json
end AuthSigner
