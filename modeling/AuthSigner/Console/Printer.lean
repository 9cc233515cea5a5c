/-! Messages to the user: a line, or a message behind an icon. A quiet printer
prints nothing. Some terminals draw icons of two code points too narrow, and get
a space more. -/
namespace AuthSigner

/-- What a message is about. -/
inductive Icon where
  | check | error | globe | info | key | sign | warn
deriving DecidableEq

def Icon.text : Icon → String
  | .check => "✅"
  | .error => "❌"
  | .globe => "🌎"
  | .info => "ℹ️"
  | .key => "🔑"
  | .sign => "✍️"
  | .warn => "⚠️"

/-- How messages are shown. -/
structure Printer where
  quiet : Bool
  /-- The name of the terminal, if it is known. -/
  terminal : Option String
deriving DecidableEq

namespace Printer

/-- The terminals that draw icons of two code points too narrow. -/
def narrowTerminals : List String := ["Apple_Terminal", "vscode"]

/-- An icon as the terminal needs it. -/
def pad (p : Printer) (icon : String) : String :=
  match p.terminal with
  | some name => if narrowTerminals.contains name && icon.length == 2 then icon ++ " " else icon
  | none => icon

/-- What is printed of a text. -/
def emit (p : Printer) (text : String) : String := if p.quiet then "" else text

/-- A line. -/
def line (p : Printer) (message : String) : String := p.emit (message ++ "\n")

/-- A message behind an icon. -/
def message (p : Printer) (icon : Icon) (text : String) : String :=
  p.emit (p.pad icon.text ++ " " ++ text)

/-- A line behind an icon. -/
def messageLine (p : Printer) (icon : Icon) (text : String) : String :=
  p.emit (p.pad icon.text ++ " " ++ text ++ "\n")

end Printer
end AuthSigner
