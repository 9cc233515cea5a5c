import AuthSigner.Console.Log
import AuthSigner.Text.Alphanumeric
import AuthSigner.Text.Digits
import AuthSigner.Text.Pieces
import AuthSigner.Text.WhiteSpace

/-! Which records of the log are shown. Directives set levels for the parts of the
program whose names start in some way, and of those that apply to a record the
most specific one decides. A directive for a span of time rather than for
records applies to none. -/
namespace AuthSigner

/-- Why a text is not a directive. -/
inductive DirectiveError where
  | malformed
  | unknownLevel
deriving DecidableEq

def DirectiveError.message : DirectiveError → String
  | .malformed => "invalid filter directive"
  | .unknownLevel => "error parsing level filter: expected one of \"off\", \"error\", \"warn\", \"info\", \"debug\", \"trace\", or a number 0-5"

/-- The least important level that passes, or none if nothing does. -/
abbrev Threshold := Option LogLevel

namespace Threshold

/-- The thresholds by their numbers. -/
def ofNumber? : Nat → Option Threshold
  | 0 => some none
  | 1 => some (some .error)
  | 2 => some (some .warn)
  | 3 => some (some .info)
  | 4 => some (some .debug)
  | 5 => some (some .trace)
  | _ => none

/-- The thresholds by their names, in small letters. -/
def ofName? : String → Option Threshold
  | "off" => some none
  | "error" => some (some .error)
  | "warn" => some (some .warn)
  | "info" => some (some .info)
  | "debug" => some (some .debug)
  | "trace" => some (some .trace)
  | _ => none

/-- The threshold that a text names, in ASCII letters of any case, or by its number. -/
def ofText? (text : List Char) : Option Threshold :=
  let digits := match text with
    | '+' :: rest => rest
    | _ => text
  ((Text.natural? digits).bind ofNumber?) <|> ofName? (String.ofList (text.map Char.toLower))

/-- The level passes. -/
def admits (t : Threshold) (level : LogLevel) : Bool :=
  match t with
  | none => false
  | some least => level.rank ≤ least.rank

end Threshold

/-- Says down to which level the records of a part of the program pass. -/
structure Directive where
  /-- How the name of the part starts, if only some parts are meant. -/
  target : Option String
  /-- The span of time that is meant, if it is not records. -/
  span : Option String
  /-- The fields that a record must have, and their values in a span. -/
  fields : List (String × Option String)
  threshold : Threshold
deriving DecidableEq

namespace Directive

/-- Passes everything. -/
def everything : Directive := ⟨none, none, [], some .trace⟩

/-- Where the reading of a directive stands, and where the piece starts that it is
in. -/
inductive Place where
  | front
  | name (start : Nat)
  | span (start : Nat)
  | field (start : Nat)
  | afterFields
  | afterSpan
  | level (start : Nat)
  | done
deriving DecidableEq

/-- A piece of a text. -/
def piece (text : List Char) (start stop : Nat) : List Char := (text.drop start).take (stop - start)

/-- The directive that a name alone is: a level for everything, or a part of the
program of which everything passes. -/
def withName (d : Directive) (name : List Char) : Directive :=
  match Threshold.ofText? name with
  | some threshold => { d with threshold := threshold, target := none }
  | none => { d with threshold := some .trace, target := some (String.ofList name) }

/-- The directive with this level, where no level is the lowest. -/
def withLevel (d : Directive) (level : List Char) : Except DirectiveError Directive :=
  if level.isEmpty then .ok { d with threshold := some .trace }
  else match Threshold.ofText? level with
    | some threshold => .ok { d with threshold := threshold }
    | none => .error .unknownLevel

/-- The directive with one more field, and perhaps its value after an equals sign. -/
def withField (d : Directive) (field : List Char) : Except DirectiveError Directive :=
  if field.isEmpty then .error .malformed
  else
    let name := String.ofList (field.takeWhile (· ≠ '='))
    let value := match field.dropWhile (· ≠ '=') with
      | _ :: value => some (String.ofList (value.takeWhile (· ≠ '=')))
      | [] => none
    .ok { d with fields := d.fields ++ [(name, value)] }

/-- The character may start a name. -/
def startsName (c : Char) : Bool := ['-', ':', '_'].contains c || Text.isAlphanumeric c

/-- Reads the character at a position. -/
def step (text : List Char) (d : Directive) (place : Place) (i : Nat) (c : Char) :
    Except DirectiveError (Directive × Place) :=
  match place, c with
  | .front, '[' => .ok (d, .span (i + 1))
  | .front, c => if startsName c then .ok (d, .name i) else .error .malformed
  | .name start, '=' =>
    .ok ({ d with target := some (String.ofList (piece text start i)) }, .level (i + 1))
  | .name start, '[' =>
    .ok ({ d with target := some (String.ofList (piece text start i)) }, .span (i + 1))
  | .name start, ',' => .ok (d.withName (text.drop start), .done)
  | .name start, _ => .ok (d, .name start)
  | .span start, ']' =>
    .ok ({ d with span := some (String.ofList (piece text start i)) }, .afterSpan)
  | .span start, '\x7b' =>
    let name := piece text start i
    .ok ({ d with span := if name.isEmpty then none else some (String.ofList name) }, .field (i + 1))
  | .span start, _ => .ok (d, .span start)
  | .field start, '\x7d' => do return (← d.withField (piece text start i), .afterFields)
  | .field start, ',' => do return (← d.withField (piece text start i), .field (i + 1))
  | .field start, _ => .ok (d, .field start)
  | .afterFields, ']' => .ok (d, .afterSpan)
  | .afterSpan, '=' => .ok (d, .level (i + 1))
  | .level start, ',' => do return (← d.withLevel (piece text start i), .done)
  | .level start, _ => .ok (d, .level start)
  | _, _ => .error .malformed

/-- Reads the end. -/
def finish (text : List Char) (d : Directive) : Place → Except DirectiveError Directive
  | .name start => .ok (d.withName (text.drop start))
  | .level start => d.withLevel (text.drop start)
  | .afterSpan | .done => .ok d
  | _ => .error .malformed

/-- Reads the characters of a directive from a position on. -/
def readFrom (text : List Char) (d : Directive) (place : Place) (i : Nat) :
    List Char → Except DirectiveError Directive
  | [] => finish text d place
  | c :: rest => do
    let (d, place) ← step text d place i c
    readFrom text d place (i + 1) rest

/-- The directive that a text is. White space around it is skipped when its marks are
sought; the pieces are cut from the whole text, at the positions of the marks
in what is left. -/
def parse (text : String) : Except DirectiveError Directive :=
  readFrom text.toList everything .front 0 (Text.trimChars text.toList)

/-- The directive is for records, not for spans. -/
def isForRecords (d : Directive) : Bool := d.span.isNone && d.fields.all fun (_, value) => value.isNone

/-- The names of the fields. -/
def fieldNames (d : Directive) : List String := d.fields.map (·.1)

/-- Both directives are for the same records. -/
def sameScope (d e : Directive) : Bool := d.target == e.target && d.fieldNames == e.fieldNames

/-- The directive applies to a record. -/
def appliesTo (d : Directive) (r : LogRecord) : Bool :=
  (match d.target with
    | some target => target.toList.isPrefixOf r.target.toList
    | none => true) &&
  d.fieldNames.all fun name => name == "message" || (r.fields.map (·.1)).contains name

/-- How specific a directive is: one with a longer target before one with a shorter or
none, and then one with more fields. -/
def rank (d : Directive) : Nat × Nat :=
  ((d.target.map fun target => target.length + 1).getD 0, d.fields.length)

/-- Of two directives that apply to one record, the first is to decide. -/
def precedes (d e : Directive) : Bool :=
  if d.rank.1 ≠ e.rank.1 then e.rank.1 < d.rank.1
  else if d.rank.2 ≠ e.rank.2 then e.rank.2 < d.rank.2
  else e.fieldNames < d.fieldNames

end Directive

/-- Directives, no two with the same scope. -/
structure LogFilter where
  directives : List Directive
deriving DecidableEq

namespace LogFilter

/-- Adds a directive, in the place of one with the same scope. -/
def add (f : LogFilter) (d : Directive) : LogFilter :=
  if d.isForRecords then ⟨d :: f.directives.filter (fun e => !d.sameScope e)⟩ else f

/-- The directive that decides on a record. -/
def decider? (f : LogFilter) (r : LogRecord) : Option Directive :=
  (f.directives.filter (·.appliesTo r)).foldl
    (fun best d => match best with
      | none => some d
      | some b => if d.precedes b then some d else some b) none

/-- The record is shown. -/
def passes (f : LogFilter) (r : LogRecord) : Bool :=
  match f.decider? r with
  | some d => d.threshold.admits r.level
  | none => false

/-- The directives of a list with commas, each with its text, or why it is none. -/
def parseList (text : String) : List (String × Except DirectiveError Directive) :=
  ((Text.pieces (· == ',') text.toList).filter (fun piece => !piece.isEmpty)).map fun piece =>
    (String.ofList piece, Directive.parse (String.ofList piece))

/-- The filter of a list with commas. What is no directive in it is left out. Where
nothing is left, errors pass. -/
def ofList (text : String) : LogFilter :=
  match (parseList text).filterMap fun (_, d) => d.toOption with
  | [] => ⟨[{ Directive.everything with threshold := some .error }]⟩
  | directives => directives.foldl add ⟨[]⟩

/-- What the user is told of a list with commas: what is left out, and why. -/
def remarks (text : String) : String :=
  String.join ((parseList text).map fun (piece, d) =>
    match d with
    | .ok _ => ""
    | .error e => "ignoring `" ++ piece ++ "`: " ++ e.message ++ "\n")

/-- The name of the program in the log. -/
def programTarget : String := "stellar_sign_auth"

/-- Adds the directives that texts are, or tells which text is none and why. -/
def addAll (f : LogFilter) : List String → Except (DirectiveError × String) LogFilter
  | [] => .ok f
  | text :: rest =>
    match Directive.parse text with
    | .ok d => (f.add d).addAll rest
    | .error e => .error (e, text)

/-- The filter of a run: a list from the environment, the level that the user wants
for the program, and then the user's own directives. -/
def ofRun (ambient : Option String) (level : LogLevel) (filters : List String) :
    Except (DirectiveError × String) LogFilter :=
  ((ofList (ambient.getD "")).add ⟨some programTarget, none, [], some level⟩).addAll filters

end LogFilter
end AuthSigner
