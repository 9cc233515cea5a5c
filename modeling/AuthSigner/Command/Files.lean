import AuthSigner.Bytes.Octets
import AuthSigner.Text.Pieces

/-! The files that a run may read, and what names them. A name is a byte string, and need not be
text. Names are looked up from the working directory, or, if they start with a slash, from the
root. Every part of a name but the last must be that of a directory, and so must the last if a
slash follows it. -/
namespace AuthSigner

/-- Why the system does not do what it is asked for, in its words. -/
structure SystemError where
  message : String
deriving DecidableEq

namespace SystemError

/-- A failure that the system numbers. -/
def ofCode (text : String) (code : Nat) : SystemError := ⟨s!"{text} (os error {code})"⟩

/-- There is nothing of the name. -/
def missing : SystemError := ofCode "No such file or directory" 2

/-- The name goes through a file. -/
def notDirectory : SystemError := ofCode "Not a directory" 20

/-- A directory is read as if it were a file. -/
def isDirectory : SystemError := ofCode "Is a directory" 21

def nameTooLong : SystemError := ofCode "File name too long" 36

/-- The name cannot be handed to the system. -/
def zeroByte : SystemError := ⟨"file name contained an unexpected NUL byte"⟩

end SystemError

inductive FileKind where
  | regular
  | directory
  /-- A device, or another file that is not a regular one. -/
  | special
deriving DecidableEq

/-- What a name may stand for. -/
structure FileNode where
  kind : FileKind
  /-- What comes of opening it and reading it to its end. -/
  content : Except SystemError Bytes

namespace FileNode

def file (content : Bytes) : FileNode := ⟨.regular, .ok content⟩

/-- A directory can be opened, but not be read. -/
def directory : FileNode := ⟨.directory, .error .isDirectory⟩

def device (content : Bytes) : FileNode := ⟨.special, .ok content⟩

end FileNode

/-- Files and directories, each with the names on the way to it from the root, and the
place of the working directory. -/
structure FileTree where
  nodes : List (List Bytes × FileNode)
  working : List Bytes

namespace FileTree

/-- What stands at a place. A place above another is a directory. -/
def node (t : FileTree) (place : List Bytes) : Except SystemError FileNode :=
  match t.nodes.lookup place with
  | some node => .ok node
  | none =>
    if place.isEmpty || t.nodes.any (fun (other, _) => place.isPrefixOf other) ||
      place.isPrefixOf t.working then .ok .directory else .error .missing

/-- The byte between the parts of a name. -/
def slash : UInt8 := '/'.toUInt8

/-- The byte of which the names of a directory itself and of the one above it consist. -/
def dot : UInt8 := '.'.toUInt8

/-- The parts of a name, between its slashes. -/
def parts (name : Bytes) : List Bytes := Text.pieces (fun b => b == slash) name

/-- The length that no part of a name may pass. -/
def partLimit : Nat := 255

/-- One step on the way: into a directory, to the one above, or nowhere. -/
def step (t : FileTree) (place : List Bytes) (part : Bytes) : Except SystemError (List Bytes) := do
  if (← t.node place).kind ≠ .directory then .error .notDirectory
  else if part = [] ∨ part = [dot] then return place
  else if part = [dot, dot] then return place.dropLast
  else if partLimit < part.length then .error .nameTooLong
  else
    let _ ← t.node (place ++ [part])
    return place ++ [part]

/-- The length that no name may reach. -/
def nameLimit : Nat := 4096

/-- What a name stands for, or why it cannot be looked up. No name is empty. -/
def find (t : FileTree) (name : Bytes) : Except SystemError FileNode :=
  if 0 ∈ name then .error .zeroByte
  else if name = [] then .error .missing
  else if nameLimit ≤ name.length then .error .nameTooLong
  else do
    let start := if name.head? = some slash then [] else t.working
    t.node (← (parts name).foldlM t.step start)

/-- Where the working directory is taken to be. -/
def usualWorking : List Bytes := ["tmp", "work"].map Bytes.ofString

/-- What stands in every system, beside its standard input. -/
def system (stdin : Bytes) : List (List Bytes × FileNode) :=
  ["bin", "boot", "dev", "etc", "home", "lib", "media", "mnt", "opt", "proc", "root", "run", "sbin",
    "srv", "sys", "tmp", "usr", "var"].map (fun name => ([Bytes.ofString name], .directory)) ++
  [(["dev", "null"].map Bytes.ofString, .device []), (["dev", "stdin"].map Bytes.ofString, .device stdin)]

/-- The tree with these files in the working directory and nothing else in it. A
name that ends in a slash is that of a directory. -/
def ofFiles (stdin : Bytes) (files : List (Bytes × Bytes)) : FileTree where
  nodes := files.map (fun (name, content) =>
      (usualWorking ++ (parts name).filter (fun part => part ≠ [] ∧ part ≠ [dot]),
        if name.getLast? = some slash then .directory else .file content)) ++ system stdin
  working := usualWorking

end FileTree
end AuthSigner
