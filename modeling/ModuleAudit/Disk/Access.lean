import ModuleAudit.Disk.Basic
import ModuleAudit.Text.Lines
import ModuleAudit.Text.Utf8

/-!
# Looking at a disk

A `Disk` is everything below the root directory, and the directory that relative paths start from. A
path is followed name by name (`Disk.follow`), and the ways in which that fails are the values of
`AccessError`. A question whether something is there answers no, unless the fault is one that says
nothing about presence.
-/

namespace ModuleAudit

/-- Why nothing is found at a path, or what is found cannot be read. -/
inductive AccessError
  | missing
  | notDirectory
  | isDirectory
  | nameTooLong
  /-- The path holds a null character, which no file name does. -/
  | nullCharacter
  deriving DecidableEq, Repr

namespace AccessError

/-- What the fault is called. -/
def message : AccessError → String
  | missing => "No such file or directory"
  | notDirectory => "Not a directory"
  | isDirectory => "Is a directory"
  | nameTooLong => "File name too long"
  | nullCharacter => "embedded null byte"

/-- The number of the fault. -/
def number : AccessError → Nat
  | missing => 2
  | notDirectory => 20
  | isDirectory => 21
  | nameTooLong => 36
  | nullCharacter => 0

end AccessError

/-- The directory at the root, and the one that relative paths start from. -/
structure Disk where
  top : FileTree
  current : Path

namespace Disk

/-- The longest name, in bytes. -/
def longestName : Nat := 255

/-- The longest path, in bytes. -/
def longestPath : Nat := 4095

/-- What lies at the end of a way down from `t`, which lies in the directories `above` (nearest
first). Two dots lead back up. -/
def followFrom (above : List FileTree) (t : FileTree) : List String → Except AccessError FileTree
  | [] => .ok t
  | name :: way =>
    match t with
    | .file _ => .error .notDirectory
    | .directory entries =>
      if name == ".." then
        match above with
        | [] => followFrom [] t way
        | up :: above => followFrom above up way
      else if name.utf8ByteSize > longestName then .error .nameTooLong
      else
        match entries.lookup name with
        | none => .error .missing
        | some next => followFrom (t :: above) next way

/-- The path from the root. -/
def absolute (d : Disk) (p : Path) : Path := d.current.join p

/-- What lies at a path. -/
def follow (d : Disk) (p : Path) : Except AccessError FileTree :=
  let text := p.toString
  if text.toList.contains '\x00' then .error .nullCharacter
  else if text.utf8ByteSize > longestPath then .error .nameTooLong
  else followFrom [] d.top (d.absolute p).parts

/-- An answer about what lies at a path. Only a name that is too long leaves the question open. -/
def ask (d : Disk) (p : Path) (question : FileTree → Bool) : Except AccessError Bool :=
  match d.follow p with
  | .ok t => .ok (question t)
  | .error .nameTooLong => .error .nameTooLong
  | .error _ => .ok false

/-- Whether a directory lies at a path. -/
def hasDirectory (d : Disk) (p : Path) : Except AccessError Bool := d.ask p (·.isDirectory)

/-- Whether a file lies at a path. -/
def hasFile (d : Disk) (p : Path) : Except AccessError Bool := d.ask p (!·.isDirectory)

/-- The bytes of the file at a path. -/
def read (d : Disk) (p : Path) : Except AccessError (List UInt8) :=
  match d.follow p with
  | .ok (.file bytes) => .ok bytes
  | .ok (.directory _) => .error .isDirectory
  | .error e => .error e

/-- The text that the bytes of a file hold: faulty stretches are replaced and line ends folded. -/
def textOf (bytes : List UInt8) : List Char := Text.foldLineEnds (Text.Utf8.decodeLossy bytes)

/-- The files below the directory at a path, with the path of each, in path order. -/
def filesBelow (d : Disk) (p : Path) : List (Path × List UInt8) :=
  match d.follow p with
  | .ok t =>
    (t.files.map fun (way, bytes) => ({ p with parts := p.parts ++ way }, bytes)).mergeSort
      fun a b => a.1.le b.1
  | .error _ => []

/-- The names of a path from the root, with two dots carried out. -/
def carryOut (done : List String) : List String → List String
  | [] => done.reverse
  | name :: rest =>
    if name == ".." then carryOut (done.drop 1) rest else carryOut (name :: done) rest

/-- The path of a directory from the root, without two dots. -/
def resolve (d : Disk) (p : Path) : Path := ⟨1, carryOut [] (d.absolute p).parts⟩

end Disk

end ModuleAudit
