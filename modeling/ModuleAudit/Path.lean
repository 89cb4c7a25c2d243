/-!
# Paths

A `Path` is a list of names under an anchor: nothing for a relative path, one slash for an absolute
one, two slashes for the paths that the standard sets apart. Empty names and single dots never occur
in it, two dots may. Paths are ordered by their lists of components, so what lies in a directory
stays together.
-/

namespace ModuleAudit

/-- A path in normal form. -/
structure Path where
  /-- How many slashes the path starts with: none, one or two. -/
  slashes : Nat
  parts : List String
  deriving DecidableEq, Repr, Inhabited

namespace Path

/-- The stretches of a text between the occurrences of a character. -/
def splitAt (sep : Char) : List Char → List (List Char)
  | [] => [[]]
  | c :: rest =>
    match splitAt sep rest with
    | [] => [[]]
    | s :: ss => if c == sep then [] :: s :: ss else (c :: s) :: ss

/-- The names between slashes, without those that go nowhere. -/
def names (s : List Char) : List String :=
  (splitAt '/' s).filterMap fun name =>
    if name.isEmpty || name == ['.'] then none else some (String.ofList name)

/-- The path that a text spells. More than two slashes at the front count as one. -/
def ofString (s : String) : Path :=
  let leading := (s.toList.takeWhile (· == '/')).length
  ⟨if leading ≤ 2 then leading else 1, names s.toList⟩

/-- The path as text; a path to nowhere else is a dot. -/
def toString (p : Path) : String :=
  if p.slashes == 0 && p.parts.isEmpty then "."
  else String.ofList (List.replicate p.slashes '/') ++ "/".intercalate p.parts

/-- Whether the path starts at the root. -/
def isAbsolute (p : Path) : Bool := p.slashes != 0

/-- The path that `q` names when it is read in the directory `p`. -/
def join (p q : Path) : Path := if q.isAbsolute then q else { p with parts := p.parts ++ q.parts }

/-- The path to a text read in the directory `p`. -/
def child (p : Path) (s : String) : Path := p.join (.ofString s)

/-- The last name of the path; empty for an anchor alone. -/
def name (p : Path) : String := p.parts.getLast?.getD ""

/-- The path without its last name. -/
def parent (p : Path) : Path := { p with parts := p.parts.dropLast }

/-- The components by which paths are ordered: the anchor, unless it is empty, and the names. -/
def components (p : Path) : List String :=
  if p.slashes == 0 then p.parts else String.ofList (List.replicate p.slashes '/') :: p.parts

/-- Whether one path comes before another or equals it. -/
def le (p q : Path) : Bool := !q.components.lex p.components fun a b => a < b

/-- The way from a directory to a path below it. -/
def relativeTo? (p base : Path) : Option Path :=
  if p.slashes == base.slashes && base.parts.isPrefixOf p.parts then
    some ⟨0, p.parts.drop base.parts.length⟩
  else none

end Path

end ModuleAudit
