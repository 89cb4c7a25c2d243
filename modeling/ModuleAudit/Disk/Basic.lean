import ModuleAudit.Path

/-!
# Files and directories

A `FileTree` is a file with its bytes or a directory with named entries. `FileTree.insert` builds a
tree path by path, `FileTree.files` lists the files below a directory with the way to each.
-/

namespace ModuleAudit

/-- A file or a directory. -/
inductive FileTree
  | file (bytes : List UInt8)
  | directory (entries : List (String × FileTree))
  deriving Inhabited

namespace FileTree

/-- A directory without entries. -/
def empty : FileTree := directory []

/-- Whether this is a directory. -/
def isDirectory : FileTree → Bool
  | directory _ => true
  | file _ => false

/-- The entry of a directory with a name. -/
def entry? : FileTree → String → Option FileTree
  | directory entries, name => entries.lookup name
  | file _, _ => none

/-- The entries with the one of a name replaced, or added at the end. -/
def setEntry (name : String) (t : FileTree) : List (String × FileTree) → List (String × FileTree)
  | [] => [(name, t)]
  | (n, u) :: rest => if n == name then (n, t) :: rest else (n, u) :: setEntry name t rest

/-- The tree with `t` put at a way down from its top; directories on the way are made. A directory
put where one stands already changes nothing. -/
def insert (t : FileTree) : List String → FileTree → FileTree
  | [], old => if t.isDirectory && old.isDirectory then old else t
  | name :: way, old =>
    let entries := match old with
      | directory entries => entries
      | file _ => []
    directory (setEntry name (insert t way ((entries.lookup name).getD empty)) entries)

mutual

/-- The files in a tree, with the way to each. -/
def files : FileTree → List (List String × List UInt8)
  | file bytes => [([], bytes)]
  | directory entries => filesOf entries

/-- The files in some entries, with the way to each. -/
def filesOf : List (String × FileTree) → List (List String × List UInt8)
  | [] => []
  | (name, t) :: rest => (files t).map (fun (way, bytes) => (name :: way, bytes)) ++ filesOf rest

end

end FileTree

end ModuleAudit
