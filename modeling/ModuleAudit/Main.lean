import ModuleAudit.Command.Program

/-!
# The command line

What the program may look at is read from the disk beforehand; then the program runs, and what it
leaves behind is written. No other programs are there to be run.
-/

namespace ModuleAudit.Command

/-- What lies at a path: a file, or a directory followed by all that is in it. -/
partial def placesAt (path : String) : IO (List (Path × FileTree)) := do
  let place := (← IO.currentDir) / path
  if ← place.isDir then
    let below ← (← place.readDir).toList.mapM fun entry => placesAt entry.path.toString
    return (.ofString path, .empty) :: below.flatten
  else if ← place.pathExists then
    return [(.ofString path, .file (← IO.FS.readBinFile place).toList)]
  else return []

/-- The disk with a tree at a path. -/
def put (disk : Disk) (place : Path × FileTree) : Disk :=
  { disk with top := .insert place.2 (disk.resolve place.1).parts disk.top }

/-- The disk together with what lies at a path. -/
def withPlace (disk : Disk) (path : Path) : IO Disk := do
  return (← placesAt path.toString).foldl put disk

/-- The disk together with the directory at a path, if there is one. -/
def withDirectory (disk : Disk) (path : Path) : IO Disk := do
  let place := (← IO.currentDir) / path.toString
  return if ← place.isDir then put disk (path, .empty) else disk

/-- What a run may look at: the checkout's root and build file, the module, the catalog and the
icons. -/
def diskFor (e : Environment) (r : Request) (disk : Disk) : IO Disk := do
  let root := (RootChoice.mk r.root e.root).candidate disk.current
  let module : Module := ⟨root, r.connector⟩
  let icons := ((settingsOf r).iconDirectory root).toOption.toList
  let places := root.child "pom.xml" :: module.directory :: r.catalog.toList ++ icons
  places.foldlM withPlace (← withDirectory disk root)

/-- The time for the log: hours, minutes and seconds. -/
def clockText (milliseconds : Nat) : String :=
  let seconds := milliseconds / 1000
  ":".intercalate
    [padded 2 (seconds / 3600 % 24), padded 2 (seconds / 60 % 60), padded 2 (seconds % 60)]

/-- The surroundings of a run with these arguments. -/
def surroundingsFor (e : Environment) (arguments : List String) : IO Surroundings := do
  let disk : Disk := ⟨.empty, .ofString (← IO.currentDir).toString⟩
  match Request.ofArguments arguments with
  | .ok r => return ⟨← diskFor e r disk, fun _ => .notFound⟩
  | .error _ => return ⟨disk, fun _ => .notFound⟩

end ModuleAudit.Command

open ModuleAudit ModuleAudit.Command in
/-- Runs the program, and ends with its exit code. A fault is told by its kind and its message. -/
def main (arguments : List String) : IO UInt32 := do
  let root ← IO.getEnv RootChoice.variableName
  let e : Environment := ⟨root, .ofString "catalog", clockText (← IO.monoMsNow)⟩
  match (run e (← surroundingsFor e arguments) arguments).1 with
  | .ok transcript =>
    IO.eprint transcript.errors
    IO.print transcript.output
    return UInt32.ofNat transcript.exitCode
  | .error fault =>
    IO.eprintln (fault.kindName ++ ": " ++ fault.message)
    return 1
