import ModuleAudit.Inspection.Basic
import ModuleAudit.Text.Blank

/-!
# Finding the checkout

The root of the platform checkout is the one that is asked for, else the one that the environment
names, else the current directory. Only the first of these counts: if it is no directory, the run
ends, and no other one is tried.
-/

namespace ModuleAudit

/-- What is known of the checkout's root before the disk is looked at. -/
structure RootChoice where
  /-- The root that is asked for. -/
  explicit : Option Path := none
  /-- The root that the environment names, unless it is empty. -/
  environment : Option String := none

namespace RootChoice

/-- The variable of the environment that names the root. -/
def variableName : String := "SUPAFLOW_PLATFORM_ROOT"

/-- The root that the environment names. -/
def environmentRoot? (c : RootChoice) : Option String := c.environment.filter (!·.isEmpty)

/-- The places that may hold the checkout, the first first, as they are shown. -/
def searched (c : RootChoice) (current : Path) : List String :=
  (c.explicit.map Path.toString).toList ++
    (c.environmentRoot?.map fun root => "$" ++ variableName ++ " (" ++ root ++ ")").toList ++
    ["cwd (" ++ current.toString ++ ")"]

/-- The place that counts. -/
def candidate (c : RootChoice) (current : Path) : Path :=
  match c.explicit, c.environmentRoot? with
  | some root, _ => root
  | none, some root => .ofString root
  | none, none => current

/-- The root of the checkout. -/
def resolve (c : RootChoice) : Inspect Path := do
  let root := c.candidate (← read).disk.current
  if ← Inspect.hasDirectory root then
    Inspect.log .debug .rootResolution ("platform root resolved to " ++ root.toString)
    return root
  else Inspect.fault (.invocation (.rootMissing root))

/-- Whether a connector can have a name. -/
def isValidName (name : String) : Bool :=
  !name.isEmpty && !name.toList.contains '/' && Text.trim name.toList == name.toList

/-- The module of a connector. -/
def module (c : RootChoice) (name : String) : Inspect Module := do
  if isValidName name then
    let root ← c.resolve
    return ⟨(← read).disk.resolve root, name⟩
  else Inspect.fault (.invocation (.invalidName name))

end RootChoice

end ModuleAudit
