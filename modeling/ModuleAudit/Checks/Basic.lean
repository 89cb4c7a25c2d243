import ModuleAudit.Inspection.Programs

/-!
# Checks and their verdicts

A check looks at the files of a module and gives a `Verdict`: a severity and a message. A verdict
without a severity is a violation, which counts as the rule's level says.
-/

namespace ModuleAudit

/-- How a finding counts. -/
inductive Severity
  | pass
  | warn
  | fail
  | skip
  deriving DecidableEq, Repr

/-- The word for a severity. -/
def Severity.word : Severity → String
  | pass => "pass"
  | warn => "warn"
  | fail => "fail"
  | skip => "skip"

/-- What a check concludes. Without a severity it is a violation. -/
structure Verdict where
  severity : Option Severity
  message : String
  deriving DecidableEq, Repr

namespace Verdict

/-- All is well. -/
def ok (message : String) : Verdict := ⟨some .pass, message⟩

/-- A rule is broken. -/
def violation (message : String) : Verdict := ⟨none, message⟩

/-- Something may be wrong, whatever the rule's level. -/
def warn (message : String) : Verdict := ⟨some .warn, message⟩

/-- There is nothing to check. -/
def skip (message : String) : Verdict := ⟨some .skip, message⟩

end Verdict

/-- Where the icons of connectors are. -/
inductive IconPlace
  | besideCheckout
  | directory (p : Path)
  /-- A place was asked for but not told. -/
  | untold
  deriving DecidableEq, Repr

/-- What a run is asked to do. -/
structure Settings where
  /-- Whether the module is compiled. -/
  buildCheck : Bool := false
  /-- The seconds that the build may take, unless they were asked for but not told. -/
  buildTimeout : Option Binary64 := some (.ofInt 300)
  buildCommand : String := "mvn"
  icons : IconPlace := .besideCheckout

namespace Settings

/-- The directory of the icons for a checkout. -/
def iconDirectory (s : Settings) (root : Path) : Except Fault Path :=
  match s.icons with
  | .besideCheckout => .ok (((root.parent.child "supaflow-www").child "public").child "connectors")
  | .directory p => .ok p
  | .untold => .error (.missingPart "list" "is_dir")

end Settings

/-- A check of a module. -/
abbrev Check := FileSet → Settings → Inspect Verdict

/-- What comes back from what runs under a rule: a verdict, or something else, of which only the
kind matters. -/
inductive Conclusion
  | verdict (v : Verdict)
  | other (kindName : String)
  deriving DecidableEq, Repr

/-- What runs under a rule. A check is one that always comes back with a verdict. -/
abbrev RuleCheck := FileSet → Settings → Inspect Conclusion

namespace Check

/-- A check as what runs under a rule. -/
def toRuleCheck (c : Check) : RuleCheck :=
  fun files settings => return .verdict (← c files settings)

/-- A check that looks at nothing but the files. -/
def ofFiles (f : FileSet → Verdict) : Check := fun files _ => pure (f files)

/-- Names in a row. -/
def listed (names : List String) : String := ", ".intercalate names

/-- Names of methods in a row. -/
def listedMethods (names : List String) : String := listed (names.map (· ++ "()"))

end Check

end ModuleAudit
