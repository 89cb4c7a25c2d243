import ModuleAudit.Audit.Evaluation
import ModuleAudit.Catalog.Bundled
import ModuleAudit.Command.LogText
import ModuleAudit.Command.Request
import ModuleAudit.Connector.Checkout
import ModuleAudit.Connector.Location
import ModuleAudit.Report.Json
import ModuleAudit.Report.Text

/-!
# The program

`Command.run` is what the program does for a command line: it reads the request, loads the catalog,
finds the module, evaluates the rules and writes the report. What goes wrong before the rules are
evaluated is told in a few lines, with an exit code of its own. A fault that is not about what was
asked for ends the program without output.
-/

namespace ModuleAudit.Command

/-- What a run of the program leaves behind. -/
structure Transcript where
  exitCode : Nat
  output : String := ""
  errors : String := ""
  deriving DecidableEq, Repr

/-- What a run of the program may know beside its command line and its surroundings. -/
structure Environment where
  /-- The root that the environment names. -/
  root : Option String := none
  /-- The path under which the bundled catalog is known. -/
  bundledPath : Path
  /-- The time of day for the log. -/
  time : String

/-- How to use the program. -/
def usage : String := "Usage: python -m connectorlint verify <connector-name> [platform-root]"

/-- The settings that a request asks for. -/
def settingsOf (r : Request) : Settings :=
  { buildCheck := r.build, buildTimeout := r.buildTimeout, icons := r.icons }

/-- The catalog that a request asks for. -/
def catalogOf (bundledPath : Path) (r : Request) : Inspect Catalog :=
  match r.catalog with
  | some path => Catalog.load path Registry.bundledRuleChecks
  | none =>
    .ofExcept (Catalog.ofDocument bundledPath Registry.bundledRuleChecks Catalog.bundledDocument)

/-- What the rules are evaluated on: the catalog and the files of the module. -/
def prepare (bundledPath : Path) (choice : RootChoice) (r : Request) :
    Inspect (Catalog × FileSet) := do
  let catalog ← catalogOf bundledPath r
  let module ← choice.module r.connector
  return (catalog, ← FileSet.locate module)

/-- The report on the files of a module. -/
def verify (r : Request) (catalog : Catalog) (files : FileSet) : Inspect Report := do
  let classification := Classification.ofSource files.primary
  let findings ← Audit.findings catalog.rules (settingsOf r) files classification
  let report := Report.ofFindings findings (some classification) (some files.module)
    (some files.primary.path)
  Inspect.log .info .program
    s!"{files.module.name}: {report.errorCount} error(s), {report.warningCount} warning(s)"
  return report

/-- What is told of a run that cannot start. -/
def refusal (choice : RootChoice) (current : Path) (cause : InvocationCause) : String :=
  let searched := if choice.explicit.isNone
    then "  searched: " ++ ", ".intercalate (choice.searched current) ++ "\n" else ""
  "error: " ++ cause.message ++ "\n" ++ searched ++ usage ++ "\n"

/-- What an ending without a request leaves behind. -/
def Ending.transcript : Ending → Transcript
  | .help => { exitCode := 0, output := usage ++ "\n" }
  | .version => { exitCode := 0, output := programName ++ " " ++ Report.toolVersion ++ "\n" }
  | .complaint program cause =>
    { exitCode := invocationExitCode, errors := program ++ ": error: " ++ cause.message ++ "\n" }

/-- The text of a report as a request asks for it. -/
def reportText (r : Request) (report : Report) : Except Fault String :=
  if r.json then report.jsonText else report.text

/-- Carries out a request. -/
def carryOut (e : Environment) (s : Surroundings) (r : Request) :
    Except Fault Transcript × List Call :=
  let choice : RootChoice := ⟨r.root, e.root⟩
  match (prepare e.bundledPath choice r).start s with
  | (.error (.invocation cause), journal) =>
    let log := shownLog r.verbosity e.time journal.log
    let errors := log ++ refusal choice s.disk.current cause
    (.ok { exitCode := invocationExitCode, errors }, journal.calls)
  | (.error fault, journal) => (.error fault, journal.calls)
  | (.ok (catalog, files), journal) =>
    let (answer, journal) := (verify r catalog files).start s journal
    let transcript := do
      let report ← answer
      return { exitCode := report.exitCode, output := (← reportText r report) ++ "\n",
               errors := shownLog r.verbosity e.time journal.log }
    (transcript, journal.calls)

/-- A run of the program: what it leaves behind and the programs that it asked for. -/
def run (e : Environment) (s : Surroundings) (arguments : List String) :
    Except Fault Transcript × List Call :=
  match Request.ofArguments arguments with
  | .error ending => (.ok ending.transcript, [])
  | .ok r => carryOut e s r

end ModuleAudit.Command
