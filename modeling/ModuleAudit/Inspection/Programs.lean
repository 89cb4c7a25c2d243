import ModuleAudit.Inspection.Basic
import ModuleAudit.Text.Occurrence

/-!
# The programs that checks run

`trackedPaths` asks version control which files below a path it knows; `compileModule` has the build
tool compile one module with what it needs. Both turn every way in which a program can disappoint
into a reason in words, except for faults that are not about the program.
-/

namespace ModuleAudit

open ModuleAudit.Text (trim splitLines occursIn)

/-- How many characters of a program's complaint are shown. -/
def shownComplaint : Nat := 200

/-- How long version control may take. -/
def trackingTimeout : TimeLimit := ⟨some (.ofInt 10)⟩

/-- A text, or another one if it is empty. -/
def orElse (s : List Char) (other : String) : String := if s.isEmpty then other else String.ofList s

/-- The files below a path that version control knows, or why they cannot be told. Outside a work
tree nothing is tracked. -/
def trackedPaths (root : Path) (relative : String) : Inspect (Except String (List String)) := do
  match ← Inspect.call ⟨["git", "ls-files", "--", relative], root, trackingTimeout⟩ with
  | .notFound => return .error "git binary not found"
  | .timedOut => return .error "git command timed out"
  | .refused message => return .error ("OS error: " ++ message)
  | .faulty f => Inspect.fault f
  | .finished code output errors =>
    if code != 0 then
      let complaint := (trim errors.toList).take shownComplaint
      if occursIn "not a git repository".toList complaint then return .ok []
      else return .error ("git ls-files failed (" ++ orElse complaint "non-zero exit" ++ ")")
    else
      return .ok (((splitLines output.toList).filter (!·.isEmpty)).map String.ofList)

/-- The outcome of a build and what is said about it. -/
structure BuildResult where
  succeeded : Bool
  reason : String
  deriving DecidableEq, Repr

/-- Whether the program was started. -/
def CallResult.started : CallResult → Bool
  | finished .. | timedOut => true
  | _ => false

/-- What comes of a program within a limit. If no number was told, a program that has started is
given up. -/
def TimeLimit.impose (limit : TimeLimit) (result : CallResult) : CallResult :=
  if limit.seconds.isNone && result.started then
    .faulty (.wrongKind "unsupported operand type(s) for +: 'float' and 'list'")
  else result

/-- Compiles one module of a checkout. -/
def compileModule (root : Path) (modulePath command : String) (timeout : Option Binary64) :
    Inspect BuildResult := do
  let args := [command, "-q", "clean", "compile", "-pl", modulePath, "-am"]
  Inspect.log .info .poms ("running " ++ " ".intercalate args)
  let limit : TimeLimit := ⟨timeout⟩
  match limit.impose (← Inspect.call ⟨args, root, limit⟩) with
  | .notFound => return ⟨false, command ++ " not found on PATH"⟩
  | .timedOut => return ⟨false, "reactor build timed out after " ++ limit.text .general ++ "s"⟩
  | .refused message => return ⟨false, "OS error: " ++ message⟩
  | .faulty f => Inspect.fault f
  | .finished code output errors =>
    if code != 0 then
      let lines := splitLines (trim (output.toList ++ errors.toList))
      let last := match lines.getLast? with
        | some line => String.ofList (line.take shownComplaint)
        | none => "non-zero exit"
      return ⟨false, s!"reactor build failed (exit {code}): " ++ last⟩
    else return ⟨true, "reactor build includes the module"⟩

end ModuleAudit
