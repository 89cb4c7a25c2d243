import ModuleAudit.Connector.Files
import ModuleAudit.Fault
import ModuleAudit.Number.Text

/-!
# What an inspection may ask of its surroundings

Checks look at files that are in memory already. A few of them also ask whether something is on the
disk, or have another program run. `Inspect` is such a computation: it reads the `Surroundings`,
keeps a `Journal` of the programs it asked for and of what it logged, and gives an answer or a
fault. The journal survives a fault.
-/

namespace ModuleAudit

/-- For how many seconds a program may run at most, as far as a number was told. -/
structure TimeLimit where
  seconds : Option Binary64
  deriving DecidableEq, Repr

/-- The limit in a layout for numbers. -/
def TimeLimit.text (layout : Layout) (limit : TimeLimit) : String :=
  match limit.seconds with
  | some seconds => seconds.text layout
  | none => "[]"

/-- A program that is to run: its arguments, where it runs, and for how long. -/
structure Call where
  args : List String
  directory : Path
  timeout : TimeLimit
  deriving DecidableEq, Repr

/-- What comes of running a program. -/
inductive CallResult
  | finished (code : Int) (output errors : String)
  | notFound
  | timedOut
  /-- The system refuses to run it. -/
  | refused (message : String)
  | faulty (fault : Fault)
  deriving Repr

/-- What lies outside an inspection. -/
structure Surroundings where
  disk : Disk
  run : Call → CallResult

/-! ## The journal -/

/-- How much a log line matters. -/
inductive LogLevel
  | debug
  | info
  | warning
  | error
  deriving DecidableEq, Repr

/-- The part of the program that a log line comes from. -/
inductive LogSource
  | program
  | engine
  | rootResolution
  | fileSearch
  | poms
  | buildChecks
  deriving DecidableEq, Repr

/-- A line of the log. -/
structure LogLine where
  level : LogLevel
  source : LogSource
  message : String
  deriving DecidableEq, Repr

/-- What an inspection leaves behind besides its answer, in order. -/
structure Journal where
  calls : List Call := []
  log : List LogLine := []
  deriving Repr

/-- A computation that may ask its surroundings. -/
abbrev Inspect := ReaderT Surroundings (ExceptT Fault (StateM Journal))

namespace Inspect

/-- The answer of an inspection and the journal it leaves. -/
def start {α : Type} (x : Inspect α) (s : Surroundings) (j : Journal := {}) :
    Except Fault α × Journal :=
  StateT.run (ExceptT.run (ReaderT.run x s)) j

/-- Ends without an answer. -/
def fault {α : Type} (f : Fault) : Inspect α := throw f

/-- An answer that is there already. -/
def ofExcept {α : Type} : Except Fault α → Inspect α
  | .ok a => pure a
  | .error e => fault e

/-- The answer of a computation, or the fault it ends with. -/
def attempt {α : Type} (x : Inspect α) : Inspect (Except Fault α) := fun s j =>
  let (answer, j) := x.start s j
  (.ok answer, j)

/-- Logs a line. -/
def log (level : LogLevel) (source : LogSource) (message : String) : Inspect Unit :=
  modify fun j => { j with log := j.log ++ [⟨level, source, message⟩] }

/-- Runs a program. -/
def call (c : Call) : Inspect CallResult := do
  modify fun j => { j with calls := j.calls ++ [c] }
  return (← read).run c

/-- An answer about the disk; a path that cannot be asked about is a fault. -/
def disk (p : Path) (question : Disk → Path → Except AccessError Bool) : Inspect Bool := do
  match question (← read).disk p with
  | .ok b => return b
  | .error e => fault (.access p e)

/-- Whether a directory lies at a path. -/
def hasDirectory (p : Path) : Inspect Bool := disk p Disk.hasDirectory

/-- Whether a file lies at a path. -/
def hasFile (p : Path) : Inspect Bool := disk p Disk.hasFile

/-! ## Running an inspection -/

section Start

variable {α β : Type} (s : Surroundings) (j : Journal)

@[simp] theorem start_pure (a : α) : (pure a : Inspect α).start s j = (.ok a, j) := rfl

/-- A step that ends with a fault ends the inspection, and its journal is kept. -/
theorem start_bind (x : Inspect α) (f : α → Inspect β) :
    (x >>= f).start s j =
      match x.start s j with
      | (.ok a, j) => (f a).start s j
      | (.error e, j) => (.error e, j) := by
  simp only [start, ReaderT.run_bind, ExceptT.run_bind, StateT.run_bind]
  rcases h : StateT.run (ExceptT.run (ReaderT.run x s)) j with ⟨_ | _, _⟩ <;> rfl

@[simp] theorem start_fault (e : Fault) : (fault e : Inspect α).start s j = (.error e, j) := rfl

@[simp] theorem start_ofExcept (x : Except Fault α) : (ofExcept x).start s j = (x, j) := by
  cases x <;> rfl

@[simp] theorem start_attempt (x : Inspect α) :
    x.attempt.start s j = (.ok (x.start s j).1, (x.start s j).2) := rfl

@[simp] theorem start_log (level : LogLevel) (source : LogSource) (message : String) :
    (log level source message).start s j =
      (.ok (), { j with log := j.log ++ [⟨level, source, message⟩] }) := rfl

theorem start_call (c : Call) :
    (call c).start s j = (.ok (s.run c), { j with calls := j.calls ++ [c] }) := rfl

theorem start_read : (read : Inspect Surroundings).start s j = (.ok s, j) := rfl

theorem start_disk (p : Path) (question : Disk → Path → Except AccessError Bool) :
    (disk p question).start s j =
      match question s.disk p with
      | .ok b => (.ok b, j)
      | .error e => (.error (.access p e), j) := by
  rw [disk, start_bind, start_read]
  dsimp only
  split <;> rfl

theorem start_hasDirectory (p : Path) :
    (hasDirectory p).start s j =
      match s.disk.hasDirectory p with
      | .ok b => (.ok b, j)
      | .error e => (.error (.access p e), j) := start_disk s j p Disk.hasDirectory

end Start

end Inspect

end ModuleAudit
