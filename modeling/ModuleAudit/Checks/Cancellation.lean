import ModuleAudit.Checks.Basic

/-!
# Cancellation

How a connector learns that a run is cancelled, checks for it and passes it on (405 to 408).
-/

namespace ModuleAudit.Cancellation

open ModuleAudit.Java (Source)

/-- The methods that check for cancellation. -/
def cancelChecks : List String := ["checkCancellation", "checkCancellationPublic"]

/-- The runtime tells the connector about cancellation. -/
def supplier : Check := .ofFiles fun f =>
  if !f.primary.mentions ["cancellationSupplier", "BooleanSupplier"] then
    .violation "missing cancellationSupplier field"
  else if f.primary.hasCall "getCancellationSupplier" then
    .ok "cancellationSupplier wired from the runtime context"
  else .warn "cancellationSupplier is never wired from runtimeContext.getCancellationSupplier()"

/-- Some file checks for cancellation. -/
def helper : Check := .ofFiles fun f =>
  match f.firstWith (·.mentions cancelChecks) with
  | some s => .ok ("found checkCancellation() in " ++ s.name)
  | none => .violation "missing checkCancellation() helper"

/-- The number of calls in some files that check for cancellation. -/
def checkCount (sources : List Source) : Nat :=
  (sources.flatMap fun s => cancelChecks.map fun name => (s.calls name false).length).foldl (· + ·) 0

/-- Loops come with checks for cancellation. -/
def inLoops : Check := .ofFiles fun f =>
  let loops := f.primary.loopCount
  if loops == 0 then .ok "no explicit loops"
  else
    let checks := checkCount f.sources
    if checks == 0 then .violation s!"{loops} loop(s) but no checkCancellation() calls"
    else .ok s!"{checks} cancellation check(s) for {loops} loop(s)"

/-! ## Passing it on -/

/-- The word for a cancelled run. -/
def cancelled : Pattern := .sequence [.edge, .word "CANCELLED", .edge]

/-- A word about going on. -/
def retryWord : Pattern :=
  .sequence [.edge, .oneOf [.anyCase "retry", .anyCase "continue", .anyCase "break"], .edge]

/-- A word about passing an error on. -/
def rethrowWord : Pattern := .sequence [.edge, .oneOf [.anyCase "throw", .anyCase "rethrow"], .edge]

/-- Whether a line goes on instead of passing an error on. -/
def suppresses (line : List Char) : Bool := retryWord.found line && !rethrowWord.found line

/-- How many lines before and after a line are looked at. -/
def reach : Nat := 5

/-- The lines around the one with an index. -/
def around (lines : List (List Char)) (i : Nat) : List (List Char) :=
  (lines.take (i + reach + 1)).drop (i - reach)

/-- The first line that speaks of cancellation with one nearby that goes on, from an index on. -/
def firstSuppressed (lines : List (List Char)) : (i : Nat) → List (List Char) → Option Nat
  | _, [] => none
  | i, line :: rest =>
    if cancelled.found line && (around lines i).any suppresses then some i
    else firstSuppressed lines (i + 1) rest

/-- Cancellation is passed on at once. -/
def neverRetried : Check := .ofFiles fun f =>
  let lines := Text.splitLines f.primary.bare
  if !lines.any cancelled.found then .ok "no CANCELLED handling to inspect"
  else
    match firstSuppressed lines 0 lines with
    | some i =>
      .violation s!"CANCELLED near line {i + 1} may be retried or suppressed; always rethrow it"
    | none => .ok "CANCELLED is rethrown"

end ModuleAudit.Cancellation
