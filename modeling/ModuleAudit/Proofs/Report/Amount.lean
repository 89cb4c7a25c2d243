import Mathlib.Algebra.BigOperators.Group.List.Basic
import Mathlib.Order.MinMax
import ModuleAudit.Report.Basic

/-!
# What a report amounts to

The counts, the outcome and the exit code of a report are its `Amount`. Amounts are put together by adding the
counts and taking the worse outcome and the larger exit code, and a report amounts to what its findings amount to
one by one, put together (`amount_ofFindings`). So it does not matter in which order they come, nor how many passed
and skipped rules are among them, and the report on two runs in a row is put together of the reports on each
(`ofFindings_composes`).
-/

namespace ModuleAudit

/-! ## The order of outcomes -/

namespace Outcome

/-- How bad an outcome is. -/
def rank : Outcome → Nat
  | success => 0
  | successWithWarnings => 1
  | failure => 2

theorem rank_injective : Function.Injective rank := by
  intro a b h
  cases a <;> cases b <;> first | rfl | cases h

/-- A success with warnings is worse than a success, and a failure is worse still. -/
instance : LinearOrder Outcome := .lift' rank rank_injective

theorem success_le (o : Outcome) : success ≤ o := Nat.zero_le _

theorem le_failure (o : Outcome) : o ≤ failure := by cases o <;> decide

theorem exitCode_mono : Monotone exitCode := by
  intro a b h
  cases a <;> cases b <;> first | exact Nat.le_refl _ | exact Nat.zero_le _ | exact absurd h (by decide)

/-- Errors make a failure, warnings no more than a success with warnings. -/
theorem ofCounts_eq (errors warnings : Nat) :
    ofCounts errors warnings =
      max (if errors = 0 then success else failure) (if warnings = 0 then success else successWithWarnings) := by
  rcases Nat.eq_zero_or_pos errors with rfl | e <;> rcases Nat.eq_zero_or_pos warnings with rfl | w
  · rfl
  · simp [ofCounts, w, w.ne', success_le]
  · simp [ofCounts, e, e.ne', le_failure]
  · simp [ofCounts, e, e.ne', le_failure]

/-- The outcome of counts that are added is the worse one. -/
theorem ofCounts_add (errors errors' warnings warnings' : Nat) :
    ofCounts (errors + errors' : Nat) (warnings + warnings' : Nat) =
      max (ofCounts errors warnings) (ofCounts errors' warnings') := by
  have sum {bad : Outcome} (m n : Nat) : (if m + n = 0 then success else bad) =
      max (if m = 0 then success else bad) (if n = 0 then success else bad) := by
    by_cases hm : m = 0 <;> by_cases hn : n = 0 <;> simp [hm, hn, success_le]
  rw [ofCounts_eq, ofCounts_eq, ofCounts_eq, sum, sum, max_max_max_comm]

end Outcome

/-! ## Amounts -/

/-- What a report amounts to. -/
@[ext]
structure Amount where
  errors : Nat
  warnings : Nat
  outcome : Outcome
  exitCode : Nat
  deriving DecidableEq

namespace Amount

instance : Add Amount where
  add a b := ⟨a.errors + b.errors, a.warnings + b.warnings, max a.outcome b.outcome, max a.exitCode b.exitCode⟩

instance : Zero Amount where
  zero := ⟨0, 0, .success, 0⟩

theorem add_def (a b : Amount) :
    a + b = ⟨a.errors + b.errors, a.warnings + b.warnings, max a.outcome b.outcome, max a.exitCode b.exitCode⟩ :=
  rfl

theorem zero_def : (0 : Amount) = ⟨0, 0, .success, 0⟩ := rfl

instance : AddCommMonoid Amount where
  add_assoc a b c := by simp only [add_def, Nat.add_assoc, max_assoc]
  add_comm a b := by
    simp only [add_def, Nat.add_comm a.errors, Nat.add_comm a.warnings, max_comm a.outcome, max_comm a.exitCode]
  zero_add a := by simp [add_def, zero_def, Outcome.success_le]
  add_zero a := by simp [add_def, zero_def, Outcome.success_le]
  nsmul := nsmulRec

end Amount

/-- What a finding amounts to. -/
def Finding.amount (f : Finding) : Amount :=
  match f.severity with
  | .fail => ⟨1, 0, .failure, 1⟩
  | .warn => ⟨0, 1, .successWithWarnings, 0⟩
  | .pass | .skip => 0

/-- Whether a finding counts toward something. -/
def Finding.counts (f : Finding) : Bool := f.severity == .fail || f.severity == .warn

namespace Report

/-- The counts of a report and what they decide. -/
def amount (r : Report) : Amount := ⟨r.errorCount, r.warningCount, r.outcome, r.exitCode⟩

variable {f : Finding} {fs gs : List Finding} {c : Option Classification} {m : Option Module}
  {p : Option Path}

theorem countOf_append (s : Severity) : countOf s (fs ++ gs) = countOf s fs + countOf s gs :=
  List.countP_append

theorem outcome_append : (ofFindings (fs ++ gs) c m p).outcome =
    max (ofFindings fs c m p).outcome (ofFindings gs c m p).outcome := by
  simp only [ofFindings, countOf_append]
  exact Outcome.ofCounts_add ..

theorem exitCode_append : (ofFindings (fs ++ gs) c m p).exitCode =
    max (ofFindings fs c m p).exitCode (ofFindings gs c m p).exitCode := by
  change (ofFindings (fs ++ gs) c m p).outcome.exitCode = _
  rw [outcome_append, Outcome.exitCode_mono.map_max]
  rfl

/-- The report on findings in two parts is put together of the reports on the parts. -/
theorem amount_append : (ofFindings (fs ++ gs) c m p).amount =
    (ofFindings fs c m p).amount + (ofFindings gs c m p).amount := by
  rw [Amount.add_def, amount, outcome_append, exitCode_append]
  exact Amount.ext (countOf_append _) (countOf_append _) rfl rfl

theorem amount_singleton : (ofFindings [f] c m p).amount = f.amount := by
  obtain ⟨_, _, severity, _⟩ := f
  cases severity <;> rfl

/-- A report amounts to what its findings amount to one by one, put together. -/
theorem amount_ofFindings : (ofFindings fs c m p).amount = (fs.map Finding.amount).sum := by
  induction fs with
  | nil => rfl
  | cons f fs ih =>
    rw [List.map_cons, List.sum_cons, ← ih, ← amount_singleton (c := c) (m := m) (p := p), ← amount_append,
      List.singleton_append]

/-- Findings that do not count leave no trace. -/
theorem sum_filter_counts : ((fs.filter Finding.counts).map Finding.amount).sum =
    (fs.map Finding.amount).sum := by
  induction fs with
  | nil => rfl
  | cons f fs ih =>
    obtain ⟨_, _, severity, _⟩ := f
    cases severity <;> simp [Finding.counts, Finding.amount, ih]

theorem amount_perm (h : fs.Perm gs) : (ofFindings fs c m p).amount = (ofFindings gs c m p).amount := by
  rw [amount_ofFindings, amount_ofFindings, (h.map _).sum_eq]

theorem amount_of_counting (h : fs.filter Finding.counts = gs.filter Finding.counts) :
    (ofFindings fs c m p).amount = (ofFindings gs c m p).amount := by
  rw [amount_ofFindings, amount_ofFindings, ← sum_filter_counts, h, sum_filter_counts]

/-- A finding more, anywhere among others, adds what it amounts to. -/
theorem amount_insert : (ofFindings (fs ++ f :: gs) c m p).amount =
    f.amount + (ofFindings (fs ++ gs) c m p).amount := by
  rw [amount_perm List.perm_middle, ← List.singleton_append, amount_append, amount_singleton]

/-- The report on two lists of findings in a row has the sums of the counts, the worse outcome and the larger exit
code. The order of the findings does not matter for these, and neither do passed and skipped rules among them. A
failure makes any report one of a failure, a warning leaves the exit code as it is. The findings themselves are
kept as they come, whatever the report is about. -/
theorem ofFindings_composes (fs gs : List Finding) (c : Option Classification) (m : Option Module)
    (p : Option Path) :
    let report (fs : List Finding) : Report := ofFindings fs c m p
    (report (fs ++ gs)).errorCount = (report fs).errorCount + (report gs).errorCount ∧
      (report (fs ++ gs)).warningCount = (report fs).warningCount + (report gs).warningCount ∧
      (report (fs ++ gs)).outcome = max (report fs).outcome (report gs).outcome ∧
      (report (fs ++ gs)).exitCode = max (report fs).exitCode (report gs).exitCode ∧
      (∀ hs, fs.Perm hs → (report hs).amount = (report fs).amount) ∧
      (∀ hs, hs.filter Finding.counts = fs.filter Finding.counts → (report hs).amount = (report fs).amount) ∧
      (∀ f, f.severity = .fail →
        (report (fs ++ f :: gs)).outcome = .failure ∧ (report (fs ++ f :: gs)).exitCode = 1) ∧
      (∀ f, f.severity = .warn → (report (fs ++ f :: gs)).exitCode = (report (fs ++ gs)).exitCode) ∧
      (report fs).findings = fs ∧ ∀ c' m' p', (ofFindings fs c' m' p').amount = (report fs).amount := by
  intro report
  have both : (report (fs ++ gs)).amount = (report fs).amount + (report gs).amount := amount_append
  refine ⟨congrArg Amount.errors both, congrArg Amount.warnings both, congrArg Amount.outcome both,
    congrArg Amount.exitCode both, fun hs perm => (amount_perm perm).symm, fun hs => amount_of_counting,
    fun f fails => ?_, fun f warns => ?_, rfl, fun c' m' p' => by rw [amount_ofFindings, amount_ofFindings]⟩
  · have more : (report (fs ++ f :: gs)).amount = ⟨1, 0, .failure, 1⟩ + (report (fs ++ gs)).amount := by
      rw [amount_insert, Finding.amount, fails]
    have failure : (report (fs ++ f :: gs)).outcome = .failure :=
      (congrArg Amount.outcome more).trans (max_eq_left (Outcome.le_failure _))
    exact ⟨failure, congrArg Outcome.exitCode failure⟩
  · have more : (report (fs ++ f :: gs)).amount =
        ⟨0, 1, .successWithWarnings, 0⟩ + (report (fs ++ gs)).amount := by
      rw [amount_insert, Finding.amount, warns]
    exact (congrArg Amount.exitCode more).trans (Nat.zero_max _)

/-- A warning and a skipped rule before a failure, and the same findings in another order. -/
theorem ofFindings_composes_failure :
    let finding (severity : Severity) : Finding := { ruleId := "CHK-101", title := .null, severity, message := "" }
    let fs := [finding .warn, finding .skip]
    let gs := [finding .warn]
    let swapped := [finding .skip, finding .warn]
    fs.Perm swapped ∧ (ofFindings swapped).amount = (ofFindings fs).amount ∧
      gs.filter Finding.counts = fs.filter Finding.counts ∧ (ofFindings gs).amount = (ofFindings fs).amount ∧
      (finding .fail).severity = .fail ∧ (ofFindings (fs ++ finding .fail :: gs)).outcome = .failure ∧
      (finding .warn).severity = .warn ∧
      (ofFindings (fs ++ finding .warn :: gs)).exitCode = (ofFindings (fs ++ gs)).exitCode := by
  intro finding fs gs swapped
  obtain ⟨-, -, -, -, perm, counting, fails, warns, -⟩ := ofFindings_composes fs gs none none none
  have reordered : fs.Perm swapped := .swap ..
  exact ⟨reordered, perm swapped reordered, rfl, counting gs rfl, rfl, (fails _ rfl).1, rfl, warns _ rfl⟩

end Report

end ModuleAudit
