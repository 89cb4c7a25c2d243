import Mathlib.Data.List.Sort
import ModuleAudit.Audit.Evaluation
import ModuleAudit.Proofs.Condition.Grammar

/-!
# What a run of rules comes to

A rule comes to its finding in one of four ways (`Step`): its group does not apply, it does not
apply itself, a shared base class takes care of it, or its check is called. A run takes one step for
each rule, in the order of the ids (`Run`).

* `evaluate_start`, `findings_start`: rules that are ready to be decided (`Rule.Ready`) take a step
  each, and the run gives their findings;
* `Run.meter_eq`: how often a run calls the check of a rule;
* `run_complete`: a run is complete, in order, and no rule has a say in the finding of another one.
-/

namespace ModuleAudit

/-! ## Rules that can be decided -/

namespace Condition

/-- A condition that is absent, or in which the check finds nothing. -/
def Acceptable (condition : Value) : Prop := condition = .null ∨ validate condition = .ok []

theorem Acceptable.evaluate_ok {condition : Value} (h : Acceptable condition) {facts : Facts}
    (hashable : ∀ f ∈ facts, f.2.isHashable = true) : ∃ b, evaluate facts condition = .ok b := by
  rcases h with rfl | h
  · exact ⟨true, by rw [evaluate]⟩
  · exact (wellFormed_of_check h).evaluate_ok hashable

end Condition

theorem Classification.facts_hashable (c : Classification) :
    ∀ f ∈ c.facts, f.2.isHashable = true := by
  simp [facts, Value.isHashable]

namespace Rule

/-- Why the rule does not apply can be told, if it does not: the skip message that is asked for can
be filled in with the facts. -/
structure Explained (r : Rule) (facts : Facts) : Prop where
  group : Condition.evaluate facts r.group.condition = .ok false →
    ∃ reason, skipText facts r.group.skip = .ok reason
  own : Condition.evaluate facts r.group.condition = .ok true →
    Condition.evaluate facts r.condition = .ok false → ∃ reason, skipText facts r.skip = .ok reason

/-- The conditions of the rule and of its group are acceptable, and so are their skip messages. -/
structure Ready (r : Rule) (facts : Facts) : Prop extends Explained r facts where
  groupCondition : Condition.Acceptable r.group.condition
  condition : Condition.Acceptable r.condition

/-- The rule and its group apply to modules with these facts. -/
structure Applies (r : Rule) (facts : Facts) : Prop where
  group : Condition.evaluate facts r.group.condition = .ok true
  own : Condition.evaluate facts r.condition = .ok true

theorem applies_iff {r : Rule} {facts : Facts} :
    r.Applies facts ↔ Condition.evaluate facts r.group.condition = .ok true ∧
      Condition.evaluate facts r.condition = .ok true :=
  ⟨fun h => ⟨h.group, h.own⟩, fun h => ⟨h.1, h.2⟩⟩

/-- A shared base class takes care of the rule. -/
def LeftToBase (r : Rule) (c : Classification) : Prop :=
  r.inherited = true ∧ c.delegation = .baseDelegated

/-- The severity and the message that an answer of the rule's check stands for. -/
def concluded (r : Rule) : Except Fault Conclusion → Severity × String
  | .ok (.verdict ⟨some severity, message⟩) => (severity, message)
  | .ok (.verdict ⟨none, message⟩) => (if r.level = .error then .fail else .warn, message)
  | .ok (.other kindName) =>
    (.fail, "rule raised TypeError: predicate returned " ++ kindName ++ ", expected Verdict")
  | .error e => (.fail, "rule raised " ++ e.kindName ++ ": " ++ e.message)

end Rule

namespace Audit

variable {settings : Settings} {files : FileSet} {c : Classification} {s : Surroundings}

/-! ## Steps -/

/-- The finding tells this severity and this message of the rule, and how to mend it only with a
failure. -/
structure Tells (r : Rule) (severity : Severity) (message : String) (f : Finding) : Prop where
  ruleId : f.ruleId = r.id
  title : f.title = r.title
  severity : f.severity = severity
  message : f.message = message
  remediation : f.remediation = if f.severity = .fail then r.remediation else .null
  group : f.group = r.group.title

theorem tells_iff {r : Rule} {severity : Severity} {message : String} {f : Finding} :
    Tells r severity message f ↔ f = findingOf r severity message := by
  constructor
  · intro h
    have remediation := h.severity ▸ h.remediation
    cases f
    simp only [findingOf, Finding.mk.injEq, beq_iff_eq]
    exact ⟨h.ruleId, h.title, h.severity, h.message, remediation, h.group⟩
  · rintro rfl
    exact ⟨rfl, rfl, rfl, rfl, by simp only [findingOf, beq_iff_eq], rfl⟩

theorem Tells.unique {r : Rule} {severity : Severity} {message : String} {f f' : Finding}
    (h : Tells r severity message f) (h' : Tells r severity message f') : f = f' :=
  (tells_iff.1 h).trans (tells_iff.1 h').symm

/-- What one rule comes to from a journal on, and the journal after it. -/
inductive Step (settings : Settings) (files : FileSet) (c : Classification) (s : Surroundings)
    (r : Rule) (j : Journal) : Finding → Journal → Prop
  | groupFails {reason f} (fails : Condition.evaluate c.facts r.group.condition = .ok false)
      (message : Rule.skipText c.facts r.group.skip = .ok reason) (tells : Tells r .skip reason f) :
      Step settings files c s r j f j
  | ownFails {reason f} (group : Condition.evaluate c.facts r.group.condition = .ok true)
      (fails : Condition.evaluate c.facts r.condition = .ok false)
      (message : Rule.skipText c.facts r.skip = .ok reason) (tells : Tells r .skip reason f) :
      Step settings files c s r j f j
  | inherited {f} (applies : r.Applies c.facts) (base : r.LeftToBase c)
      (tells : Tells r .pass "inherited from base" f) : Step settings files c s r j f j
  | called {answer j' lines f} (applies : r.Applies c.facts) (base : ¬ r.LeftToBase c)
      (call : (r.check files settings).start s j = (answer, j'))
      (tells : Tells r (r.concluded answer).1 (r.concluded answer).2 f)
      (engine : ∀ l ∈ lines, l.source = .engine) :
      Step settings files c s r j f { j' with log := j'.log ++ lines }

theorem concluded_verdict (r : Rule) (v : Verdict) :
    r.concluded (.ok (.verdict v)) = (severityOf r v, v.message) := by
  rcases v with ⟨_ | severity, message⟩
  · cases h : r.level <;> simp [Rule.concluded, severityOf, h, RuleLevel.severity]
  · rfl

theorem concluded_error (r : Rule) (e : Fault) :
    r.concluded (.error e) = (.fail, "rule raised " ++ faultText e) := by
  simp only [Rule.concluded, faultText, String.append_assoc]

theorem concluded_other (r : Rule) (kindName : String) :
    r.concluded (.ok (.other kindName)) =
      (.fail, "rule raised " ++ faultText (notVerdict kindName)) := by
  have text : faultText (notVerdict kindName) =
      "TypeError" ++ ": " ++ ("predicate returned " ++ kindName ++ ", expected Verdict") := rfl
  rw [text]
  simp only [Rule.concluded, ← String.append_assoc, String.reduceAppend]

theorem verdictOf_start (r : Rule) (settings : Settings) (files : FileSet) (s : Surroundings)
    (j : Journal) :
    (verdictOf r settings files).start s j =
      match (r.check files settings).start s j with
      | (.ok (.verdict v), j) => (.ok (.ok v), j)
      | (.ok (.other kindName), j) => (.ok (.error (notVerdict kindName)), j)
      | (.error e, j) => (.ok (.error e), j) := by
  rw [verdictOf, Inspect.start_bind, Inspect.start_attempt]
  rcases (r.check files settings).start s j with ⟨e | v | kindName, j'⟩ <;> rfl

/-- A check is called once, and the engine logs what came of it. -/
theorem examine_start {r : Rule} {j j' : Journal} {answer : Except Fault Conclusion}
    (call : (r.check files settings).start s j = (answer, j')) :
    ∃ lines : List LogLine, (∀ l ∈ lines, l.source = .engine) ∧
      (examine r settings files).start s j =
        (.ok (findingOf r (r.concluded answer).1 (r.concluded answer).2),
          { j' with log := j'.log ++ lines }) := by
  rw [examine, Inspect.start_bind, verdictOf_start, call]
  match answer with
  | .ok (.verdict v) =>
    rw [concluded_verdict]
    exact ⟨[⟨.debug, .engine, _⟩], by simp, rfl⟩
  | .ok (.other kindName) =>
    rw [concluded_other]
    exact ⟨[⟨.error, .engine, _⟩, ⟨.debug, .engine, _⟩], by simp, by
      simp only [Inspect.start_bind, Inspect.start_log, Inspect.start_pure, List.append_assoc]; rfl⟩
  | .error e =>
    rw [concluded_error]
    exact ⟨[⟨.error, .engine, _⟩, ⟨.debug, .engine, _⟩], by simp, by
      simp only [Inspect.start_bind, Inspect.start_log, Inspect.start_pure, List.append_assoc]; rfl⟩

theorem skipReason_eq (r : Rule) (facts : Facts) {groupHolds holds : Bool}
    (hgroup : Condition.evaluate facts r.group.condition = .ok groupHolds)
    (hown : Condition.evaluate facts r.condition = .ok holds) :
    r.skipReason facts =
      if groupHolds = false then (Rule.skipText facts r.group.skip).map some
      else if holds = false then (Rule.skipText facts r.skip).map some
      else .ok none := by
  rw [Rule.skipReason, hgroup, hown]
  cases groupHolds <;> cases holds <;> rfl

theorem leftToBase_iff {r : Rule} :
    (r.inherited && c.isBaseDelegated) = true ↔ r.LeftToBase c := by
  simp [Classification.isBaseDelegated, Rule.LeftToBase]

/-- A rule that is ready takes a step. -/
theorem evaluate_start {r : Rule} (h : r.Ready c.facts) (settings : Settings) (files : FileSet)
    (s : Surroundings) (j : Journal) :
    ∃ f j', (evaluate settings files c r).start s j = (.ok f, j') ∧
      Step settings files c s r j f j' := by
  obtain ⟨groupHolds, hgroup⟩ := h.groupCondition.evaluate_ok c.facts_hashable
  obtain ⟨holds, hown⟩ := h.condition.evaluate_ok c.facts_hashable
  rw [evaluate, Inspect.start_bind, Inspect.start_ofExcept, skipReason_eq r c.facts hgroup hown]
  match groupHolds, holds with
  | false, _ =>
    obtain ⟨reason, hreason⟩ := h.group hgroup
    rw [hreason]
    exact ⟨_, _, rfl, .groupFails hgroup hreason (tells_iff.2 rfl)⟩
  | true, false =>
    obtain ⟨reason, hreason⟩ := h.own hgroup hown
    rw [hreason]
    exact ⟨_, _, rfl, .ownFails hgroup hown hreason (tells_iff.2 rfl)⟩
  | true, true =>
    by_cases base : r.LeftToBase c
    · exact ⟨_, _, by simp [leftToBase_iff.2 base, inheritedMessage],
        .inherited ⟨hgroup, hown⟩ base (tells_iff.2 rfl)⟩
    · obtain ⟨lines, engine, start⟩ := examine_start (r := r) (j := j) rfl
      exact ⟨_, _, by simpa [mt leftToBase_iff.1 base] using start,
        .called ⟨hgroup, hown⟩ base rfl (tells_iff.2 rfl) engine⟩

namespace Step

variable {r : Rule} {j j' : Journal} {f : Finding}

theorem exists_tells (h : Step settings files c s r j f j') :
    ∃ severity message, Tells r severity message f := by
  cases h with
  | groupFails _ _ tells | ownFails _ _ _ tells | inherited _ _ tells | called _ _ _ tells =>
    exact ⟨_, _, tells⟩

theorem ruleId_eq (h : Step settings files c s r j f j') : f.ruleId = r.id :=
  let ⟨_, _, tells⟩ := h.exists_tells
  tells.ruleId

/-- Only a failure comes with a remediation. -/
theorem remediation_eq (h : Step settings files c s r j f j') :
    f.remediation = if f.severity = .fail then r.remediation else .null := by
  obtain ⟨_, _, tells⟩ := h.exists_tells
  exact tells.remediation

end Step

/-! ## Runs -/

/-- What rules in a row come to from a journal on, and the journal after them. -/
inductive Run (settings : Settings) (files : FileSet) (c : Classification) (s : Surroundings) :
    List Rule → Journal → List Finding → Journal → Prop
  | nil {j} : Run settings files c s [] j [] j
  | cons {r rules j f j' fs j''} (step : Step settings files c s r j f j')
      (rest : Run settings files c s rules j' fs j'') :
      Run settings files c s (r :: rules) j (f :: fs) j''

theorem mapM_start {rules : List Rule} (h : ∀ r ∈ rules, r.Ready c.facts) (settings : Settings)
    (files : FileSet) (s : Surroundings) (j : Journal) :
    ∃ fs j', (rules.mapM (evaluate settings files c)).start s j = (.ok fs, j') ∧
      Run settings files c s rules j fs j' := by
  induction rules generalizing j with
  | nil => exact ⟨[], j, rfl, .nil⟩
  | cons r rules ih =>
    obtain ⟨hr, hrules⟩ := List.forall_mem_cons.1 h
    obtain ⟨f, j', step, hstep⟩ := evaluate_start hr settings files s j
    obtain ⟨fs, j'', rest, hrest⟩ := ih hrules j'
    refine ⟨f :: fs, j'', ?_, .cons hstep hrest⟩
    rw [List.mapM_cons, Inspect.start_bind, step]
    dsimp only
    rw [Inspect.start_bind, rest]
    rfl

/-- Rules that are ready run to the end, in the order of their ids. -/
theorem findings_start {rules : List Rule} (h : ∀ r ∈ rules, r.Ready c.facts) (settings : Settings)
    (files : FileSet) (s : Surroundings) (j : Journal) :
    ∃ line fs j', line.source = .engine ∧
      (findings rules settings files c).start s j = (.ok fs, j') ∧
      Run settings files c s (inOrder rules) { j with log := j.log ++ [line] } fs j' := by
  have ready : ∀ r ∈ inOrder rules, r.Ready c.facts := fun r hr => h r (List.mem_mergeSort.1 hr)
  let line : LogLine := ⟨.info, .engine, s!"evaluating {rules.length} rules for {files.module.name} " ++
    s!"({c.purpose}, {c.delegation.word})"⟩
  obtain ⟨fs, j', start, run⟩ := mapM_start ready settings files s { j with log := j.log ++ [line] }
  refine ⟨line, fs, j', rfl, ?_, run⟩
  rw [findings, Inspect.start_bind, Inspect.start_log]
  exact start

/-! ### Runs that end early -/

theorem map_some_eq_ok {ε α : Type} {x : Except ε α} {o : Option α} (h : x.map some = .ok o) :
    ∃ a, x = .ok a := by
  cases x with
  | error e => exact nomatch h
  | ok a => exact ⟨a, rfl⟩

/-- If it can be told why a rule does not apply, the skip message that was asked for could be filled
in. -/
theorem explained_of_skipReason {r : Rule} {facts : Facts} {reason : Option String}
    (h : r.skipReason facts = .ok reason) : r.Explained facts := by
  constructor
  · intro fails
    rw [Rule.skipReason, fails] at h
    exact map_some_eq_ok h
  · intro holds fails
    rw [Rule.skipReason, holds, fails] at h
    exact map_some_eq_ok h

theorem explained_of_evaluate {r : Rule} {j j' : Journal} {f : Finding}
    (h : (evaluate settings files c r).start s j = (.ok f, j')) : r.Explained c.facts := by
  rw [evaluate, Inspect.start_bind, Inspect.start_ofExcept] at h
  cases reason : r.skipReason c.facts with
  | error e =>
    rw [reason] at h
    exact nomatch (Prod.mk.inj h).1
  | ok o => exact explained_of_skipReason reason

theorem explained_of_mapM {rules : List Rule} {j j' : Journal} {fs : List Finding}
    (h : (rules.mapM (evaluate settings files c)).start s j = (.ok fs, j')) :
    ∀ r ∈ rules, r.Explained c.facts := by
  induction rules generalizing j fs j' with
  | nil => exact nofun
  | cons r rules ih =>
    rw [List.mapM_cons, Inspect.start_bind] at h
    split at h
    · rename_i f j₁ first
      rw [Inspect.start_bind] at h
      split at h
      · rename_i others
        exact List.forall_mem_cons.2 ⟨explained_of_evaluate first, ih others⟩
      · exact nomatch (Prod.mk.inj h).1
    · exact nomatch (Prod.mk.inj h).1

/-- A run that comes to its end has filled in all skip messages that were asked for. -/
theorem explained_of_findings {rules : List Rule} {j j' : Journal} {fs : List Finding}
    (h : (findings rules settings files c).start s j = (.ok fs, j')) :
    ∀ r ∈ rules, r.Explained c.facts := by
  rw [findings, Inspect.start_bind, Inspect.start_log] at h
  exact fun r hr => explained_of_mapM h r (List.mem_mergeSort.2 hr)

/-! ### The order of the rules -/

theorem inOrder_pairwise (rules : List Rule) : (inOrder rules).Pairwise fun a b => a.id ≤ b.id := by
  have sorted : (inOrder rules).Pairwise fun a b => decide (a.id ≤ b.id) = true :=
    List.pairwise_mergeSort (by simpa using fun a b c => String.le_trans)
      (by simpa using fun a b => String.le_total _ _) rules
  exact sorted.imp of_decide_eq_true

/-- Rules with ids of their own are put in the same order, however they are given. -/
theorem inOrder_perm {rules rules' : List Rule} (distinct : (rules.map (·.id)).Nodup)
    (h : rules'.Perm rules) : inOrder rules' = inOrder rules := by
  have perm : (inOrder rules').Perm (inOrder rules) :=
    (List.mergeSort_perm ..).trans (h.trans (List.mergeSort_perm ..).symm)
  refine perm.eq_of_pairwise ?_ (inOrder_pairwise rules') (inOrder_pairwise rules)
  intro a b ha hb hab hba
  have ha : a ∈ rules := h.mem_iff.1 (List.mem_mergeSort.1 ha)
  have hb : b ∈ rules := List.mem_mergeSort.1 hb
  exact List.inj_on_of_nodup_map distinct ha hb (String.le_antisymm hab hba)

theorem inOrder_strict {rules : List Rule} (distinct : (rules.map (·.id)).Nodup) :
    (inOrder rules).Pairwise fun a b => a.id < b.id := by
  have perm : (inOrder rules).Perm rules := List.mergeSort_perm ..
  have apart := List.pairwise_map.1 ((perm.map _).nodup_iff.2 distinct)
  refine List.Pairwise.imp₂ (fun a b le ne => ?_) (inOrder_pairwise rules) apart
  exact String.not_le.1 fun le' => ne (String.le_antisymm le le')

theorem findings_perm {rules rules' : List Rule} (distinct : (rules.map (·.id)).Nodup)
    (h : rules'.Perm rules) (settings : Settings) (files : FileSet) (c : Classification) :
    findings rules' settings files c = findings rules settings files c := by
  simp only [findings, h.length_eq, inOrder_perm distinct h]

/-! ### Findings of a run -/

namespace Run

variable {rules : List Rule} {j j' : Journal} {fs : List Finding}

theorem ruleIds_eq (h : Run settings files c s rules j fs j') :
    fs.map (·.ruleId) = rules.map (·.id) := by
  induction h with
  | nil => rfl
  | cons step _ ih => rw [List.map_cons, List.map_cons, step.ruleId_eq, ih]

theorem exists_step (h : Run settings files c s rules j fs j') {r : Rule} (hr : r ∈ rules) :
    ∃ f ∈ fs, ∃ j₁ j₂, Step settings files c s r j₁ f j₂ := by
  induction h with
  | nil => exact nomatch hr
  | cons step _ ih =>
    rcases List.mem_cons.1 hr with rfl | hr
    · exact ⟨_, List.mem_cons_self, _, _, step⟩
    · obtain ⟨f, hf, found⟩ := ih hr
      exact ⟨f, List.mem_cons_of_mem _ hf, found⟩

theorem exists_rule (h : Run settings files c s rules j fs j') {f : Finding} (hf : f ∈ fs) :
    ∃ r ∈ rules, ∃ j₁ j₂, Step settings files c s r j₁ f j₂ := by
  induction h with
  | nil => exact nomatch hf
  | cons step _ ih =>
    rcases List.mem_cons.1 hf with rfl | hf
    · exact ⟨_, List.mem_cons_self, _, _, step⟩
    · obtain ⟨r, hr, found⟩ := ih hf
      exact ⟨r, List.mem_cons_of_mem _ hr, found⟩

end Run

/-! ### Calls of a check -/

/-- The check of the rule is called. -/
structure Called (c : Classification) (r : Rule) : Prop where
  applies : r.Applies c.facts
  base : ¬ r.LeftToBase c

/-- A meter of the journal that the check of a rule raises by one at each call. The checks of the
other rules and the log lines of the engine leave it. -/
structure Meters (settings : Settings) (files : FileSet) (s : Surroundings) (rules : List Rule)
    (r : Rule) (meter : Journal → Nat) : Prop where
  call : ∀ j, meter ((r.check files settings).start s j).2 = meter j + 1
  other : ∀ r' ∈ rules, r'.id ≠ r.id → ∀ j, meter ((r'.check files settings).start s j).2 = meter j
  engine : ∀ j lines, (∀ l ∈ lines, l.source = .engine) →
    meter { j with log := j.log ++ lines } = meter j

section Meter

variable {r : Rule} {j j' : Journal} {f : Finding} {fs : List Finding} {rules : List Rule}
  {meter : Journal → Nat}

theorem Step.meter_eq (h : Step settings files c s r j f j')
    (m : Meters settings files s rules r meter) :
    (Called c r → meter j' = meter j + 1) ∧ (¬ Called c r → meter j' = meter j) := by
  cases h with
  | groupFails fails => exact ⟨fun h => by simp [h.applies.group] at fails, fun _ => rfl⟩
  | ownFails _ fails => exact ⟨fun h => by simp [h.applies.own] at fails, fun _ => rfl⟩
  | inherited _ base => exact ⟨fun h => absurd base h.base, fun _ => rfl⟩
  | called applies base call _ engine =>
    refine ⟨fun _ => ?_, fun h => absurd ⟨applies, base⟩ h⟩
    rw [m.engine _ _ engine, ← m.call j, call]

theorem Step.meter_other {r' : Rule} (h : Step settings files c s r' j f j')
    (m : Meters settings files s rules r meter) (mem : r' ∈ rules) (ne : r'.id ≠ r.id) :
    meter j' = meter j := by
  cases h with
  | groupFails | ownFails | inherited => rfl
  | called _ _ call _ engine => rw [m.engine _ _ engine, ← m.other r' mem ne j, call]

/-- Rules with other ids leave a meter. -/
theorem Run.meter_other {run : List Rule} (h : Run settings files c s run j fs j')
    (m : Meters settings files s rules r meter) (sub : ∀ r' ∈ run, r' ∈ rules)
    (ne : ∀ r' ∈ run, r'.id ≠ r.id) : meter j' = meter j := by
  induction h with
  | nil => rfl
  | cons step _ ih =>
    obtain ⟨hr, hrules⟩ := List.forall_mem_cons.1 sub
    obtain ⟨hne, hnes⟩ := List.forall_mem_cons.1 ne
    rw [ih hrules hnes, step.meter_other m hr hne]

/-- A run calls the check of a rule once or not at all. -/
theorem Run.meter_eq {run : List Rule} (h : Run settings files c s run j fs j')
    (m : Meters settings files s rules r meter) (sub : ∀ r' ∈ run, r' ∈ rules)
    (distinct : (run.map (·.id)).Nodup) (hr : r ∈ run) :
    (Called c r → meter j' = meter j + 1) ∧ (¬ Called c r → meter j' = meter j) := by
  induction h with
  | nil => exact nomatch hr
  | @cons r' run j f j₁ fs j' step rest ih =>
    obtain ⟨hr', hrun⟩ := List.forall_mem_cons.1 sub
    obtain ⟨fresh, distinct⟩ := List.nodup_cons.1 (List.map_cons ▸ distinct)
    have ne {r₁ : Rule} (h : r₁ ∈ run) : r₁.id ≠ r'.id := fun e =>
      fresh (e ▸ List.mem_map_of_mem h)
    rcases List.mem_cons.1 hr with rfl | hr
    · rw [rest.meter_other m hrun fun r₁ h => ne h]
      exact step.meter_eq m
    · rw [← step.meter_other m hr' (ne hr).symm]
      exact ih hrun distinct hr

end Meter

/-! ### Rules by themselves -/

/-- What the check of a rule answers does not depend on what was asked and logged before it. -/
def Steady (settings : Settings) (files : FileSet) (s : Surroundings) (r : Rule) : Prop :=
  ∀ j₁ j₂, ((r.check files settings).start s j₁).1 = ((r.check files settings).start s j₂).1

/-- The finding of a rule with a steady check is the same at every place of every run. -/
theorem Step.finding_eq {r : Rule} {f f' : Finding} {j₁ j₁' j₂ j₂' : Journal}
    (h : Step settings files c s r j₁ f j₁') (h' : Step settings files c s r j₂ f' j₂')
    (steady : Steady settings files s r) : f = f' := by
  have answers {a a' : Except Fault Conclusion} {k k' : Journal}
      (call : (r.check files settings).start s j₁ = (a, k))
      (call' : (r.check files settings).start s j₂ = (a', k')) : a = a' := by
    have same := steady j₁ j₂
    rwa [call, call'] at same
  -- The conditions and the delegation decide which of the four ways both steps take.
  cases h with
  | groupFails fails message tells =>
    cases h' with
    | groupFails _ message' tells' =>
      obtain rfl := Except.ok.inj (message.symm.trans message')
      exact tells.unique tells'
    | _ => simp_all [Rule.applies_iff]
  | ownFails group fails message tells =>
    cases h' with
    | ownFails _ _ message' tells' =>
      obtain rfl := Except.ok.inj (message.symm.trans message')
      exact tells.unique tells'
    | _ => simp_all [Rule.applies_iff]
  | inherited applies base tells =>
    cases h' with
    | inherited _ _ tells' => exact tells.unique tells'
    | _ => simp_all [Rule.applies_iff]
  | called applies base call tells =>
    cases h' with
    | called _ _ call' tells' =>
      obtain rfl := answers call call'
      exact tells.unique tells'
    | _ => simp_all [Rule.applies_iff]

/-! ### Complete runs -/

/-- The run of some rules from a journal on is complete, in order, and each finding rests on its own
rule alone. -/
structure Complete (settings : Settings) (files : FileSet) (c : Classification) (s : Surroundings)
    (rules : List Rule) (j : Journal) (fs : List Finding) (j' : Journal) : Prop where
  /-- Every rule has one finding. -/
  each : (fs.map (·.ruleId)).Perm (rules.map (·.id))
  ordered : (fs.map (·.ruleId)).Pairwise (· < ·)
  decided : ∀ r ∈ rules, ∃ f ∈ fs, f.ruleId = r.id ∧ ∃ j₁ j₂, Step settings files c s r j₁ f j₂
  remediation : ∀ r ∈ rules, ∀ f ∈ fs, f.ruleId = r.id →
    f.remediation = if f.severity = .fail then r.remediation else .null
  calls : ∀ r ∈ rules, ∀ meter, Meters settings files s rules r meter →
    (Called c r → meter j' = meter j + 1) ∧ (¬ Called c r → meter j' = meter j)
  /-- The other rules of a run have no say in a finding. -/
  isolated : ∀ r ∈ rules, Steady settings files s r → ∀ rules' : List Rule,
    (rules'.map (·.id)).Nodup → (∀ r' ∈ rules', r'.Ready c.facts) → r ∈ rules' →
    ∀ k fs' k', (findings rules' settings files c).start s k = (.ok fs', k') →
    ∀ f ∈ fs, f.ruleId = r.id → f ∈ fs'

namespace Complete

variable {rules : List Rule} {j j' : Journal} {fs : List Finding}

/-- A rule has one finding in a complete run, to which it came by a step. -/
theorem step_of_ruleId (h : Complete settings files c s rules j fs j') {r : Rule} (hr : r ∈ rules)
    {f : Finding} (hf : f ∈ fs) (hid : f.ruleId = r.id) :
    ∃ j₁ j₂, Step settings files c s r j₁ f j₂ := by
  obtain ⟨f', hf', hid', step⟩ := h.decided r hr
  have distinct : (fs.map (·.ruleId)).Nodup := h.ordered.imp fun lt => String.ne_of_lt lt
  obtain rfl : f' = f := List.inj_on_of_nodup_map distinct hf' hf (hid'.trans hid.symm)
  exact step

theorem exists_step (h : Complete settings files c s rules j fs j') {f : Finding} (hf : f ∈ fs) :
    ∃ r ∈ rules, f.ruleId = r.id ∧ ∃ j₁ j₂, Step settings files c s r j₁ f j₂ := by
  obtain ⟨r, hr, hid⟩ := List.mem_map.1 (h.each.mem_iff.1 (List.mem_map_of_mem hf))
  exact ⟨r, hr, hid.symm, h.step_of_ruleId hr hf hid.symm⟩

end Complete

theorem Run.step_of_ruleId {rules : List Rule} {j j' : Journal} {fs : List Finding}
    (h : Run settings files c s rules j fs j') (distinct : (rules.map (·.id)).Nodup) {r : Rule}
    (hr : r ∈ rules) {f : Finding} (hf : f ∈ fs) (hid : f.ruleId = r.id) :
    ∃ j₁ j₂, Step settings files c s r j₁ f j₂ := by
  obtain ⟨r', hr', j₁, j₂, step⟩ := h.exists_rule hf
  obtain rfl : r' = r := List.inj_on_of_nodup_map distinct hr' hr (step.ruleId_eq.symm.trans hid)
  exact ⟨j₁, j₂, step⟩

/-- What comes to its end in the order of the ids, once the engine has logged a line, is a complete
run. -/
theorem Run.complete {rules : List Rule} {j j' : Journal} {line : LogLine} {fs : List Finding}
    (h : Run settings files c s (inOrder rules) { j with log := j.log ++ [line] } fs j')
    (engine : line.source = .engine) (distinct : (rules.map (·.id)).Nodup) :
    Complete settings files c s rules j fs j' := by
  have perm : (inOrder rules).Perm rules := List.mergeSort_perm ..
  have distinct' : ((inOrder rules).map (·.id)).Nodup := (perm.map _).nodup_iff.2 distinct
  constructor
  case each => rw [h.ruleIds_eq]; exact perm.map _
  case ordered =>
    rw [h.ruleIds_eq]
    exact List.pairwise_map.2 (inOrder_strict distinct)
  case decided =>
    intro r hr
    obtain ⟨f, hf, j₁, j₂, step⟩ := h.exists_step (perm.mem_iff.2 hr)
    exact ⟨f, hf, step.ruleId_eq, j₁, j₂, step⟩
  case remediation =>
    intro r hr f hf hid
    obtain ⟨_, _, step⟩ := h.step_of_ruleId distinct' (perm.mem_iff.2 hr) hf hid
    exact step.remediation_eq
  case calls =>
    intro r hr meter m
    have logged : meter { j with log := j.log ++ [line] } = meter j := m.engine j [line] (by simpa)
    rw [← logged]
    exact h.meter_eq m (fun r' h => perm.mem_iff.1 h) distinct' (perm.mem_iff.2 hr)
  case isolated =>
    intro r hr steady rules' distinct₂ ready₂ hr' k fs' k' start' f hf hid
    obtain ⟨_, _, step⟩ := h.step_of_ruleId distinct' (perm.mem_iff.2 hr) hf hid
    obtain ⟨_, fs₂, k₂, _, start₂, run₂⟩ := findings_start ready₂ settings files s k
    obtain ⟨rfl, rfl⟩ : fs₂ = fs' ∧ k₂ = k' := by simpa [start₂] using start'
    obtain ⟨f', hf', _, _, step'⟩ := run₂.exists_step (List.mem_mergeSort.2 hr')
    exact step.finding_eq step' steady ▸ hf'

/-- Rules with ids of their own that are ready run to the end, in whatever order they are given, and
the run is complete. -/
theorem run_complete {rules : List Rule} (distinct : (rules.map (·.id)).Nodup)
    (ready : ∀ r ∈ rules, r.Ready c.facts) (settings : Settings) (files : FileSet) (s : Surroundings)
    (j : Journal) :
    ∃ fs j', (∀ rules' : List Rule, rules'.Perm rules →
        (findings rules' settings files c).start s j = (.ok fs, j')) ∧
      Complete settings files c s rules j fs j' := by
  obtain ⟨line, fs, j', engine, start, run⟩ := findings_start ready settings files s j
  exact ⟨fs, j', fun rules' h => by rw [findings_perm distinct h, start], run.complete engine distinct⟩

/-- A rule of a group that does not apply, and one whose check breaks down, given against the order
of their ids. -/
theorem run_complete_two :
    let group (condition : Value) : RuleGroup :=
      { id := .text "g", number := 1, title := .text "Group", condition,
        skip := .text "not applicable — \x7bpurpose\x7d" }
    let reads : Value := .map [
      (.text "fact", .text "capability.source"), (.text "op", .text "eq"), (.text "value", .bool true)]
    let noted (id : String) (condition : Value) : Rule :=
      { id, title := .text id, group := group condition, level := .warning,
        remediation := .text "Mend it", check := fun _ _ => do
          Inspect.log .debug .buildChecks id
          Inspect.fault (.badValue "no digits") }
    let rules := [noted "CHK-201" .null, noted "CHK-102" reads]
    let c : Classification := ⟨.standalone, false, false, .none, none⟩
    let files : FileSet :=
      { module := ⟨⟨0, []⟩, "a"⟩, primary := .ofText ⟨0, ["AConnector.java"]⟩ "class A \x7b\x7d".toList }
    let s : Surroundings := ⟨⟨.empty, ⟨0, []⟩⟩, fun _ => .notFound⟩
    (rules.map (·.id)).Nodup ∧ (∀ r ∈ rules, r.Ready c.facts) ∧
      ∃ fs j', (findings rules {} files c).start s {} = (.ok fs, j') ∧
        Complete {} files c s rules {} fs j' ∧
        j'.log.countP (· == ⟨.debug, .buildChecks, "CHK-201"⟩) = 1 := by
  intro group reads noted rules c files s
  have distinct : (rules.map (·.id)).Nodup := by decide
  have acceptable : Condition.Acceptable reads := .inr (by decide +kernel)
  have skip : Rule.skipText c.facts (.text "not applicable — \x7bpurpose\x7d") =
    .ok "not applicable — no capabilities declared" := by decide +kernel
  have ready : ∀ r ∈ rules, r.Ready c.facts := by
    simp only [rules, List.forall_mem_cons, List.not_mem_nil, false_imp_iff, implies_true, and_true]
    exact ⟨⟨⟨fun _ => ⟨_, skip⟩, fun _ _ => ⟨_, rfl⟩⟩, .inl rfl, .inl rfl⟩,
      ⟨⟨fun _ => ⟨_, skip⟩, fun _ _ => ⟨_, rfl⟩⟩, acceptable, .inl rfl⟩⟩
  obtain ⟨fs, j', start, complete⟩ := run_complete distinct ready {} files s {}
  have start := start rules (.refl _)
  refine ⟨distinct, ready, fs, j', start, complete, ?_⟩
  refine (complete.calls (noted "CHK-201" .null) List.mem_cons_self
    (·.log.countP (· == ⟨.debug, .buildChecks, "CHK-201"⟩)) ?_).1 ⟨⟨rfl, rfl⟩, nofun⟩
  constructor
  case call => exact fun j => by simp [noted, Inspect.start_bind]
  case other => simp [rules, noted, Inspect.start_bind]
  case engine =>
    intro j lines engine
    rw [List.countP_append, Nat.add_eq_left, List.countP_eq_zero]
    rintro l hl e
    obtain rfl := eq_of_beq e
    exact nomatch engine _ hl

end Audit

end ModuleAudit
