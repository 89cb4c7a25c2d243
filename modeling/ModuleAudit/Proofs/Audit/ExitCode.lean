import ModuleAudit.Proofs.Audit.Build

/-!
# What decides the exit code

When the turn of a rule comes in a run, the rules before it have left their journal
(`journalBefore`), and the check of the rule answers to that journal, if it is called
(`answerIn`).

* `mapM_evaluate_fst`, `findings_fst_answers`: what a run finds is put together of these answers,
  rule by rule, also if a check looks back at the journal;
* `exitCode_by_checks`: a run fails exactly if a rule that applies, and is not left to the base
  class, is condemned by the answer of its own check (`Rule.Condemns`).
-/

namespace ModuleAudit

/-! ## Answers that condemn a rule -/

/-- An answer of a rule's check fails the rule: there is no verdict, or the verdict is a failure, or
it is a violation and the rule counts as an error. -/
inductive Rule.Condemns (r : Rule) : Except Fault Conclusion → Prop
  | fault (e : Fault) : Condemns r (.error e)
  | noVerdict (kindName : String) : Condemns r (.ok (.other kindName))
  | failure (message : String) : Condemns r (.ok (.verdict ⟨some .fail, message⟩))
  | violation (level : r.level = .error) (message : String) :
    Condemns r (.ok (.verdict ⟨none, message⟩))

theorem Rule.condemns_iff {r : Rule} {answer : Except Fault Conclusion} :
    r.Condemns answer ↔ (r.concluded answer).1 = .fail := by
  constructor
  · rintro (e | kindName | message | ⟨level, message⟩)
    · rfl
    · rfl
    · rfl
    · rw [Rule.concluded, if_pos level]
  · intro fails
    rcases answer with e | (⟨_ | severity, message⟩ | kindName)
    · exact .fault e
    · have level : r.level = .error := by
        by_contra other
        simp [Rule.concluded, other] at fails
      exact .violation level message
    · obtain rfl : severity = .fail := fails
      exact .failure message
    · exact .noVerdict kindName

namespace Audit

variable {settings : Settings} {files : FileSet} {c : Classification} {s : Surroundings}
  {rules : List Rule}

/-! ## Answers in a run -/

/-- The journal with which the turn of a rule comes among rules that are evaluated in a row from a
journal on. -/
def journalBefore (settings : Settings) (files : FileSet) (c : Classification) (s : Surroundings)
    (r : Rule) : List Rule → Journal → Journal
  | [], j => j
  | r' :: rules, j =>
    if r'.id = r.id then j
    else journalBefore settings files c s r rules ((evaluate settings files c r').start s j).2

/-- The line that a run logs before it evaluates its rules. -/
def openingLine (rules : List Rule) (files : FileSet) (c : Classification) : LogLine where
  level := .info
  source := .engine
  message := s!"evaluating {rules.length} rules for {files.module.name} " ++
    s!"({c.purpose}, {c.delegation.word})"

/-- What the check of a rule answers in a run, if it is called when the turn of the rule comes. -/
def answerIn (rules : List Rule) (settings : Settings) (files : FileSet) (c : Classification)
    (s : Surroundings) (j : Journal) (r : Rule) : Except Fault Conclusion :=
  let opened := { j with log := j.log ++ [openingLine rules files c] }
  ((r.check files settings).start s
    (journalBefore settings files c s r (inOrder rules) opened)).1

/-- Rules in a row find what the answers stand for that their checks give when their turns come. -/
theorem mapM_evaluate_fst (distinct : (rules.map (·.id)).Nodup) (j : Journal) :
    ((rules.mapM (evaluate settings files c)).start s j).1 =
      rules.mapM fun r => found c r
        ((r.check files settings).start s (journalBefore settings files c s r rules j)).1 := by
  induction rules generalizing j with
  | nil => rfl
  | cons r rules ih =>
    obtain ⟨fresh, distinct⟩ := List.nodup_cons.1 (List.map_cons ▸ distinct)
    have here : journalBefore settings files c s r (r :: rules) j = j := if_pos rfl
    have first := evaluate_fst settings files c r s j
    rw [List.mapM_cons, List.mapM_cons, Inspect.start_bind, here, ← first]
    rcases step : (evaluate settings files c r).start s j with ⟨e | f, j'⟩
    · rfl
    -- The rules that follow start from the journal that this one leaves.
    have later : ∀ r' ∈ rules, journalBefore settings files c s r' (r :: rules) j =
        journalBefore settings files c s r' rules j' := fun r' hr' => by
      have other : r.id ≠ r'.id := fun same => fresh (same ▸ List.mem_map_of_mem hr')
      rw [journalBefore, if_neg other, step]
    have others : ((rules.mapM (evaluate settings files c)).start s j').1 =
        rules.mapM fun r' => found c r' ((r'.check files settings).start s
          (journalBefore settings files c s r' (r :: rules) j)).1 :=
      (ih distinct j').trans (mapM_congr fun r' hr' => by rw [later r' hr'])
    dsimp only [ok_bind]
    rw [Inspect.start_bind, ← others]
    rcases (rules.mapM (evaluate settings files c)).start s j' with ⟨e | fs, j''⟩ <;> rfl

/-- What a run finds is put together of the answers that its checks give when their turns come. -/
theorem findings_fst_answers (distinct : (rules.map (·.id)).Nodup) (settings : Settings)
    (files : FileSet) (c : Classification) (s : Surroundings) (j : Journal) :
    ((findings rules settings files c).start s j).1 =
      (inOrder rules).mapM fun r => found c r (answerIn rules settings files c s j r) := by
  have distinct' : ((inOrder rules).map (·.id)).Nodup :=
    ((List.mergeSort_perm ..).map _).nodup_iff.2 distinct
  rw [findings, Inspect.start_bind, Inspect.start_log]
  exact mapM_evaluate_fst distinct' _

/-! ## The exit code -/

/-- A rule that applies, and is not left to the base class, is condemned by the answer that its check
gives in the run. -/
def Condemned (rules : List Rule) (settings : Settings) (files : FileSet) (c : Classification)
    (s : Surroundings) (j : Journal) : Prop :=
  ∃ r ∈ rules, r.Applies c.facts ∧ ¬ r.LeftToBase c ∧
    r.Condemns (answerIn rules settings files c s j r)

theorem exists_fail_iff_condemned {fs : List Finding} {j j' : Journal}
    (distinct : (rules.map (·.id)).Nodup)
    (run : (findings rules settings files c).start s j = (.ok fs, j')) :
    (∃ f ∈ fs, f.severity = .fail) ↔ Condemned rules settings files c s j := by
  have made := findings_fst_answers distinct settings files c s j
  rw [run] at made
  constructor
  · rintro ⟨f, hf, fail⟩
    obtain ⟨r, hr, hfound⟩ := exists_of_mem_mapM made.symm hf
    obtain ⟨called, fails⟩ := (found_eq_ok hfound).2.1 fail
    exact ⟨r, List.mem_mergeSort.1 hr, called.applies, called.base, Rule.condemns_iff.2 fails⟩
  · rintro ⟨r, hr, applies, base, condemns⟩
    obtain ⟨f, hf, hfound⟩ := exists_mem_mapM made.symm (List.mem_mergeSort.2 hr)
    exact ⟨f, hf, (found_eq_ok hfound).2.2 ⟨⟨applies, base⟩, Rule.condemns_iff.1 condemns⟩⟩

/-- The run of a loaded catalog fails, with exit code 1, exactly if a rule is condemned. Otherwise
the exit code is 0, and there are warnings exactly if a finding is one. -/
theorem exitCode_by_checks {path : Path} {checks : Registry RuleCheck} {document : Value}
    {catalog : Catalog} (loaded : Catalog.ofDocument path checks document = .ok catalog)
    (explained : ∀ r ∈ catalog.rules, r.Explained c.facts) (settings : Settings) (files : FileSet)
    (s : Surroundings) (j : Journal) (classification : Option Classification)
    (module : Option Module) (primaryPath : Option Path) :
    ∃ fs j', (findings catalog.rules settings files c).start s j = (.ok fs, j') ∧
      let report := Report.ofFindings fs classification module primaryPath
      (report.exitCode = 1 ↔ Condemned catalog.rules settings files c s j) ∧
      (report.outcome = .failure ↔ Condemned catalog.rules settings files c s j) ∧
      (¬ Condemned catalog.rules settings files c s j → report.exitCode = 0 ∧
        (report.outcome = .successWithWarnings ↔ ∃ f ∈ fs, f.severity = .warn)) := by
  obtain ⟨fs, j', run⟩ := (Catalog.loaded_runs_iff loaded settings files c s j).1.2 explained
  refine ⟨fs, j', run, ?_⟩
  have distinct := (Catalog.checked_of_ofDocument loaded).distinct
  rw [← exists_fail_iff_condemned distinct run]
  dsimp only
  rw [Report.exitCode_outcome, Report.outcome_ofFindings]
  by_cases failed : ∃ f ∈ fs, f.severity = .fail
  · simp [failed, Outcome.exitCode]
  · by_cases warned : ∃ f ∈ fs, f.severity = .warn
    · simp [failed, warned, Outcome.exitCode]
    · simp [failed, warned, Outcome.exitCode]

/-- A violation of a rule for connectors that read data. -/
theorem exitCode_by_checks_violation :
    let check : RuleCheck := fun _ _ => return .verdict (.violation "no digits")
    let reader : Classification := ⟨.standalone, true, false, .none, none⟩
    let files : FileSet :=
      { module := ⟨⟨0, []⟩, "a"⟩, primary := .ofText ⟨0, ["AConnector.java"]⟩ "class A \x7b\x7d".toList }
    let s : Surroundings := ⟨⟨.empty, ⟨0, []⟩⟩, fun _ => .notFound⟩
    ∃ catalog, Catalog.ofDocument ⟨0, ["catalog.yaml"]⟩ [("CHK-901", check)]
        (Catalog.readersDocument "not applicable — \x7bpurpose\x7d") = .ok catalog ∧
      (∀ r ∈ catalog.rules, r.Explained reader.facts) ∧
      ∃ fs j', (findings catalog.rules {} files reader).start s {} = (.ok fs, j') ∧
        (Report.ofFindings fs reader).exitCode = 1 := by
  intro check reader files s
  obtain ⟨catalog, loaded, rules⟩ :=
    Catalog.readers_load ⟨0, ["catalog.yaml"]⟩ "not applicable — \x7bpurpose\x7d" check
  have holds : Condition.evaluate reader.facts .null = .ok true := by rw [Condition.evaluate]
  have reads : Condition.evaluate reader.facts Catalog.forReaders = .ok true := by decide +kernel
  have applies : (Catalog.readersRule "not applicable — \x7bpurpose\x7d" check).Applies reader.facts :=
    ⟨holds, reads⟩
  have explained : ∀ r ∈ catalog.rules, r.Explained reader.facts := by
    rw [rules, List.forall_mem_singleton]
    exact explained_of_skipReason (skipReason_eq_none_iff.2 applies)
  obtain ⟨fs, j', run, exit, -⟩ :=
    exitCode_by_checks loaded explained {} files s {} reader none none
  refine ⟨catalog, loaded, explained, fs, j', run, exit.2 ⟨_, ?mem, applies, ?base, ?condemns⟩⟩
  case mem =>
    rw [rules]
    exact List.mem_singleton_self _
  case base =>
    intro left
    cases left.1
  case condemns => exact .violation rfl "no digits"

end Audit

end ModuleAudit
