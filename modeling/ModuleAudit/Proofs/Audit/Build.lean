import ModuleAudit.Proofs.Catalog.Advisory
import ModuleAudit.Proofs.Checks.Steady

/-!
# The build check and the exit code

Two runs of a catalog that is bound to the bundled checks are compared, one that checks the build and
one that does not. A run puts each rule's finding together of the answer that its check gives on its
own (`findings_fst`), so the runs differ in the finding of the build check at most.

* `build_fails_iff`: the build check fails exactly if the build is to be checked, the module is
  registered, and compiling it ends with a fault that is not about the build (`BuildFaults`). A build
  that fails, is not found, takes too long or is refused does not fail the check;
* `build_advisory`: the exit codes are the same unless the build check fails, and then the run that
  checks the build exits with 1, whatever the level of the rule;
* `build_not_advisory`: that happens in a run without errors.
-/

namespace ModuleAudit

/-! ## Exit codes -/

/-- A failure decides the outcome, then a warning; passed and skipped rules do not count. -/
theorem Report.outcome_ofFindings (fs : List Finding) (classification : Option Classification)
    (module : Option Module) (primaryPath : Option Path) :
    (Report.ofFindings fs classification module primaryPath).outcome =
      if ∃ f ∈ fs, f.severity = .fail then .failure
      else if ∃ f ∈ fs, f.severity = .warn then .successWithWarnings else .success := by
  have counted (severity : Severity) :
      0 < Report.countOf severity fs ↔ ∃ f ∈ fs, f.severity = severity := by
    simp [Report.countOf, List.countP_pos_iff]
  simp only [Report.ofFindings, Outcome.ofCounts, gt_iff_lt, Int.natCast_pos, counted]

theorem Report.exitCode_outcome (fs : List Finding) (classification : Option Classification)
    (module : Option Module) (primaryPath : Option Path) :
    (Report.ofFindings fs classification module primaryPath).exitCode =
      (Report.ofFindings fs classification module primaryPath).outcome.exitCode := rfl

theorem Report.exitCode_ofFindings (fs : List Finding) :
    (Report.ofFindings fs).exitCode = if ∃ f ∈ fs, f.severity = .fail then 1 else 0 := by
  rw [Report.exitCode_outcome, Report.outcome_ofFindings]
  split
  · rfl
  · split <;> rfl

theorem exists_fail_congr {fs fs' : List Finding}
    (h : List.Forall₂ (fun f f' => f.severity = .fail ↔ f'.severity = .fail) fs fs') :
    (∃ f ∈ fs, f.severity = .fail) ↔ ∃ f ∈ fs', f.severity = .fail := by
  induction h with
  | nil => rfl
  | cons first _ ih => rw [List.exists_mem_cons_iff, List.exists_mem_cons_iff, first, ih]

/-! ## Runs that are alike -/

/-- Two answers are alike: they are the same fault, or values that are related. -/
inductive Alike {β γ : Type} (R : β → γ → Prop) : Except Fault β → Except Fault γ → Prop
  | ok {b c} (related : R b c) : Alike R (.ok b) (.ok c)
  | error (e : Fault) : Alike R (.error e) (.error e)

/-- Answers in a row that are alike one by one are alike altogether. -/
theorem Alike.mapM {α β γ : Type} {R : β → γ → Prop} {f : α → Except Fault β} {g : α → Except Fault γ}
    {as : List α} (h : ∀ a ∈ as, Alike R (f a) (g a)) :
    Alike (List.Forall₂ R) (as.mapM f) (as.mapM g) := by
  induction as with
  | nil => exact .ok .nil
  | cons a as ih =>
    obtain ⟨first, others⟩ := List.forall_mem_cons.1 h
    rw [List.mapM_cons, List.mapM_cons]
    generalize f a = x, g a = y at first
    cases first with
    | error e => exact .error e
    | ok related =>
      specialize ih others
      generalize as.mapM f = xs, as.mapM g = ys at ih
      cases ih with
      | error e => exact .error e
      | ok others => exact .ok (.cons related others)

theorem Alike.map_eq {β γ δ : Type} {R : β → γ → Prop} {x : Except Fault β} {y : Except Fault γ}
    {g : β → δ} {g' : γ → δ} (h : Alike R x y) (eq : ∀ b c, R b c → g b = g' c) :
    x.map g = y.map g' := by
  cases h with
  | ok related => exact congrArg Except.ok (eq _ _ related)
  | error e => rfl

namespace Audit

variable {settings : Settings} {files : FileSet} {c : Classification} {s : Surroundings} {r : Rule}

/-! ## Findings by the answers of checks -/

/-- Nothing speaks against a rule exactly if it applies. -/
theorem skipReason_eq_none_iff {facts : Facts} :
    r.skipReason facts = .ok none ↔ r.Applies facts := by
  rw [Rule.applies_iff, Rule.skipReason]
  rcases Condition.evaluate facts r.group.condition with e | _ | _
  · simp [Except.bind, bind]
  · rcases Rule.skipText facts r.group.skip with e | reason <;>
      simp [Except.bind, bind, pure, Except.pure]
  · rcases Condition.evaluate facts r.condition with e | _ | _
    · simp [Except.bind, bind]
    · rcases Rule.skipText facts r.skip with e | reason <;>
        simp [Except.bind, bind, pure, Except.pure]
    · simp [Except.bind, bind, pure, Except.pure]

/-- The finding that the answer of a rule's check stands for. -/
def concludedOf (r : Rule) (answer : Except Fault Conclusion) : Finding :=
  findingOf r (r.concluded answer).1 (r.concluded answer).2

/-- The finding of a rule of which the check gives an answer, if the check is called. -/
def found (c : Classification) (r : Rule) (answer : Except Fault Conclusion) :
    Except Fault Finding := do
  match ← r.skipReason c.facts with
  | some reason => return findingOf r .skip reason
  | none =>
    if r.inherited && c.isBaseDelegated then return findingOf r .pass inheritedMessage
    else return concludedOf r answer

theorem examine_fst (settings : Settings) (files : FileSet) (r : Rule) (s : Surroundings)
    (j : Journal) :
    ((examine r settings files).start s j).1 =
      .ok (concludedOf r ((r.check files settings).start s j).1) := by
  rcases called : (r.check files settings).start s j with ⟨answer, j'⟩
  obtain ⟨_, -, start⟩ := examine_start called
  rw [start]
  rfl

theorem evaluate_fst (settings : Settings) (files : FileSet) (c : Classification) (r : Rule)
    (s : Surroundings) (j : Journal) :
    ((evaluate settings files c r).start s j).1 =
      found c r ((r.check files settings).start s j).1 := by
  rw [evaluate, found, Inspect.start_bind, Inspect.start_ofExcept]
  rcases r.skipReason c.facts with e | reason | _
  · rfl
  · dsimp only [ok_bind]
    split
    · rfl
    · exact examine_fst settings files r s j
  · rfl

theorem evaluate_isSteady (check : (r.check files settings).IsSteady) :
    (evaluate settings files c r).IsSteady := fun s j => by
  rw [Inspect.answer, evaluate_fst, evaluate_fst, check s j, check s {}]

theorem found_of_skipped {reason : String} (h : r.skipReason c.facts = .ok (some reason))
    (answer : Except Fault Conclusion) : found c r answer = .ok (findingOf r .skip reason) := by
  rw [found, h, ok_bind]
  rfl

theorem found_of_called (h : Called c r) (answer : Except Fault Conclusion) :
    found c r answer = .ok (concludedOf r answer) := by
  rw [found, skipReason_eq_none_iff.2 h.applies, ok_bind, if_neg (mt leftToBase_iff.1 h.base)]
  rfl

/-- The answer of a check does not matter for a rule that does not call it. -/
theorem found_of_not_called (h : ¬ Called c r) (answer answer' : Except Fault Conclusion) :
    found c r answer = found c r answer' := by
  rw [found, found]
  rcases reason : r.skipReason c.facts with e | _ | reason
  · rfl
  · rw [ok_bind, ok_bind]
    by_cases base : r.LeftToBase c
    · rw [if_pos (leftToBase_iff.2 base), if_pos (leftToBase_iff.2 base)]
    · exact absurd ⟨skipReason_eq_none_iff.1 reason, base⟩ h
  · rfl

/-! ## The build -/

/-- The call that compiles a module. -/
def buildCall (settings : Settings) (files : FileSet) : Call where
  args := [settings.buildCommand, "-q", "clean", "compile", "-pl", files.module.relativeDir, "-am"]
  directory := files.module.root
  timeout := ⟨settings.buildTimeout⟩

/-- Compiling the module ends with a fault that is not about the build: running it does, or it starts
although the seconds that it may take were not told. -/
def BuildFaults (settings : Settings) (files : FileSet) (s : Surroundings) : Prop :=
  (∃ f, s.run (buildCall settings files) = .faulty f) ∨
    settings.buildTimeout = none ∧ (s.run (buildCall settings files)).started = true

/-- Compiling the module of some files. -/
def compileFiles (settings : Settings) (files : FileSet) : Inspect BuildResult :=
  compileModule files.module.root files.module.relativeDir settings.buildCommand settings.buildTimeout

theorem impose_faulty_iff (limit : TimeLimit) (result : CallResult) :
    (∃ f, limit.impose result = .faulty f) ↔
      (∃ f, result = .faulty f) ∨ limit.seconds = none ∧ result.started = true := by
  unfold TimeLimit.impose
  split
  · rename_i untold
    rw [Bool.and_eq_true, Option.isNone_iff_eq_none] at untold
    exact iff_of_true ⟨_, rfl⟩ (.inr untold)
  · rename_i told
    rw [Bool.and_eq_true, Option.isNone_iff_eq_none] at told
    rw [or_iff_left told]

/-- Compiling gives no result exactly if it faults. -/
theorem compileFiles_error_iff :
    (∃ f, (compileFiles settings files).answer s = .error f) ↔ BuildFaults settings files s := by
  refine Iff.trans ?_ (impose_faulty_iff ⟨settings.buildTimeout⟩ (s.run (buildCall settings files)))
  simp only [compileFiles, compileModule, buildCall, Inspect.answer, Inspect.start_bind, Inspect.start_log,
    Inspect.start_call]
  generalize TimeLimit.impose _ _ = result
  cases result with
  | finished code output errors => dsimp only; split <;> simp
  | _ => simp

/-- What the build check concludes: it is skipped unless the build is to be checked and the module is
registered, and it concludes nothing exactly if compiling faults. -/
theorem reactorBuild_answer :
    (Packaging.reactorBuild files settings).answer s =
      if settings.buildCheck = false then .ok (.skip "build verification disabled")
      else if Packaging.registered? files ≠ some true then
        .ok (.skip "module is not registered in the parent pom.xml")
      else (compileFiles settings files).answer s >>= fun built =>
        .ok (if built.succeeded then .ok built.reason else .warn built.reason) := by
  rw [Packaging.reactorBuild]
  cases settings.buildCheck with
  | false => rfl
  | true =>
    obtain ⟨j, read⟩ : ∃ j, (Packaging.readRegistration files).start s =
        (.ok (Packaging.registered? files), j) :=
      ⟨_, Prod.ext (Packaging.readRegistration_answer files s) rfl⟩
    rw [if_pos rfl, Inspect.answer, Inspect.start_bind, read]
    dsimp only
    rcases Packaging.registered? files with _ | _ | _
    · rfl
    · rfl
    · have steady := compileModule_isSteady files.module.root files.module.relativeDir
        settings.buildCommand settings.buildTimeout s j
      rw [if_neg (by decide), if_neg (not_not_intro rfl), compileFiles, ← steady]
      dsimp only
      rw [Inspect.start_bind]
      rcases (compileModule _ _ _ _).start s j with ⟨e | ⟨succeeded, reason⟩, j'⟩
      · rfl
      · cases succeeded <;> rfl

theorem toRuleCheck_answer (check : Check) :
    (check.toRuleCheck files settings).answer s =
      (check files settings).answer s >>= fun v => .ok (.verdict v) :=
  Inspect.answer_bind _ (fun _ => Inspect.isSteady_pure _) s

/-- The build check fails exactly if the build is to be checked, the module is registered and
compiling it faults. The level of the rule has no say in it. -/
theorem build_fails_iff (check : r.check = Packaging.reactorBuild.toRuleCheck) :
    (r.concluded ((r.check files settings).answer s)).1 = .fail ↔
      settings.buildCheck = true ∧ Packaging.registered? files = some true ∧
        BuildFaults settings files s := by
  rw [check, toRuleCheck_answer, reactorBuild_answer]
  by_cases asked : settings.buildCheck = false
  · simp [asked, Rule.concluded, Verdict.skip, ok_bind]
  by_cases registered : Packaging.registered? files = some true
  · rw [if_neg asked, if_neg (not_not_intro registered), ← compileFiles_error_iff]
    rw [Bool.not_eq_false] at asked
    rcases (compileFiles settings files).answer s with e | ⟨succeeded, reason⟩
    · simp [asked, registered, Rule.concluded, error_bind]
    · cases succeeded <;> simp [Rule.concluded, Verdict.ok, Verdict.warn, ok_bind]
  · simp [asked, registered, Rule.concluded, Verdict.skip, ok_bind]

/-! ## Runs of bundled checks -/

/-- The rule runs the bundled check of its id. -/
def Bundled (r : Rule) : Prop := Registry.bundledRuleChecks.lookup r.id = some r.check

theorem Bundled.isSteady (h : Bundled r) (settings : Settings) (files : FileSet) :
    (r.check files settings).IsSteady := by
  obtain ⟨entry, he, -, e⟩ := bundledRuleChecks_lookup h
  rw [← e]
  exact (bundled_isSteady entry he files settings).bind fun _ => Inspect.isSteady_pure _

theorem Bundled.build (h : Bundled r) (id : r.id = "CHK-402") :
    r.check = Packaging.reactorBuild.toRuleCheck := by
  obtain ⟨entry, he, same, e⟩ := bundledRuleChecks_lookup h
  rw [← e, bundled_build entry he (same.trans id)]

theorem Bundled.ignoresBuild (h : Bundled r) (id : r.id ≠ "CHK-402") (settings : Settings)
    (files : FileSet) (build : Bool) :
    r.check files { settings with buildCheck := build } = r.check files settings := by
  obtain ⟨entry, he, same, e⟩ := bundledRuleChecks_lookup h
  rw [← e, Check.toRuleCheck, Check.toRuleCheck,
    bundled_ignoresBuild entry he (fun e => id (same.symm.trans e))]

/-- What a run finds is put together of the answers of its checks. -/
theorem findings_fst {rules : List Rule} (bundled : ∀ r ∈ rules, Bundled r) (settings : Settings)
    (files : FileSet) (c : Classification) (s : Surroundings) (j : Journal) :
    ((findings rules settings files c).start s j).1 =
      (inOrder rules).mapM fun r => found c r ((r.check files settings).answer s) := by
  -- What ran before a rule changes the journal, but no check looks at it.
  have steady : ∀ r ∈ inOrder rules, (evaluate settings files c r).IsSteady := fun r hr =>
    evaluate_isSteady ((bundled r (List.mem_mergeSort.1 hr)).isSteady settings files)
  rw [findings, Inspect.start_bind, Inspect.start_log]
  dsimp only
  rw [Inspect.isSteady_mapM steady, Inspect.answer_mapM steady]
  exact congrArg (fun f => List.mapM f _) (funext fun r => evaluate_fst settings files c r s {})

/-! ## Runs with and without the build -/

/-- A finding fails exactly if the check of its rule is called and concludes a failure. -/
theorem found_eq_ok {answer : Except Fault Conclusion} {f : Finding} (h : found c r answer = .ok f) :
    f.ruleId = r.id ∧ (f.severity = .fail ↔ Called c r ∧ (r.concluded answer).1 = .fail) := by
  by_cases called : Called c r
  · rw [found_of_called called] at h
    obtain rfl := Except.ok.inj h
    exact ⟨rfl, (and_iff_right called).symm⟩
  · obtain ⟨reason, hreason, h⟩ := bind_eq_ok.1 h
    cases reason with
    | some reason =>
      obtain rfl := Except.ok.inj h
      exact ⟨rfl, by simp [findingOf, called]⟩
    | none =>
      by_cases base : r.LeftToBase c
      · rw [if_pos (leftToBase_iff.2 base)] at h
        obtain rfl := Except.ok.inj h
        exact ⟨rfl, by simp [findingOf, called]⟩
      · exact absurd ⟨skipReason_eq_none_iff.1 hreason, base⟩ called

theorem found_alike {R : Finding → Finding → Prop} (same : ∀ f, R f f)
    {answer answer' : Except Fault Conclusion}
    (called : Called c r → R (concludedOf r answer) (concludedOf r answer')) :
    Alike R (found c r answer) (found c r answer') := by
  by_cases h : Called c r
  · rw [found_of_called h, found_of_called h]
    exact .ok (called h)
  · rw [found_of_not_called h answer answer']
    rcases found c r answer' with e | f
    · exact .error e
    · exact .ok (same f)

/-- The build check is called on a registered module, and compiling it faults. -/
structure BuildFails (rules : List Rule) (settings : Settings) (files : FileSet) (c : Classification)
    (s : Surroundings) : Prop where
  called : ∃ r ∈ rules, r.id = "CHK-402" ∧ Called c r
  registered : Packaging.registered? files = some true
  faults : BuildFaults settings files s

/-- The exit code of a run that checks the build or does not. -/
def exitCode (build : Bool) (rules : List Rule) (settings : Settings) (files : FileSet)
    (c : Classification) (s : Surroundings) (j : Journal) : Except Fault Nat :=
  ((findings rules { settings with buildCheck := build } files c).start s j).1.map
    fun fs => (Report.ofFindings fs).exitCode

section Runs

variable {rules : List Rule} (bundled : ∀ r ∈ rules, Bundled r) (j : Journal)
include bundled

theorem exitCode_eq_zero {build : Bool}
    (fine : ∀ r ∈ rules, ∃ f,
      found c r ((r.check files { settings with buildCheck := build }).answer s) = .ok f ∧
        f.severity ≠ .fail) :
    exitCode build rules settings files c s j = .ok 0 := by
  have fine r (hr : r ∈ inOrder rules) := fine r (List.mem_mergeSort.1 hr)
  obtain ⟨fs, made⟩ := mapM_ok fun r hr => (fine r hr).imp fun _ => And.left
  rw [exitCode, findings_fst bundled, made]
  refine congrArg Except.ok ((Report.exitCode_ofFindings fs).trans (if_neg ?_))
  rintro ⟨f, hf, fail⟩
  obtain ⟨r, hr, found⟩ := exists_of_mem_mapM made hf
  obtain ⟨f', found', passes⟩ := fine r hr
  exact passes (Except.ok.inj (found.symm.trans found') ▸ fail)

theorem build_concludes (build : Bool) (settings : Settings) (files : FileSet) (s : Surroundings)
    (hr : r ∈ rules) (id : r.id = "CHK-402") :
    (r.concluded ((r.check files { settings with buildCheck := build }).answer s)).1 = .fail ↔
      build = true ∧ Packaging.registered? files = some true ∧ BuildFaults settings files s :=
  build_fails_iff ((bundled r hr).build id)

/-- The finding of the build check is a failure exactly if compiling the module faults. -/
theorem build_finding_iff {fs : List Finding} {j' : Journal}
    (run : (findings rules { settings with buildCheck := true } files c).start s j = (.ok fs, j')) :
    (∃ f ∈ fs, f.ruleId = "CHK-402" ∧ f.severity = .fail) ↔ BuildFails rules settings files c s := by
  have made := findings_fst bundled { settings with buildCheck := true } files c s j
  rw [run] at made
  constructor
  · rintro ⟨f, hf, id, fail⟩
    obtain ⟨r, hr, hfound⟩ := exists_of_mem_mapM made.symm hf
    have hr : r ∈ rules := List.mem_mergeSort.1 hr
    obtain ⟨ruleId, fails⟩ := found_eq_ok hfound
    obtain ⟨called, concluded⟩ := fails.1 fail
    have id : r.id = "CHK-402" := ruleId.symm.trans id
    obtain ⟨-, registered, faults⟩ := (build_concludes bundled true settings files s hr id).1 concluded
    exact ⟨⟨r, hr, id, called⟩, registered, faults⟩
  · rintro ⟨⟨r, hr, id, called⟩, registered, faults⟩
    obtain ⟨f, hf, hfound⟩ := exists_mem_mapM made.symm (List.mem_mergeSort.2 hr)
    obtain ⟨ruleId, fails⟩ := found_eq_ok hfound
    have concluded := (build_concludes bundled true settings files s hr id).2 ⟨rfl, registered, faults⟩
    exact ⟨f, hf, ruleId.trans id, fails.2 ⟨called, concluded⟩⟩

/-- Two runs of bundled checks on modules of one kind are alike if the checks that are called come to
related findings. -/
theorem findings_alike {R : Finding → Finding → Prop} (same : ∀ f, R f f) {settings' : Settings}
    {files' : FileSet} {s' : Surroundings} (j' : Journal)
    (called : ∀ r ∈ rules, Called c r →
      R (concludedOf r ((r.check files settings).answer s))
        (concludedOf r ((r.check files' settings').answer s'))) :
    Alike (List.Forall₂ R) ((findings rules settings files c).start s j).1
      ((findings rules settings' files' c).start s' j').1 := by
  rw [findings_fst bundled, findings_fst bundled]
  exact Alike.mapM fun r hr => found_alike same (called r (List.mem_mergeSort.1 hr))

/-- Unless the build check fails, the same rules fail with and without the build. -/
theorem failures_alike (fine : ¬ BuildFails rules settings files c s) :
    Alike (List.Forall₂ fun f f' => f.severity = .fail ↔ f'.severity = .fail)
      ((findings rules { settings with buildCheck := true } files c).start s j).1
      ((findings rules { settings with buildCheck := false } files c).start s j).1 := by
  refine findings_alike bundled j (fun _ => Iff.rfl) j fun r hr called => ?_
  by_cases id : r.id = "CHK-402"
  · -- The build check does not fail in either run.
    have concludes (build : Bool) := build_concludes bundled build settings files s hr id
    refine iff_of_false (fun h => ?_) (fun h => Bool.false_ne_true ((concludes false).1 h).1)
    obtain ⟨-, registered, faults⟩ := (concludes true).1 h
    exact fine ⟨⟨r, hr, id, called⟩, registered, faults⟩
  · have ignores := (bundled r hr).ignoresBuild id settings files
    rw [concludedOf, concludedOf, ignores true, ignores false]

theorem exitCode_of_fine (fine : ¬ BuildFails rules settings files c s) :
    exitCode true rules settings files c s j = exitCode false rules settings files c s j :=
  (failures_alike bundled j fine).map_eq fun fs fs' alike => by
    simp only [Report.exitCode_ofFindings, exists_fail_congr alike]

theorem exitCode_of_buildFails (failing : BuildFails rules settings files c s) :
    exitCode true rules settings files c s j =
      (exitCode false rules settings files c s j).map fun _ => 1 := by
  have ends {fs : List Finding}
      (h : ((findings rules { settings with buildCheck := true } files c).start s j).1 = .ok fs) :
      (Report.ofFindings fs).exitCode = 1 := by
    obtain ⟨f, hf, -, fail⟩ := (build_finding_iff bundled j (Prod.ext h rfl)).2 failing
    rw [Report.exitCode_ofFindings, if_pos ⟨f, hf, fail⟩]
  -- Either run ends early exactly if a skip message cannot be filled in, and that has nothing to do
  -- with the build.
  have alike : Alike (List.Forall₂ fun _ _ => True)
      ((findings rules { settings with buildCheck := true } files c).start s j).1
      ((findings rules { settings with buildCheck := false } files c).start s j).1 :=
    findings_alike bundled j (fun _ => trivial) j fun _ _ _ => trivial
  unfold exitCode
  generalize on : ((findings rules { settings with buildCheck := true } files c).start s j).1 = x
    at alike
  generalize ((findings rules { settings with buildCheck := false } files c).start s j).1 = y at alike
  cases alike with
  | error e => rfl
  | ok _ => exact congrArg Except.ok (ends on)

end Runs

/-- The rules of a catalog that is bound to the bundled checks. -/
theorem bundled_of_ofDocument {path : Path} {document : Value} {catalog : Catalog}
    (loaded : Catalog.ofDocument path Registry.bundledRuleChecks document = .ok catalog) :
    ∀ r ∈ catalog.rules, Bundled r := fun r hr => by
  obtain ⟨_, _, -, groups, rules, made, rfl⟩ := Catalog.made_iff_ofDocument.1 loaded
  exact (made.binds path).bound r hr

/-- The exit code does not depend on whether the build is checked, unless the build check fails; and
that it does exactly if it is called on a registered module and compiling the module faults. -/
theorem build_advisory {path : Path} {document : Value} {catalog : Catalog}
    (loaded : Catalog.ofDocument path Registry.bundledRuleChecks document = .ok catalog)
    (settings : Settings) (files : FileSet) (c : Classification) (s : Surroundings) (j : Journal) :
    (¬ BuildFails catalog.rules settings files c s →
      exitCode true catalog.rules settings files c s j =
        exitCode false catalog.rules settings files c s j) ∧
    (BuildFails catalog.rules settings files c s →
      exitCode true catalog.rules settings files c s j =
        (exitCode false catalog.rules settings files c s j).map fun _ => 1) ∧
    ∀ fs j', (findings catalog.rules { settings with buildCheck := true } files c).start s j =
        (.ok fs, j') →
      ((∃ f ∈ fs, f.ruleId = "CHK-402" ∧ f.severity = .fail) ↔
        BuildFails catalog.rules settings files c s) :=
  have bundled := bundled_of_ofDocument loaded
  ⟨exitCode_of_fine bundled j, exitCode_of_buildFails bundled j,
    fun _ _ => build_finding_iff bundled j⟩

/-! ## A catalog in which only the build matters -/

open Catalog (advisoryDocument advisoryRule forReaders idle)

theorem advisoryRule_skipped {everywhere : String} {entry : String × RuleCheck}
    (h : entry.1 ≠ everywhere) :
    (advisoryRule everywhere entry).skipReason idle.facts = .ok (some "not applicable") := by
  have holds : Condition.evaluate idle.facts .null = .ok true := by rw [Condition.evaluate]
  have own : (advisoryRule everywhere entry).condition = forReaders := if_neg h
  have fails : Condition.evaluate idle.facts forReaders = .ok false := by decide +kernel
  have skip : Rule.skipText idle.facts defaultSkip = .ok "not applicable" := by decide +kernel
  refine (skipReason_eq _ idle.facts holds (own ▸ fails)).trans ?_
  exact congrArg (Except.map some) skip

theorem advisoryRule_called {everywhere : String} {entry : String × RuleCheck}
    (h : entry.1 = everywhere) : Called idle (advisoryRule everywhere entry) where
  applies := by
    have holds : Condition.evaluate idle.facts .null = .ok true := by rw [Condition.evaluate]
    have own : (advisoryRule everywhere entry).condition = .null := if_pos h
    exact ⟨holds, own ▸ holds⟩
  base := nofun

/-- The bundled checks have a catalog in which the build check alone applies to every connector. -/
theorem advisory_build_load (path : Path) :
    ∃ catalog, Catalog.ofDocument path Registry.bundledRuleChecks
        (advisoryDocument "CHK-402" Registry.bundledRuleChecks.ids) = .ok catalog ∧
      catalog.rules.Perm (Registry.bundledRuleChecks.map (advisoryRule "CHK-402")) := by
  refine Catalog.advisory_load path "CHK-402" (by decide +kernel) ?_
  have ids : Registry.bundledRuleChecks.ids = Registry.bundled.ids := List.map_map ..
  exact ids ▸ bundled_ids_nodup

/-- Without the build, no rule of that catalog fails on an idle connector. -/
theorem advisory_build_passes {rules : List Rule} (bundled : ∀ r ∈ rules, Bundled r)
    (perm : rules.Perm (Registry.bundledRuleChecks.map (advisoryRule "CHK-402")))
    (settings : Settings) (files : FileSet) (s : Surroundings) (j : Journal) :
    exitCode false rules settings files idle s j = .ok 0 := by
  refine exitCode_eq_zero bundled j fun r hr => ?_
  obtain ⟨entry, -, rfl⟩ := List.mem_map.1 (perm.mem_iff.1 hr)
  by_cases build : entry.1 = "CHK-402"
  · refine ⟨_, found_of_called (advisoryRule_called build) _, fun fails => ?_⟩
    exact Bool.false_ne_true ((build_concludes bundled false settings files s hr build).1 fails).1
  · exact ⟨_, found_of_skipped (advisoryRule_skipped build) _, nofun⟩

/-- A module that the pom of its checkout lists. -/
def listedFiles : FileSet where
  module := ⟨⟨1, []⟩, "a"⟩
  primary := .ofText ⟨1, ["AConnector.java"]⟩ "class A \x7b\x7d".toList
  parentManifest := some {
    path := ⟨1, ["pom.xml"]⟩
    text := "<project><modules><module>connectors/supaflow-connector-a</module></modules></project>".toList }

theorem listedFiles_registered : Packaging.registered? listedFiles = some true := by decide +kernel

/-- A build that fails does not matter. -/
theorem build_advisory_broken :
    let s : Surroundings := ⟨⟨.empty, ⟨1, []⟩⟩, fun _ => .finished 1 "BUILD FAILURE" ""⟩
    ∃ catalog, Catalog.ofDocument ⟨0, ["catalog.yaml"]⟩ Registry.bundledRuleChecks
        (advisoryDocument "CHK-402" Registry.bundledRuleChecks.ids) = .ok catalog ∧
      exitCode true catalog.rules {} listedFiles idle s {} =
        exitCode false catalog.rules {} listedFiles idle s {} := by
  intro s
  obtain ⟨catalog, loaded, -⟩ := advisory_build_load ⟨0, ["catalog.yaml"]⟩
  refine ⟨catalog, loaded, (build_advisory loaded {} listedFiles idle s {}).1 fun failing => ?_⟩
  rcases failing.faults with ⟨_, ran⟩ | ⟨untold, -⟩
  · exact nomatch ran
  · exact nomatch untold

/-- A build that cannot be started or read because of a value that is not allowed fails the run, also
if all rules are advisory. -/
theorem build_not_advisory :
    let s : Surroundings := ⟨⟨.empty, ⟨1, []⟩⟩, fun _ => .faulty (.badValue "embedded null byte")⟩
    ∃ catalog, Catalog.ofDocument ⟨0, ["catalog.yaml"]⟩ Registry.bundledRuleChecks
        (advisoryDocument "CHK-402" Registry.bundledRuleChecks.ids) = .ok catalog ∧
      (∀ r ∈ catalog.rules, r.level = .warning) ∧
      exitCode true catalog.rules {} listedFiles idle s {} = .ok 1 ∧
      exitCode false catalog.rules {} listedFiles idle s {} = .ok 0 := by
  intro s
  obtain ⟨catalog, loaded, perm⟩ := advisory_build_load ⟨0, ["catalog.yaml"]⟩
  have bundled := bundled_of_ofDocument loaded
  have passes := advisory_build_passes bundled perm {} listedFiles s {}
  have listed : ("CHK-402", Packaging.reactorBuild.toRuleCheck) ∈ Registry.bundledRuleChecks := by
    simp [Registry.bundledRuleChecks, Registry.bundled]
  have called : ∃ r ∈ catalog.rules, r.id = "CHK-402" ∧ Called idle r :=
    ⟨_, perm.mem_iff.2 (List.mem_map_of_mem listed), rfl, advisoryRule_called rfl⟩
  have failing : BuildFails catalog.rules {} listedFiles idle s :=
    ⟨called, listedFiles_registered, .inl ⟨_, rfl⟩⟩
  refine ⟨catalog, loaded, fun r hr => ?_, ?_, passes⟩
  · obtain ⟨entry, -, rfl⟩ := List.mem_map.1 (perm.mem_iff.1 hr)
    rfl
  · rw [exitCode_of_buildFails bundled {} failing, passes]
    rfl

end Audit

end ModuleAudit
