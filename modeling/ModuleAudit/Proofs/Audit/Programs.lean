import ModuleAudit.Proofs.Catalog.Unconditional
import ModuleAudit.Proofs.Inspection.Looks

/-!
# The programs that a run starts

A run of the bundled rules has at most two programs run. Version control is asked about the build
artifacts of the module if there are any, and the module is compiled if the build is to be checked and the
parent pom lists the module. Each check adds the calls of its rule (`startedBy`) to the journal, so a run
adds those of all its rules (`run_calls`), and two rules have some:

* `buildArtifacts_calls`, `reactorBuild_calls`: the calls of the two checks, whatever becomes of them;
* `bundled_calls`: the calls of a run, where the build is tied to the finding on the registration of the
  module.
-/

namespace ModuleAudit

open Inspect (Looks)
open Catalog.Bundled (FromBundled fromBundled_load unconditional)

variable {settings : Settings} {files : FileSet} {c : Classification} {s : Surroundings} {j : Journal}

/-! ## The calls of checks -/

theorem trackedPaths_calls (root : Path) (relative : String) :
    ((trackedPaths root relative).start s j).2.calls =
      j.calls ++ [⟨["git", "ls-files", "--", relative], root, trackingTimeout⟩] := by
  refine Inspect.calls_bind_looks fun result => ?_
  cases result with
  | faulty f => exact .fault f
  | finished code output errors =>
    dsimp only
    split
    · split <;> exact .pure _
    · exact .pure _
  | _ => exact .pure _

/-- A module is compiled by one call. -/
theorem compileModule_calls (root : Path) (modulePath command : String) (timeout : Option Binary64) :
    ((compileModule root modulePath command timeout).start s j).2.calls =
      j.calls ++ [⟨[command, "-q", "clean", "compile", "-pl", modulePath, "-am"], root, ⟨timeout⟩⟩] := by
  rw [compileModule, Inspect.start_bind, Inspect.start_log]
  dsimp only
  refine Inspect.calls_bind_looks fun result => ?_
  cases TimeLimit.impose ⟨timeout⟩ result with
  | faulty f => exact .fault f
  | finished code output errors =>
    dsimp only
    split <;> exact .pure _
  | _ => exact .pure _

namespace Audit

/-- The calls that ask version control for the build artifacts of a module. -/
def trackingCalls (files : FileSet) (s : Surroundings) : List Call :=
  if s.disk.hasDirectory (files.module.directory.child "target") = .ok true then
    [{ args := ["git", "ls-files", "--", files.module.relativeDir ++ "/target"]
       directory := files.module.root
       timeout := trackingTimeout }]
  else []

/-- The calls that compile a module that is registered. -/
def buildCalls (settings : Settings) (files : FileSet) (registered : Prop) [Decidable registered] :
    List Call :=
  if settings.buildCheck = true ∧ registered then [buildCall settings files] else []

theorem buildArtifacts_calls (settings : Settings) :
    ((Packaging.buildArtifacts files settings).start s j).2.calls = j.calls ++ trackingCalls files s := by
  rw [Packaging.buildArtifacts, trackingCalls, Inspect.start_bind, Inspect.start_hasDirectory]
  rcases s.disk.hasDirectory (files.module.directory.child "target") with e | _ | _
  · exact (List.append_nil _).symm
  · exact (List.append_nil _).symm
  · rw [if_pos rfl, ← trackedPaths_calls]
    refine Inspect.calls_bind_looks fun tracked => ?_
    split <;> exact .pure _

theorem reactorBuild_calls :
    ((Packaging.reactorBuild files settings).start s j).2.calls =
      j.calls ++ buildCalls settings files (Packaging.registered? files = some true) := by
  rw [Packaging.reactorBuild, buildCalls]
  by_cases asked : settings.buildCheck = true
  · rw [if_pos asked]
    obtain ⟨j', calls, read⟩ := (Packaging.readRegistration_looks files).calls_bind (s := s) (j := j)
      (Packaging.readRegistration_answer files s)
    rw [read, ← calls]
    by_cases registered : Packaging.registered? files = some true
    · rw [if_pos ⟨asked, registered⟩, registered]
      refine (Inspect.calls_bind_looks fun built => ?_).trans (compileModule_calls _ _ _ _)
      split
      · exact .pure _
      · exact (Looks.log _ _ _).bind fun _ => .pure _
    · rw [if_neg fun h => registered h.2, List.append_nil]
      split
      · exact absurd ‹_› registered
      · rfl
  · rw [if_neg asked, if_neg fun h => asked h.1]
    exact (List.append_nil _).symm

/-! ## The calls of runs -/

/-- The calls of the rule with an id. -/
def startedBy (settings : Settings) (files : FileSet) (s : Surroundings) (id : String) : List Call :=
  if id = "CHK-104" then trackingCalls files s
  else if id = "CHK-402" then buildCalls settings files (Packaging.registered? files = some true)
  else []

theorem startedBy_tracking : startedBy settings files s "CHK-104" = trackingCalls files s := if_pos rfl

theorem startedBy_build : startedBy settings files s "CHK-402" =
    buildCalls settings files (Packaging.registered? files = some true) :=
  (if_neg (by decide)).trans (if_pos rfl)

theorem startedBy_other {id : String} (h : id ∉ programChecks.ids) :
    startedBy settings files s id = [] := by
  simp only [programChecks, Registry.ids, List.map_cons, List.map_nil, List.mem_cons, List.not_mem_nil,
    or_false, not_or] at h
  rw [startedBy, if_neg h.1, if_neg h.2]

/-- All that the bundled rules start. -/
theorem startedBy_all : Registry.bundled.ids.flatMap (startedBy settings files s) =
    trackingCalls files s ++ buildCalls settings files (Packaging.registered? files = some true) := by
  have started (ids : List String) : ids.flatMap (startedBy settings files s) =
      (ids.filter (programChecks.ids.contains ·)).flatMap (startedBy settings files s) := by
    induction ids with
    | nil => rfl
    | cons id ids ih =>
      by_cases mem : id ∈ programChecks.ids
      · rw [List.filter_cons_of_pos (List.contains_iff_mem.2 mem), List.flatMap_cons, List.flatMap_cons, ih]
      · rw [List.filter_cons_of_neg (mt List.contains_iff_mem.1 mem), List.flatMap_cons,
          startedBy_other mem, List.nil_append, ih]
  have listed : Registry.bundled.ids.filter (programChecks.ids.contains ·) = ["CHK-104", "CHK-402"] := by
    decide +kernel
  rw [started, listed, List.flatMap_cons, List.flatMap_cons, List.flatMap_nil, List.append_nil,
    startedBy_tracking, startedBy_build]

/-- A bundled check adds the calls of its rule, whatever becomes of them. -/
theorem entry_calls {entry : String × Check} (he : entry ∈ Registry.bundled) :
    ((entry.2 files settings).start s j).2.calls = j.calls ++ startedBy settings files s entry.1 := by
  rcases bundled_looks entry he with program | ⟨other, looks⟩
  · simp only [programChecks, List.mem_cons, List.not_mem_nil, or_false] at program
    rcases program with rfl | rfl
    · dsimp only
      rw [startedBy_tracking]
      exact buildArtifacts_calls settings
    · dsimp only
      rw [startedBy_build]
      exact reactorBuild_calls
  · rw [startedBy_other other, List.append_nil]
    exact (looks files settings).journal_calls s j

variable {rules : List Rule} {r : Rule} {f : Finding} {fs : List Finding} {j' : Journal}

theorem Bundled.calls (h : Bundled r) :
    ((r.check files settings).start s j).2.calls = j.calls ++ startedBy settings files s r.id := by
  obtain ⟨entry, he, id, e⟩ := bundledRuleChecks_lookup h
  rw [← e, ← id, ← entry_calls he]
  exact Inspect.calls_bind_looks fun _ => .pure _

/-- A rule adds its calls. A rule that has some is checked on every connector. -/
theorem step_calls (bundled : FromBundled rules) (hr : r ∈ rules)
    (step : Step settings files c s r j f j') :
    j'.calls = j.calls ++ startedBy settings files s r.id := by
  by_cases each : r.id ∈ unconditional
  · have called := bundled.called hr each c
    cases step with
    | groupFails fails message => exact nomatch fails.symm.trans called.applies.group
    | ownFails holds fails message => exact nomatch fails.symm.trans called.applies.own
    | inherited applies base => exact absurd base called.base
    | called applies base call => rw [← (bundled.bound r hr).calls, call]
  · have none : startedBy settings files s r.id = [] :=
      startedBy_other fun mem => each ((by decide : programChecks.ids ⊆ unconditional) mem)
    cases step with
    | called applies base call => rw [← (bundled.bound r hr).calls, call]
    | _ => rw [none, List.append_nil]

theorem run_calls (bundled : FromBundled rules) {run : List Rule} (sub : ∀ r ∈ run, r ∈ rules)
    (h : Run settings files c s run j fs j') :
    j'.calls = j.calls ++ (run.map (·.id)).flatMap (startedBy settings files s) := by
  induction h with
  | nil => exact (List.append_nil _).symm
  | cons step _ ih =>
    obtain ⟨first, others⟩ := List.forall_mem_cons.1 sub
    rw [ih others, step_calls bundled first step, List.map_cons, List.flatMap_cons, List.append_assoc]

/-- The rules are evaluated in the order in which the checks are listed. -/
theorem inOrder_ids (bundled : FromBundled rules) :
    (inOrder rules).map (·.id) = Registry.bundled.ids := by
  have chain : Registry.bundled.ids.IsChain (· < ·) := by decide +kernel
  have sorted : Registry.bundled.ids.Pairwise (· < ·) := List.isChain_iff_pairwise.1 chain
  have perm : ((inOrder rules).map (·.id)).Perm Registry.bundled.ids :=
    ((List.mergeSort_perm ..).map _).trans bundled.ids
  refine perm.eq_of_pairwise (fun _ _ _ _ lt lt' => absurd (String.lt_trans lt lt') (String.lt_irrefl _))
    (List.pairwise_map.2 (inOrder_strict bundled.distinct)) sorted

/-- A run of the bundled rules asks version control about the build artifacts of the module if there are
any. It then compiles the module if the build is to be checked and the rule on registration passes. It
starts no other program, whatever becomes of these. -/
theorem bundled_calls (path : Path) :
    ∃ catalog, Catalog.ofDocument path Registry.bundledRuleChecks Catalog.bundledDocument = .ok catalog ∧
      ∀ settings files c s j, ∃ fs j',
        (findings catalog.rules settings files c).start s j = (.ok fs, j') ∧
        j'.calls = j.calls ++ trackingCalls files s ++
          buildCalls settings files (∃ f ∈ fs, f.ruleId = "CHK-401" ∧ f.severity = .pass) := by
  obtain ⟨catalog, loaded, bundled⟩ := fromBundled_load path
  refine ⟨catalog, loaded, fun settings files c s j => ?_⟩
  obtain ⟨line, fs, j', -, start, run⟩ := bundled.start settings files c s j
  refine ⟨fs, j', start, ?_⟩
  have listed : ("CHK-401", Packaging.parentRegistration) ∈ Registry.bundled := by simp [Registry.bundled]
  obtain ⟨⟨finding, mem, id⟩, passes⟩ := bundled.pass_iff listed (by decide) (congrArg Prod.fst start)
  have registered : (∃ f ∈ fs, f.ruleId = "CHK-401" ∧ f.severity = .pass) ↔
      Packaging.registered? files = some true := by
    rw [Packaging.parentRegistration_severity] at passes
    have told : Packaging.registered? files = some true ↔ finding.severity = .pass := by
      rw [passes finding mem id]
      rcases Packaging.registered? files with _ | _ | _ <;> simp
    rw [told]
    constructor
    · rintro ⟨f, hf, id', pass⟩
      exact (passes finding mem id).2 ((passes f hf id').1 pass)
    · exact fun pass => ⟨finding, mem, id, pass⟩
  have sub : ∀ r ∈ inOrder catalog.rules, r ∈ catalog.rules := fun r hr => List.mem_mergeSort.1 hr
  have calls := run_calls bundled sub run
  rw [inOrder_ids bundled] at calls
  simp only [registered]
  rw [calls, startedBy_all, List.append_assoc]

end Audit

end ModuleAudit
