import ModuleAudit.Proofs.Checks.Steady

/-!
# Evidence beside the connector class

A check searches (`Check.Searches`) if it passes exactly when the connector class settles the matter or
some Java file holds what is looked for, and the connector class alone tells how it counts otherwise.

* `Searches.passes_added`: such a check still passes when a Java file comes to the helpers;
* `Searches.severity_perm`: the order of the helpers does not matter to it;
* `bundled_ignoresHelpers`: apart from the checks that search and those that judge the first file of a
  kind, no bundled check looks at the helpers at all;
* `evidence_adds_up`: this is said of the bundled checks by their ids.
-/

namespace ModuleAudit

open ModuleAudit.Java (Source)

namespace FileSet

/-- The files with other helpers. -/
def withHelpers (f : FileSet) (helpers : List Source) : FileSet := { f with helpers }

/-- Whether some Java file is of a kind. -/
def holds (f : FileSet) (p : Source → Bool) : Bool := f.sources.any p

variable {f : FileSet} {p : Source → Bool}

theorem holds_eq : f.holds p = (p f.primary || f.helpers.any p) := rfl

theorem holds_or (p q : Source → Bool) : f.holds (fun s => p s || q s) = (f.holds p || f.holds q) := by
  rw [Bool.eq_iff_iff]
  simp only [holds, List.any_eq_true, Bool.or_eq_true, and_or_left, exists_or]

theorem firstWith_of_holds (h : f.holds p = true) : ∃ s, f.firstWith p = some s := by
  rw [holds, List.any_eq_true] at h
  exact Option.isSome_iff_exists.1 (List.find?_isSome.2 h)

theorem firstWith_of_not_holds (h : f.holds p = false) : f.firstWith p = none := by
  rw [holds, List.any_eq_false] at h
  exact List.find?_eq_none.2 h

end FileSet

open FileSet (holds_eq holds_or firstWith_of_holds firstWith_of_not_holds)

/-! ## Checks that search -/

namespace Check

/-- How the verdict of a check counts, or the fault that keeps it from giving one. -/
def severity (c : Check) (f : FileSet) (settings : Settings) (s : Surroundings) :
    Except Fault (Option Severity) := ((c f settings).answer s).map Verdict.severity

/-- The check passes if the connector class settles the matter or some Java file holds what is looked
for. -/
def Searches (c : Check) : Prop :=
  ∃ (settled holds : Source → Bool) (otherwise : Source → Option Severity), ∀ f settings s,
    c.severity f settings s =
      .ok (if settled f.primary || f.holds holds then some .pass else otherwise f.primary)

namespace Searches

variable {c : Check} {f : FileSet} {settings : Settings} {s : Surroundings}

/-- More files hold no less. -/
theorem passes_of_subset (h : c.Searches) {helpers : List Source} (more : f.helpers ⊆ helpers)
    (passes : c.severity f settings s = .ok (some .pass)) :
    c.severity (f.withHelpers helpers) settings s = .ok (some .pass) := by
  obtain ⟨settled, holds, otherwise, severity⟩ := h
  rw [severity] at passes ⊢
  refine congrArg Except.ok ?_
  replace passes := Except.ok.inj passes
  split at passes
  next found =>
    refine if_pos (Bool.or_eq_true_iff.2 ((Bool.or_eq_true_iff.1 found).imp_right fun here => ?_))
    rw [FileSet.holds, List.any_eq_true] at here ⊢
    obtain ⟨source, mem, kind⟩ := here
    exact ⟨source, List.cons_subset_cons _ more mem, kind⟩
  next =>
    split
    next => rfl
    next => exact passes

/-- Java files that come to the helpers take no evidence away. -/
theorem passes_added (h : c.Searches) {before after : List Source} (new : Source)
    (helpers : f.helpers = before ++ after) (passes : c.severity f settings s = .ok (some .pass)) :
    c.severity (f.withHelpers (before ++ new :: after)) settings s = .ok (some .pass) := by
  refine h.passes_of_subset ?_ passes
  rw [helpers]
  exact List.append_subset.2 ⟨List.subset_append_left .., fun source mem =>
    List.mem_append_right _ (List.mem_cons_of_mem _ mem)⟩

/-- The order of the helpers does not matter. -/
theorem severity_perm (h : c.Searches) {helpers : List Source} (order : helpers.Perm f.helpers) :
    c.severity (f.withHelpers helpers) settings s = c.severity f settings s := by
  obtain ⟨settled, holds, otherwise, severity⟩ := h
  have same : (f.withHelpers helpers).holds holds = f.holds holds :=
    congrArg (holds f.primary || ·) order.any_eq
  rw [severity, severity, same]
  rfl

/-- A check that looks at nothing but the files. -/
theorem ofFiles {v : FileSet → Verdict} (settled holds : Source → Bool)
    (otherwise : Source → Option Severity)
    (found : ∀ f : FileSet, settled f.primary = true ∨ f.holds holds = true →
      (v f).severity = some .pass)
    (missed : ∀ f : FileSet, settled f.primary = false → f.holds holds = false →
      (v f).severity = otherwise f.primary) : (Check.ofFiles v).Searches := by
  refine ⟨settled, holds, otherwise, fun f settings s => congrArg Except.ok ?_⟩
  split
  next h => exact found f (Bool.or_eq_true_iff.1 h)
  next h =>
    obtain ⟨unsettled, nowhere⟩ := Bool.or_eq_false_iff.1 (Bool.eq_false_iff.2 h)
    exact missed f unsettled nowhere

/-- A check that passes if some Java file holds what is looked for, and is a violation otherwise. -/
theorem ofHolds {v : FileSet → Verdict} (holds : Source → Bool)
    (found : ∀ f : FileSet, f.holds holds = true → (v f).severity = some .pass)
    (missed : ∀ f : FileSet, f.holds holds = false → (v f).severity = none) :
    (Check.ofFiles v).Searches :=
  .ofFiles (fun _ => false) holds (fun _ => none) (fun f h => found f (h.resolve_left Bool.false_ne_true))
    fun f _ => missed f

/-- A check that passes if there is a first file of a kind. -/
theorem ofFirst {v : FileSet → Verdict} (holds : Source → Bool)
    (found : ∀ (f : FileSet) (s : Source), f.firstWith holds = some s → (v f).severity = some .pass)
    (missed : ∀ f : FileSet, f.firstWith holds = none → (v f).severity = none) :
    (Check.ofFiles v).Searches :=
  .ofHolds holds (fun f h => (firstWith_of_holds h).elim (found f))
    fun f h => missed f (firstWith_of_not_holds h)

end Searches

/-- The check does not look at the helpers. -/
def IgnoresHelpers (c : Check) : Prop :=
  ∀ (f : FileSet) (helpers : List Source) (settings : Settings),
    c (f.withHelpers helpers) settings = c f settings

end Check

open Check (Searches)

/-! ## The bundled checks -/

theorem RecordFlow.recordsProcessed_searches : RecordFlow.recordsProcessed.Searches := by
  refine .ofHolds (·.hasCall "processRecord" true) (fun f h => ?_) fun f h => ?_
  · split
    next => rfl
    next none_here =>
      rw [holds_eq, Bool.eq_false_iff.2 none_here, Bool.false_or, List.any_eq_true] at h
      obtain ⟨helper, first⟩ := Option.isSome_iff_exists.1 (List.find?_isSome.2 h)
      rw [first]
      rfl
  · obtain ⟨none_here, nowhere⟩ := Bool.or_eq_false_iff.1 h
    rw [if_neg (Bool.eq_false_iff.1 none_here), List.find?_eq_none.2 (List.any_eq_false.1 nowhere)]
    rfl

theorem Cursor.invocation_searches : Cursor.invocation.Searches := by
  refine .ofFiles (fun s => !(s.calls "identifyCursorFields" false).isEmpty) Cursor.inlineIn
    (fun s => if s.declares "identifyCursorFields" then none else some .warn) (fun f h => ?_)
    fun f unsettled h => ?_
  · dsimp only
    split
    next => rfl
    next uncalled =>
      obtain ⟨source, first⟩ := firstWith_of_holds (h.resolve_left uncalled)
      rw [first]
      rfl
  · rw [firstWith_of_not_holds h]
    dsimp only
    rw [if_neg (Bool.eq_false_iff.1 unsettled), if_neg (by decide)]
    split <;> rfl

namespace Destination

theorem requireFile_searches (needles : List String) (good problem : String) :
    (requireFile needles good problem).Searches := by
  refine .ofFirst (·.contains needles) (fun f s h => ?_) fun f h => ?_
  all_goals rw [fileWith?, h]; rfl

theorem stagingLoad_searches : stagingLoad.Searches := by
  refine .ofHolds (fun s => s.contains ["COPY INTO", "executeCopyInto", "copyInto"] ||
    (s.contains ["uploadToStage", "stageLocation"] || putStatement.found s.code))
    (fun f h => ?_) fun f h => ?_
  · rw [holds_or, holds_or, Bool.or_eq_true_iff, Bool.or_eq_true_iff] at h
    split
    next => rfl
    next uncopied =>
      have staged : ∃ s, (fileWith? f ["uploadToStage", "stageLocation"]).or
          (f.firstWith (putStatement.found ·.code)) = some s := by
        rcases h with copied | uploaded | put
        · obtain ⟨s, first⟩ := firstWith_of_holds copied
          exact nomatch uncopied.symm.trans first
        · obtain ⟨s, first⟩ := firstWith_of_holds uploaded
          exact ⟨s, by rw [fileWith?, first, Option.some_or]⟩
        · obtain ⟨s, first⟩ := firstWith_of_holds put
          exact Option.isSome_iff_exists.1 (by rw [Option.isSome_or, first]; exact Bool.or_true _)
      obtain ⟨s, first⟩ := staged
      dsimp only
      rw [first]
      rfl
  · rw [holds_or, holds_or, Bool.or_eq_false_iff, Bool.or_eq_false_iff] at h
    obtain ⟨uncopied, unstaged, unput⟩ := h
    rw [fileWith?, firstWith_of_not_holds uncopied]
    dsimp only
    rw [fileWith?, firstWith_of_not_holds unstaged, firstWith_of_not_holds unput]
    rfl

theorem loadModeVariants_searches : loadModeVariants.Searches := by
  refine .ofHolds (fun s => loadModes.any fun mode => mode.2.found s.bare) (fun f h => ?_) fun f h => ?_
  · rw [FileSet.holds, List.any_eq_true] at h
    obtain ⟨s, mem, shown⟩ := h
    obtain ⟨mode, known, found⟩ := List.any_eq_true.1 shown
    obtain ⟨first, here⟩ := firstWith_of_holds (f := f) (p := (mode.2.found ·.bare))
      (List.any_eq_true.2 ⟨s, mem, found⟩)
    split
    next none_handled =>
      have unhandled := List.filterMap_eq_nil_iff.1 none_handled mode known
      dsimp only at unhandled
      rw [here] at unhandled
      exact nomatch unhandled
    next => rfl
  · have unhandled : ∀ mode ∈ loadModes, f.firstWith (mode.2.found ·.bare) = none := fun mode known => by
      refine firstWith_of_not_holds (List.any_eq_false.2 fun s mem found => ?_)
      exact List.any_eq_false.1 h s mem (List.any_eq_true.2 ⟨mode, known, found⟩)
    split
    next => rfl
    next some_handled =>
      refine absurd (List.filterMap_eq_nil_iff.2 fun mode known => ?_) some_handled
      dsimp only
      rw [unhandled mode known]
      rfl

theorem tableStatements_searches : tableStatements.Searches := by
  refine .ofFirst (·.contains ["CREATE TABLE", "createTable", "buildCreateTableSql"])
    (fun f s h => ?_) fun f h => ?_
  · rw [fileWith?, h]
    dsimp only
    split <;> rfl
  · rw [fileWith?, h]
    rfl

theorem activationTarget_searches : activationTarget.Searches := by
  refine .ofFirst (·.mentions ["getActivationTarget"]) (fun f s h => ?_) fun f h => ?_
  all_goals rw [h]; rfl

end Destination

namespace Cancellation

theorem helper_searches : helper.Searches := by
  refine .ofFirst (·.mentions cancelChecks) (fun f s h => ?_) fun f h => ?_
  all_goals rw [h]; rfl

/-- No call is counted exactly if no file has one. -/
theorem checkCount_eq_zero {sources : List Source} :
    checkCount sources = 0 ↔ ∀ s ∈ sources, ∀ name ∈ cancelChecks, s.calls name false = [] := by
  rw [checkCount, ← List.sum_eq_foldl, List.sum_eq_zero_iff_forall_eq_nat]
  simp only [List.mem_flatMap, List.mem_map]
  constructor
  · intro h s mem name known
    exact List.length_eq_zero_iff.1 (h _ ⟨s, mem, name, known, rfl⟩)
  · rintro h _ ⟨s, mem, name, known, rfl⟩
    exact List.length_eq_zero_iff.2 (h s mem name known)

theorem inLoops_searches : inLoops.Searches := by
  refine .ofFiles (·.loopCount == 0) (fun s => cancelChecks.any fun name => !(s.calls name false).isEmpty)
    (fun _ => none) (fun f h => ?_) fun f loops h => ?_
  · dsimp only
    split
    next => rfl
    next loops =>
      have here := h.resolve_left loops
      rw [FileSet.holds, List.any_eq_true] at here
      obtain ⟨s, mem, checked⟩ := here
      obtain ⟨name, known, called⟩ := List.any_eq_true.1 checked
      have some_checks : ¬ (checkCount f.sources == 0) = true := fun none_called => by
        rw [checkCount_eq_zero.1 (beq_iff_eq.1 none_called) s mem name known] at called
        exact nomatch called
      rw [if_neg some_checks]
      rfl
  · have unchecked : checkCount f.sources = 0 := checkCount_eq_zero.2 fun s mem name known => by
      have uncalled := List.any_eq_false.1 (Bool.eq_false_iff.2 (List.any_eq_false.1 h s mem)) name known
      simpa using uncalled
    dsimp only
    rw [loops, unchecked]
    rfl

end Cancellation

/-- The bundled checks that search. -/
def searchChecks : Registry Check := [
  ("CHK-202", RecordFlow.recordsProcessed),
  ("CHK-216", Cursor.invocation),
  ("CHK-314", Destination.stagingLoad),
  ("CHK-315", Destination.merging),
  ("CHK-316", Destination.loadModeVariants),
  ("CHK-317", Destination.tableStatements),
  ("CHK-324", Destination.activationTarget),
  ("CHK-325", Destination.activationTargetField),
  ("CHK-326", Destination.mergeKeys),
  ("CHK-327", Destination.errorRecords),
  ("CHK-328", Destination.successRecords),
  ("CHK-406", Cancellation.helper),
  ("CHK-407", Cancellation.inLoops)]

/-- The ids of the bundled checks that judge the first file of a kind. -/
def firstFileIds : List String := ["CHK-214", "CHK-305", "CHK-312", "CHK-313", "CHK-322", "CHK-323"]

theorem searchChecks_search : ∀ entry ∈ searchChecks, entry.2.Searches := by
  simp only [searchChecks, List.forall_mem_cons, List.not_mem_nil, false_imp_iff, implies_true, and_true]
  exact ⟨RecordFlow.recordsProcessed_searches, Cursor.invocation_searches,
    Destination.stagingLoad_searches, Destination.requireFile_searches _ _ _,
    Destination.loadModeVariants_searches, Destination.tableStatements_searches,
    Destination.activationTarget_searches, Destination.requireFile_searches _ _ _,
    Destination.requireFile_searches _ _ _, Destination.requireFile_searches _ _ _,
    Destination.requireFile_searches _ _ _, Cancellation.helper_searches, Cancellation.inLoops_searches⟩

theorem searchChecks_lookup : ∀ entry ∈ searchChecks, Registry.bundled.lookup entry.1 = some entry.2 := by
  intro entry mem
  refine Registry.lookup_of_mem bundled_ids_nodup ?_
  have bundled : searchChecks ⊆ Registry.bundled := by simp [searchChecks, Registry.bundled]
  exact bundled mem

/-- Apart from the checks that search and those that judge the first file of a kind, no check looks at
the helpers. -/
theorem bundled_ignoresHelpers : ∀ entry ∈ Registry.bundled, entry.1 ∉ searchChecks.ids →
    entry.1 ∉ firstFileIds → entry.2.IgnoresHelpers := by
  simp only [Registry.bundled, List.forall_mem_cons, List.not_mem_nil, false_imp_iff, implies_true,
    and_true]
  and_intros
  -- The checks that look at helpers are left out by their ids.
  all_goals first
    | exact fun _ _ _ _ _ => rfl
    | exact fun other => absurd (by decide) other
    | exact fun _ other => absurd (by decide) other

/-- More Java files never turn a feature that was found into a missing one: the bundled checks that
search still pass when a file comes to the helpers, and count as they did when the helpers change
places. All others but those that judge the first file of a kind do the same whatever the helpers
are. -/
theorem evidence_adds_up :
    (∀ entry ∈ searchChecks, Registry.bundled.lookup entry.1 = some entry.2 ∧
      ∀ (f : FileSet) (settings : Settings) (s : Surroundings),
        (∀ (before after : List Source) (new : Source), f.helpers = before ++ after →
          entry.2.severity f settings s = .ok (some .pass) →
          entry.2.severity (f.withHelpers (before ++ new :: after)) settings s = .ok (some .pass)) ∧
        ∀ helpers : List Source, helpers.Perm f.helpers →
          entry.2.severity (f.withHelpers helpers) settings s = entry.2.severity f settings s) ∧
    ∀ entry ∈ Registry.bundled, entry.1 ∉ searchChecks.ids → entry.1 ∉ firstFileIds →
      ∀ (f : FileSet) (helpers : List Source) (settings : Settings) (s : Surroundings) (j : Journal),
        (entry.2 (f.withHelpers helpers) settings).start s j = (entry.2 f settings).start s j := by
  constructor
  · intro entry mem
    have searches := searchChecks_search entry mem
    refine ⟨searchChecks_lookup entry mem, fun f settings s => ⟨?_, fun helpers order => ?_⟩⟩
    · intro before after new helpers passes
      exact searches.passes_added new helpers passes
    · exact searches.severity_perm order
  · intro entry mem other later f helpers settings s j
    rw [bundled_ignoresHelpers entry mem other later f helpers settings]

/-- Merging is found in a string of a helper, and is still found behind a file that only notes it. -/
theorem evidence_adds_up_merging :
    let file (name text : String) : Source := .ofText ⟨0, [name]⟩ text.toList
    let f : FileSet := {
      module := ⟨⟨0, []⟩, "a"⟩
      primary := file "AConnector.java" "class AConnector \x7b \x7d"
      helpers := [file "Loader.java" "class Loader \x7b String sql = \"MERGE INTO t\"; \x7d"] }
    let note := file "Draft.java" "// no MERGE INTO yet"
    ∀ settings s,
      Destination.merging.severity (f.withHelpers []) settings s = .ok none ∧
      Destination.merging.severity f settings s = .ok (some .pass) ∧
      Destination.merging.severity (f.withHelpers (note :: f.helpers)) settings s = .ok (some .pass) := by
  intro file f note settings s
  have mem : ("CHK-315", Destination.merging) ∈ searchChecks := by simp [searchChecks]
  have passes : Destination.merging.severity f settings s = .ok (some .pass) :=
    congrArg Except.ok (by decide +kernel)
  refine ⟨congrArg Except.ok (by decide +kernel), passes, ?_⟩
  exact ((evidence_adds_up.1 _ mem).2 f settings s).1 [] f.helpers note rfl passes

end ModuleAudit
