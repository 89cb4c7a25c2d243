import ModuleAudit.Proofs.Audit.Run
import ModuleAudit.Proofs.Catalog.Loading

/-!
# Running a loaded catalog

The loader has checked the ids and the conditions of a catalog (`checked_of_ofDocument`), but it
looks at no skip message. So the rules of a loaded catalog run to the end exactly if the skip
messages that are asked for can be filled in (`loaded_runs_iff`), and a fact that does not exist can
end a run (`loaded_misnamed_fact`).
-/

namespace ModuleAudit.Catalog

variable {path : Path} {checks : Registry RuleCheck} {document : Value} {catalog : Catalog}

/-! ## What has been checked in a loaded catalog -/

theorem acceptable_of_wellFormed {entry : Value}
    (h : ∀ c, entry.get? "condition" = some c → Condition.WellFormed c) :
    Condition.Acceptable ((entry.get? "condition").getD .null) := by
  cases held : entry.get? "condition" with
  | none => exact .inl rfl
  | some c => exact .inr (Condition.check_of_wellFormed (h c held) _)

/-- The ids of rules are those of their entries. -/
theorem SoundRules.ids_eq {groups : List RuleGroup} {known : List Value} {checked : List String}
    {seen entries : List Value} {ids : List String} {rules : List Rule}
    (h : SoundRules known checked seen entries ids)
    (made : List.Forall₂ (fun entry r => ruleOf groups checks entry = .ok r) entries rules) :
    rules.map (·.id) = ids := by
  induction h generalizing rules with
  | nil =>
    cases made
    rfl
  | cons first _ ih =>
    cases made with
    | cons made others =>
      obtain ⟨v, held, e⟩ := (ruleOf_eq_ok_iff.1 made).id
      obtain rfl := Option.some.inj (first.held.symm.trans held)
      rw [List.map_cons, ih others, e]
      rfl

/-- The loader has seen to the ids and the conditions. -/
structure Checked (catalog : Catalog) : Prop where
  distinct : (catalog.rules.map (·.id)).Nodup
  condition : ∀ r ∈ catalog.rules, Condition.Acceptable r.condition
  groupCondition : ∀ r ∈ catalog.rules, Condition.Acceptable r.group.condition

theorem checked_of_ofDocument (h : ofDocument path checks document = .ok catalog) :
    Checked catalog := by
  obtain ⟨entries, -, found, groups, rules, madeGroups, madeRules, rfl⟩ := ofDocument_eq_ok_iff.1 h
  obtain ⟨soundGroups, ids, soundRules, -⟩ := problems_eq_nil_iff.1 found
  have ofRule {r : Rule} (hr : r ∈ (assemble path groups rules).rules) :
      ∃ entry ∈ entries.2, OfEntry groups checks entry r := by
    obtain ⟨entry, he, made⟩ := exists_of_mem_mapM madeRules (List.mem_mergeSort.1 hr)
    exact ⟨entry, he, ruleOf_eq_ok_iff.1 made⟩
  refine ⟨?_, fun r hr => ?_, fun r hr => ?_⟩
  · have perm : (assemble path groups rules).rules.Perm rules := List.mergeSort_perm ..
    rw [(perm.map _).nodup_iff, soundRules.ids_eq (mapM_eq_ok.1 madeRules)]
    exact soundRules.nodup.1
  · obtain ⟨entry, he, made⟩ := ofRule hr
    obtain ⟨_, _, sound⟩ := soundRules.exists_sound he
    exact made.condition ▸ acceptable_of_wellFormed sound.condition
  · obtain ⟨entry, he, made⟩ := ofRule hr
    obtain ⟨v, -, named⟩ := made.group
    obtain ⟨entry', he', made'⟩ := exists_of_mem_mapM madeGroups (groupNamed_eq_ok named).1
    obtain ⟨_, _, sound⟩ := soundGroups.exists_sound he'
    obtain ⟨-, -, -, condition, -⟩ := groupOf_eq_ok_iff.1 made'
    exact condition ▸ acceptable_of_wellFormed sound.condition

/-! ## Running a loaded catalog -/

/-- The rules of a loaded catalog run to the end exactly if the skip messages that are asked for can
be filled in. Nothing else can end a run early, and a run that comes to its end is complete. -/
theorem loaded_runs_iff (loaded : ofDocument path checks document = .ok catalog) (settings : Settings)
    (files : FileSet) (c : Classification) (s : Surroundings) (j : Journal) :
    ((∃ fs j', (Audit.findings catalog.rules settings files c).start s j = (.ok fs, j')) ↔
      ∀ r ∈ catalog.rules, r.Explained c.facts) ∧
    ∀ fs j', (Audit.findings catalog.rules settings files c).start s j = (.ok fs, j') →
      Audit.Complete settings files c s catalog.rules j fs j' := by
  have checked := checked_of_ofDocument loaded
  have ready (explained : ∀ r ∈ catalog.rules, r.Explained c.facts) :
      ∀ r ∈ catalog.rules, r.Ready c.facts := fun r hr =>
    { toExplained := explained r hr
      groupCondition := checked.groupCondition r hr
      condition := checked.condition r hr }
  refine ⟨⟨fun ⟨_, _, start⟩ => Audit.explained_of_findings start, fun explained => ?_⟩, ?_⟩
  · obtain ⟨_, fs, j', _, start, _⟩ := Audit.findings_start (ready explained) settings files s j
    exact ⟨fs, j', start⟩
  · intro fs j' start
    have explained := Audit.explained_of_findings start
    obtain ⟨_, fs₁, j₁, engine, start₁, run⟩ :=
      Audit.findings_start (ready explained) settings files s j
    obtain ⟨rfl, rfl⟩ : fs₁ = fs ∧ j₁ = j' := by simpa [start₁] using start
    exact run.complete engine checked.distinct

/-- The entry of a group. -/
def miscEntry : Value :=
  .map [(.text "id", .text "misc"), (.text "number", .int 9), (.text "title", .text "Misc")]

/-- The condition of rules for connectors that read data. -/
def forReaders : Value :=
  .map [
    (.text "fact", .text "capability.source"), (.text "op", .text "eq"), (.text "value", .bool true)]

/-- The entry of a rule for connectors that read data. -/
def readersEntry (skip : String) : Value :=
  .map [
    (.text "id", .text "CHK-901"), (.text "group", .text "misc"), (.text "title", .text "Sample"),
    (.text "level", .text "error"), (.text "condition", forReaders), (.text "skip", .text skip)]

/-- A document with these two entries. -/
def readersDocument (skip : String) : Value :=
  .map [(.text "groups", .list [miscEntry]), (.text "rules", .list [readersEntry skip])]

/-- The rule of the document, with a check. -/
def readersRule (skip : String) (check : RuleCheck) : Rule where
  id := "CHK-901"
  title := .text "Sample"
  group := { id := .text "misc", number := 9, title := .text "Misc" }
  level := .error
  check
  condition := forReaders
  skip := .text skip

theorem readers_load (path : Path) (skip : String) (check : RuleCheck) :
    ∃ catalog, ofDocument path [("CHK-901", check)] (readersDocument skip) = .ok catalog ∧
      catalog.rules = [readersRule skip check] := by
  let r := readersRule skip check
  have entries : entriesOf (readersDocument skip) = .ok ([miscEntry], [readersEntry skip]) := by
    with_unfolding_all rfl
  have found : problems [miscEntry] [readersEntry skip] ["CHK-901"] = .ok [] := by
    with_unfolding_all rfl
  have groups : [miscEntry].mapM groupOf = .ok [r.group] := by
    with_unfolding_all rfl
  have rules : [readersEntry skip].mapM (ruleOf [r.group] [("CHK-901", check)]) = .ok [r] := by
    with_unfolding_all rfl
  exact ⟨_, ofDocument_eq_ok_iff.2 ⟨_, entries, found, _, _, groups, rules, rfl⟩,
    List.mergeSort_singleton _⟩

/-- A connector that neither reads nor writes data. -/
def idle : Classification := ⟨.standalone, false, false, .none, none⟩

theorem readers_skip (skip : String) (check : RuleCheck) :
    (readersRule skip check).skipReason idle.facts =
      (Rule.skipText idle.facts (.text skip)).map some := by
  have holds : Condition.evaluate idle.facts .null = .ok true := by rw [Condition.evaluate]
  have fails : Condition.evaluate idle.facts forReaders = .ok false := by decide +kernel
  exact Audit.skipReason_eq (readersRule skip check) idle.facts holds fails

/-- A rule that does not apply is skipped. -/
theorem loaded_runs_purpose :
    let check : RuleCheck := fun _ _ => Inspect.fault (.badValue "no digits")
    let files : FileSet :=
      { module := ⟨⟨0, []⟩, "a"⟩, primary := .ofText ⟨0, ["AConnector.java"]⟩ "class A \x7b\x7d".toList }
    let s : Surroundings := ⟨⟨.empty, ⟨0, []⟩⟩, fun _ => .notFound⟩
    ∃ catalog, ofDocument ⟨0, ["catalog.yaml"]⟩ [("CHK-901", check)]
        (readersDocument "not applicable — \x7bpurpose\x7d") = .ok catalog ∧
      ∃ fs j', (Audit.findings catalog.rules {} files idle).start s {} = (.ok fs, j') := by
  intro check files s
  obtain ⟨catalog, loaded, rules⟩ :=
    readers_load ⟨0, ["catalog.yaml"]⟩ "not applicable — \x7bpurpose\x7d" check
  refine ⟨catalog, loaded, (loaded_runs_iff loaded {} files idle s {}).1.2 ?_⟩
  have skip : Rule.skipText idle.facts (.text "not applicable — \x7bpurpose\x7d") =
    .ok "not applicable — no capabilities declared" := by decide +kernel
  rw [rules, List.forall_mem_singleton]
  exact Audit.explained_of_skipReason ((readers_skip _ check).trans (by rw [skip]; rfl))

/-- A skip message with a fact that does not exist is loaded, and ends the run without a finding. -/
theorem loaded_misnamed_fact :
    let check : RuleCheck := fun _ _ => return .verdict (.ok "fine")
    let files : FileSet :=
      { module := ⟨⟨0, []⟩, "a"⟩, primary := .ofText ⟨0, ["AConnector.java"]⟩ "class A \x7b\x7d".toList }
    let s : Surroundings := ⟨⟨.empty, ⟨0, []⟩⟩, fun _ => .notFound⟩
    ∃ catalog, ofDocument ⟨0, ["catalog.yaml"]⟩ [("CHK-901", check)]
        (readersDocument "not applicable — \x7bconnector\x7d") = .ok catalog ∧
      ((Audit.findings catalog.rules {} files idle).start s {}).1 =
        .error (.missingKey "connector") := by
  intro check files s
  obtain ⟨catalog, loaded, rules⟩ :=
    readers_load ⟨0, ["catalog.yaml"]⟩ "not applicable — \x7bconnector\x7d" check
  refine ⟨catalog, loaded, ?_⟩
  have skip : Rule.skipText idle.facts (.text "not applicable — \x7bconnector\x7d") =
    .error (.missingKey "connector") := by decide +kernel
  rw [rules, Audit.findings, Audit.inOrder, List.mergeSort_singleton, Inspect.start_bind,
    Inspect.start_log]
  dsimp only
  rw [List.mapM_cons, Inspect.start_bind, Audit.evaluate, Inspect.start_bind, Inspect.start_ofExcept,
    readers_skip, skip]
  rfl

end ModuleAudit.Catalog
