import ModuleAudit.Proofs.Catalog.Binding

/-!
# A catalog for any checks

Checks with ids of rules have a catalog of advisory rules (`advisory_load`). One of its rules applies
to every connector, the others to connectors that read data.
-/

namespace ModuleAudit.Catalog

/-- The entry of an advisory rule. It applies to connectors that read data, or to every connector if it
is the one with the id `everywhere`. -/
def advisoryEntry (everywhere id : String) : Value :=
  .map ([
    (.text "id", .text id), (.text "group", .text "misc"), (.text "title", .text "Sample"),
    (.text "level", .text "warning")] ++
    if id = everywhere then [] else [(.text "condition", forReaders)])

/-- A document with such an entry for each id. -/
def advisoryDocument (everywhere : String) (ids : List String) : Value :=
  .map [
    (.text "groups", .list [miscEntry]), (.text "rules", .list (ids.map (advisoryEntry everywhere)))]

/-- The group of `miscEntry`. -/
def miscGroup : RuleGroup := { id := .text "misc", number := 9, title := .text "Misc" }

/-- The rule of `advisoryEntry`, with its check. -/
def advisoryRule (everywhere : String) (entry : String × RuleCheck) : Rule where
  id := entry.1
  title := .text "Sample"
  group := miscGroup
  level := .warning
  check := entry.2
  condition := if entry.1 = everywhere then .null else forReaders

variable {everywhere id : String} {checks : Registry RuleCheck}

theorem advisoryEntry_condition :
    (advisoryEntry everywhere id).get? "condition" =
      if id = everywhere then none else some forReaders := by
  unfold advisoryEntry
  split <;> with_unfolding_all rfl

theorem forReaders_wellFormed : Condition.WellFormed forReaders := by
  have checked : Condition.check "condition" forReaders = .ok [] := by decide +kernel
  exact Condition.wellFormed_of_check checked

theorem advisoryEntry_sound {checked : List String} {seen : List Value} (form : isRuleId id = true)
    (check : id ∈ checked) (new : isKnown (.text id) seen = false) :
    SoundRule [.text "misc"] checked seen (advisoryEntry everywhere id) id where
  isMap := rfl
  held := by with_unfolding_all rfl
  title := by with_unfolding_all rfl
  form := isRuleId_iff.1 form
  new
  check
  group := ⟨.text "misc", by with_unfolding_all rfl, rfl, by with_unfolding_all rfl⟩
  level := ⟨"warning", by decide, by with_unfolding_all rfl⟩
  condition := fun c h => by
    rw [advisoryEntry_condition] at h
    split at h
    · exact absurd h.symm (Option.some_ne_none _)
    · exact Option.some.inj h ▸ forReaders_wellFormed

theorem miscEntry_sound : SoundGroups [] [miscEntry] := by
  have noCondition : miscEntry.get? "condition" = none := by with_unfolding_all rfl
  have first : SoundGroup [] miscEntry (.text "misc") := {
    isMap := rfl
    held := by with_unfolding_all rfl
    number := by with_unfolding_all rfl
    title := by with_unfolding_all rfl
    hashable := rfl
    new := rfl
    condition := fun c h => absurd (h.symm.trans noCondition) (Option.some_ne_none c) }
  exact .cons first .nil

theorem advisoryEntry_ofEntry {entry : String × RuleCheck} (distinct : checks.ids.Nodup)
    (h : entry ∈ checks) :
    OfEntry [miscGroup] checks (advisoryEntry everywhere entry.1) (advisoryRule everywhere entry) where
  id := ⟨.text entry.1, by with_unfolding_all rfl, rfl⟩
  title := by with_unfolding_all rfl
  group := ⟨.text "misc", by with_unfolding_all rfl, by with_unfolding_all rfl⟩
  level := ⟨.text "warning", by with_unfolding_all rfl, by with_unfolding_all rfl⟩
  check := checkOf_eq_ok_iff.2 (Registry.lookup_of_mem distinct h)
  inherited := by unfold advisoryEntry; split <;> with_unfolding_all rfl
  condition := by
    rw [advisoryEntry_condition, advisoryRule]
    split <;> rfl
  skip := by unfold advisoryEntry; split <;> with_unfolding_all rfl
  remediation := by unfold advisoryEntry; split <;> with_unfolding_all rfl

/-- Checks with ids of rules have a catalog of advisory rules. -/
theorem advisory_load (path : Path) (everywhere : String)
    (form : ∀ id ∈ checks.ids, isRuleId id = true) (distinct : checks.ids.Nodup) :
    ∃ catalog, ofDocument path checks (advisoryDocument everywhere checks.ids) = .ok catalog ∧
      catalog.rules.Perm (checks.map (advisoryRule everywhere)) := by
  have entries : entriesOf (advisoryDocument everywhere checks.ids) =
    .ok ([miscEntry], checks.ids.map (advisoryEntry everywhere)) := by with_unfolding_all rfl
  have known : groupIds [miscEntry] = [.text "misc"] := by with_unfolding_all rfl
  have rules : SoundRules (groupIds [miscEntry]) checks.ids []
      (checks.ids.map (advisoryEntry everywhere)) checks.ids := by
    refine soundRules_of_nodup ?_ distinct fun _ _ => rfl
    rw [known, List.forall₂_map_left_iff, List.forall₂_same]
    exact fun id hid seen new => advisoryEntry_sound (form id hid) hid new
  have sound : problems [miscEntry] (checks.ids.map (advisoryEntry everywhere)) checks.ids = .ok [] :=
    problems_eq_nil_iff.2 ⟨miscEntry_sound, checks.ids, rules, fun _ => id⟩
  have ofRules : (checks.ids.map (advisoryEntry everywhere)).mapM (ruleOf [miscGroup] checks) =
      .ok (checks.map (advisoryRule everywhere)) := by
    rw [mapM_eq_ok, Registry.ids, List.map_map, List.forall₂_map_left_iff,
      List.forall₂_map_right_iff, List.forall₂_same]
    exact fun entry h => ruleOf_eq_ok_iff.2 (advisoryEntry_ofEntry distinct h)
  have made : Made checks [miscEntry] (checks.ids.map (advisoryEntry everywhere)) [miscGroup]
      (checks.map (advisoryRule everywhere)) := ⟨sound, by with_unfolding_all rfl, ofRules⟩
  exact ⟨_, made.load entries path, List.mergeSort_perm ..⟩

end ModuleAudit.Catalog
