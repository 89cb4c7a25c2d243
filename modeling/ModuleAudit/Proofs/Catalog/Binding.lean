import Mathlib.Data.List.Pairwise
import Mathlib.Data.List.Perm.Basic
import ModuleAudit.Proofs.Catalog.Problems
import ModuleAudit.Proofs.Value.Sameness

/-!
# What a loaded catalog binds

* `problems_perm`: entries without problems have none in any other order;
* `Distinct.groupNamed_perm`: an id names the same group, in whatever order the groups are;
* `load_binds`: a loaded catalog has a group for each group entry and a rule for each rule entry, and
  each check is that of one rule (`Binds`). A document with the same entries in another order makes a
  catalog with the same rules.
-/

namespace ModuleAudit.Catalog

variable {path : Path} {checks : Registry RuleCheck} {document : Value} {catalog : Catalog}

/-! ## Sound entries in another order -/

section Order

variable {seen seen' : List Value}

theorem SoundGroups.congr {groups : List Value} (h : ∀ k, k ∈ seen ↔ k ∈ seen')
    (sound : SoundGroups seen groups) : SoundGroups seen' groups := by
  induction sound generalizing seen' with
  | nil => exact .nil
  | cons first _ ih => exact .cons ((SoundGroup.congr h).1 first) (ih fun k => by simp [h])

/-- Of two groups that follow each other either one may come first. -/
theorem SoundGroup.swap {g g' id id' : Value} (first : SoundGroup seen g id)
    (second : SoundGroup (id :: seen) g' id') :
    SoundGroup seen g' id' ∧ SoundGroup (id' :: seen) g id := by
  obtain ⟨apart, new⟩ : id'.same id = false ∧ isKnown id' seen = false := by
    simpa [isKnown] using second.new
  -- The check compared `id'` with `id`; now `id` is compared with `id'`.
  have new' : isKnown id (id' :: seen) = false := by
    rw [isKnown, List.any_cons, Value.same_comm first.hashable second.hashable, apart]
    exact first.new
  exact ⟨{ second with new }, { first with new := new' }⟩

theorem SoundGroups.perm {groups groups' : List Value} (perm : groups.Perm groups')
    (sound : SoundGroups seen groups) : SoundGroups seen groups' := by
  -- Any order is reached by swaps of neighbours, which leave the set of the ids seen after them.
  induction perm generalizing seen with
  | nil => exact sound
  | cons g _ ih =>
    obtain _ | ⟨first, others⟩ := sound
    exact .cons first (ih others)
  | swap g g' rest =>
    obtain _ | ⟨first, _ | ⟨second, others⟩⟩ := sound
    obtain ⟨second, first⟩ := first.swap second
    exact .cons second (.cons first (others.congr fun k => by simp [or_left_comm]))
  | trans _ _ ih ih' => exact ih' (ih sound)

variable {known known' : List Value} {checked : List String}

theorem SoundRule.ofKnown {rule : Value} {id : String} (h : ∀ k, k ∈ known ↔ k ∈ known')
    (sound : SoundRule known checked seen rule id) : SoundRule known' checked seen rule id := by
  obtain ⟨g, held, hashable, named⟩ := sound.group
  exact { sound with group := ⟨g, held, hashable, isKnown_congr h g ▸ named⟩ }

theorem SoundRules.congr {rules : List Value} {ids : List String}
    (hk : ∀ k, k ∈ known ↔ k ∈ known') (hs : ∀ k, k ∈ seen ↔ k ∈ seen')
    (sound : SoundRules known checked seen rules ids) :
    SoundRules known' checked seen' rules ids := by
  induction sound generalizing seen' with
  | nil => exact .nil
  | cons first _ ih =>
    exact .cons ((SoundRule.congr hs).1 (first.ofKnown hk)) (ih fun k => by simp [hs])

/-- Of two rules that follow each other either one may come first. -/
theorem SoundRule.swap {r r' : Value} {id id' : String} (first : SoundRule known checked seen r id)
    (second : SoundRule known checked (.text id :: seen) r' id') :
    SoundRule known checked seen r' id' ∧ SoundRule known checked (.text id' :: seen) r id := by
  obtain ⟨apart, new⟩ : id' ≠ id ∧ isKnown (.text id') seen = false := by
    simpa [isKnown, Value.same] using second.new
  have new' : isKnown (.text id) (.text id' :: seen) = false := by
    simpa [isKnown, Value.same, apart.symm] using first.new
  exact ⟨{ second with new }, { first with new := new' }⟩

theorem SoundRules.perm {rules rules' : List Value} {ids : List String} (perm : rules.Perm rules')
    (sound : SoundRules known checked seen rules ids) :
    ∃ ids', ids.Perm ids' ∧ SoundRules known checked seen rules' ids' := by
  induction perm generalizing seen ids with
  | nil => exact ⟨ids, .refl _, sound⟩
  | cons r _ ih =>
    obtain _ | ⟨first, others⟩ := sound
    obtain ⟨ids', perm, others⟩ := ih others
    exact ⟨_, perm.cons _, .cons first others⟩
  | swap r r' rest =>
    obtain _ | ⟨first, _ | ⟨second, others⟩⟩ := sound
    obtain ⟨second, first⟩ := first.swap second
    refine ⟨_, .swap .., .cons second (.cons first (others.congr (fun _ => Iff.rfl) fun k => ?_))⟩
    simp [or_left_comm]
  | trans _ _ ih ih' =>
    obtain ⟨ids', perm, sound⟩ := ih sound
    obtain ⟨ids'', perm', sound⟩ := ih' sound
    exact ⟨ids'', perm.trans perm', sound⟩

/-- Entries without problems have none in any other order. -/
theorem problems_perm {groups groups' rules rules' : List Value} (hg : groups.Perm groups')
    (hr : rules.Perm rules') (h : problems groups rules checked = .ok []) :
    problems groups' rules' checked = .ok [] := by
  obtain ⟨soundGroups, ids, soundRules, used⟩ := problems_eq_nil_iff.1 h
  obtain ⟨ids', perm, soundRules⟩ := soundRules.perm hr
  have known : ∀ k, k ∈ groupIds groups ↔ k ∈ groupIds groups' := fun _ => (hg.filterMap _).mem_iff
  exact problems_eq_nil_iff.2 ⟨soundGroups.perm hg, ids', soundRules.congr known fun _ => Iff.rfl,
    fun id hid => perm.mem_iff.1 (used id hid)⟩

end Order

/-! ## Groups that differ by their ids -/

theorem SoundGroups.apart {seen groups : List Value} (h : SoundGroups seen groups) :
    (groupIds groups).Pairwise (fun id id' => id.same id' = false) ∧
      ∀ id ∈ groupIds groups, id.isHashable = true ∧ isKnown id seen = false := by
  induction h with
  | nil => exact ⟨.nil, List.forall_mem_nil _⟩
  | @cons seen group id rest first _ ih =>
    obtain ⟨apart, others⟩ := ih
    have later : ∀ id' ∈ groupIds rest,
        id'.isHashable = true ∧ id'.same id = false ∧ isKnown id' seen = false := by
      intro id' h
      simpa [isKnown] using others id' h
    have ids : groupIds (group :: rest) = id :: groupIds rest := List.filterMap_cons_some first.held
    rw [ids]
    refine ⟨List.pairwise_cons.2 ⟨fun id' h => ?_, apart⟩,
      List.forall_mem_cons.2 ⟨⟨first.hashable, first.new⟩, fun id' h => ?_⟩⟩
    · rw [Value.same_comm first.hashable (later id' h).1]
      exact (later id' h).2.1
    · exact ⟨(later id' h).1, (later id' h).2.2⟩

/-- Groups that can be told apart by their ids. -/
structure Distinct (groups : List RuleGroup) : Prop where
  hashable : ∀ g ∈ groups, g.id.isHashable = true
  apart : groups.Pairwise fun g g' => g.id.same g'.id = false

theorem SoundGroups.distinct {entries : List Value} {groups : List RuleGroup}
    (h : SoundGroups [] entries) (made : entries.mapM groupOf = .ok groups) : Distinct groups := by
  obtain ⟨apart, keys⟩ := h.apart
  rw [groupIds_eq made] at apart keys
  exact ⟨fun g hg => (keys _ (List.mem_map_of_mem hg)).1, List.pairwise_map.1 apart⟩

namespace Distinct

variable {groups groups' : List RuleGroup} {v : Value} {g g' : RuleGroup}

/-- An id names at most one group. -/
theorem eq_of_same (h : Distinct groups) (hv : v.isHashable = true) (hg : g ∈ groups)
    (hg' : g' ∈ groups) (hs : v.same g.id = true) (hs' : v.same g'.id = true) : g = g' := by
  let Both (g g' : RuleGroup) : Prop := v.same g.id = true ∧ v.same g'.id = true
  have symm : Std.Symm fun g g' => ¬ Both g g' := ⟨fun _ _ one both => one both.symm⟩
  have one : groups.Pairwise fun g g' => ¬ Both g g' := by
    refine h.apart.imp_of_mem fun hg _ apart both => ?_
    exact absurd (Value.same_of_same hv (h.hashable _ hg) both.1 both.2) (Bool.eq_false_iff.1 apart)
  by_contra ne
  exact one.forall hg hg' ne ⟨hs, hs'⟩

/-- The group that an id names is the only one. -/
theorem existsUnique_named (h : Distinct groups) (hv : v.isHashable = true)
    (named : groupNamed groups v = .ok g) : ∃! g, g ∈ groups ∧ v.same g.id = true := by
  obtain ⟨hg, hs⟩ := groupNamed_eq_ok named
  exact ⟨g, ⟨hg, hs⟩, fun g' h' => h.eq_of_same hv h'.1 hg h'.2 hs⟩

/-- An id names the same group, in whatever order the groups are. -/
theorem groupNamed_perm (h : Distinct groups) (perm : groups.Perm groups') (hv : v.isHashable = true)
    (named : groupNamed groups v = .ok g) : groupNamed groups' v = .ok g := by
  obtain ⟨hg, hs⟩ := groupNamed_eq_ok named
  have known : isKnown v (groups'.map (·.id)) = true := by
    rw [isKnown, List.any_map, List.any_eq_true]
    exact ⟨g, perm.mem_iff.1 hg, hs⟩
  obtain ⟨g', named'⟩ := groupNamed_ok known
  obtain ⟨hg', hs'⟩ := groupNamed_eq_ok named'
  rw [named', h.eq_of_same hv (perm.mem_iff.2 hg') hg hs' hs]

end Distinct

/-! ## What a document is made into -/

theorem assemble_groups_perm (path : Path) (groups : List RuleGroup) (rules : List Rule) :
    (assemble path groups rules).groups.Perm groups := List.mergeSort_perm ..

theorem assemble_groups_pairwise (path : Path) (groups : List RuleGroup) (rules : List Rule) :
    (assemble path groups rules).groups.Pairwise fun g g' => g.number ≤ g'.number := by
  have sorted : (assemble path groups rules).groups.Pairwise fun g g' =>
      decide (g.number ≤ g'.number) = true :=
    List.pairwise_mergeSort (by simpa using fun a b c => Int.le_trans)
      (by simpa using fun a b => Int.le_total _ _) groups
  exact sorted.imp of_decide_eq_true

theorem checkOf_eq_ok_iff {id : String} {check : RuleCheck} :
    checkOf checks id = .ok check ↔ checks.lookup id = some check := by
  unfold checkOf
  split <;> simp [*]

/-- Entries without problems are made into these groups and rules. -/
structure Made (checks : Registry RuleCheck) (groupEntries ruleEntries : List Value)
    (groups : List RuleGroup) (rules : List Rule) : Prop where
  sound : problems groupEntries ruleEntries checks.ids = .ok []
  ofGroups : groupEntries.mapM groupOf = .ok groups
  ofRules : ruleEntries.mapM (ruleOf groups checks) = .ok rules

theorem made_iff_ofDocument :
    ofDocument path checks document = .ok catalog ↔
      ∃ groupEntries ruleEntries, entriesOf document = .ok (groupEntries, ruleEntries) ∧
        ∃ groups rules, Made checks groupEntries ruleEntries groups rules ∧
          catalog = assemble path groups rules := by
  rw [ofDocument_eq_ok_iff]
  constructor
  · rintro ⟨⟨groupEntries, ruleEntries⟩, entries, sound, groups, rules, ofGroups, ofRules, e⟩
    exact ⟨_, _, entries, groups, rules, ⟨sound, ofGroups, ofRules⟩, e⟩
  · rintro ⟨_, _, entries, groups, rules, made, e⟩
    exact ⟨_, entries, made.sound, groups, rules, made.ofGroups, made.ofRules, e⟩

/-- A rule that was made of an entry is the same after the groups are put in another order. -/
theorem OfEntry.perm {groups groups' : List RuleGroup} {entry : Value} {r : Rule}
    (h : OfEntry groups checks entry r) (distinct : Distinct groups) (perm : groups.Perm groups')
    (hashable : ∀ v, entry.get? "group" = some v → v.isHashable = true) :
    OfEntry groups' checks entry r := by
  obtain ⟨v, held, named⟩ := h.group
  exact { h with group := ⟨v, held, distinct.groupNamed_perm perm (hashable v held) named⟩ }

namespace Made

variable {groupEntries ruleEntries : List Value} {groups : List RuleGroup} {rules : List Rule}

theorem load (h : Made checks groupEntries ruleEntries groups rules)
    (entries : entriesOf document = .ok (groupEntries, ruleEntries)) (path : Path) :
    ofDocument path checks document = .ok (assemble path groups rules) :=
  made_iff_ofDocument.2 ⟨_, _, entries, _, _, h, rfl⟩

theorem distinct (h : Made checks groupEntries ruleEntries groups rules) : Distinct groups :=
  (problems_eq_nil_iff.1 h.sound).1.distinct h.ofGroups

theorem named (h : Made checks groupEntries ruleEntries groups rules) {entry : Value}
    (he : entry ∈ ruleEntries) :
    ∃ v, entry.get? "group" = some v ∧ v.isHashable = true ∧ ∃ g, groupNamed groups v = .ok g := by
  obtain ⟨-, _, soundRules, -⟩ := problems_eq_nil_iff.1 h.sound
  obtain ⟨_, _, sound⟩ := soundRules.exists_sound he
  obtain ⟨v, held, hashable, known⟩ := sound.group
  rw [groupIds_eq h.ofGroups] at known
  exact ⟨v, held, hashable, groupNamed_ok known⟩

theorem ids (h : Made checks groupEntries ruleEntries groups rules) :
    (rules.map (·.id)).Nodup ∧ ∀ id ∈ checks.ids, id ∈ rules.map (·.id) := by
  obtain ⟨-, ids, soundRules, used⟩ := problems_eq_nil_iff.1 h.sound
  rw [soundRules.ids_eq (mapM_eq_ok.1 h.ofRules)]
  exact ⟨soundRules.nodup.1, used⟩

/-- The rules are those of their entries, in whatever order the groups are. -/
theorem ofEntry (h : Made checks groupEntries ruleEntries groups rules) {groups' : List RuleGroup}
    (perm : groups.Perm groups') :
    List.Forall₂ (OfEntry groups' checks) ruleEntries rules := by
  have hashable : ∀ entry ∈ ruleEntries, ∀ v, entry.get? "group" = some v → v.isHashable = true := by
    intro entry he v hv
    obtain ⟨_, held, hashable, -⟩ := h.named he
    exact Option.some.inj (held.symm.trans hv) ▸ hashable
  have made := (List.forall₂_and_left _ _).2 ⟨hashable, mapM_eq_ok.1 h.ofRules⟩
  exact made.imp fun _ _ made => (ruleOf_eq_ok_iff.1 made.2).perm h.distinct perm made.1

/-- Entries in another order are made into the same groups and rules, in another order. -/
theorem perm (h : Made checks groupEntries ruleEntries groups rules)
    {groupEntries' ruleEntries' : List Value} (hg : groupEntries'.Perm groupEntries)
    (hr : ruleEntries'.Perm ruleEntries) :
    ∃ groups' rules', Made checks groupEntries' ruleEntries' groups' rules' ∧
      rules'.Perm rules := by
  obtain ⟨groups', madeGroups, groupsPerm⟩ := List.perm_comp_forall₂ hg (mapM_eq_ok.1 h.ofGroups)
  obtain ⟨rules', madeRules, rulesPerm⟩ := List.perm_comp_forall₂ hr (h.ofEntry groupsPerm.symm)
  refine ⟨groups', rules', ⟨problems_perm hg.symm hr.symm h.sound, mapM_eq_ok.2 madeGroups, ?_⟩,
    rulesPerm⟩
  exact mapM_eq_ok.2 (madeRules.imp fun _ _ => ruleOf_eq_ok_iff.2)

end Made

/-! ## Binding -/

/-- A catalog has a group for each group entry and a rule for each rule entry, which is bound to the
one group that the entry names and to the check of its id; each check is that of one rule. -/
structure Binds (checks : Registry RuleCheck) (groupEntries ruleEntries : List Value)
    (catalog : Catalog) : Prop where
  groups : ∃ made, made.Perm catalog.groups ∧
    List.Forall₂ (fun entry g => groupOf entry = .ok g) groupEntries made
  rules : ∃ made, made.Perm catalog.rules ∧
    List.Forall₂ (OfEntry catalog.groups checks) ruleEntries made
  numbers : catalog.groups.Pairwise fun g g' => g.number ≤ g'.number
  increasing : catalog.rules.Pairwise fun r r' => r.id < r'.id
  named : ∀ entry ∈ ruleEntries, ∃ v, entry.get? "group" = some v ∧
    ∃! g, g ∈ catalog.groups ∧ v.same g.id = true
  bound : ∀ r ∈ catalog.rules, checks.lookup r.id = some r.check
  used : ∀ id ∈ checks.ids, ∃! r, r ∈ catalog.rules ∧ r.id = id

theorem Made.binds {groupEntries ruleEntries : List Value} {groups : List RuleGroup}
    {rules : List Rule} (h : Made checks groupEntries ruleEntries groups rules) (path : Path) :
    Binds checks groupEntries ruleEntries (assemble path groups rules) := by
  have groupsPerm := assemble_groups_perm path groups rules
  have rulesPerm : (assemble path groups rules).rules.Perm rules := List.mergeSort_perm ..
  obtain ⟨nodup, used⟩ := h.ids
  have ofEntry := h.ofEntry groupsPerm.symm
  constructor
  case groups => exact ⟨groups, groupsPerm.symm, mapM_eq_ok.1 h.ofGroups⟩
  case rules => exact ⟨rules, rulesPerm.symm, ofEntry⟩
  case numbers => exact assemble_groups_pairwise path groups rules
  case increasing => exact Audit.inOrder_strict nodup
  case named =>
    intro entry he
    obtain ⟨v, held, hashable, g, named⟩ := h.named he
    refine ⟨v, held, ?_⟩
    simpa only [groupsPerm.mem_iff] using h.distinct.existsUnique_named hashable named
  case bound =>
    intro r hr
    obtain ⟨entry, -, made⟩ := exists_of_mem_mapM h.ofRules (rulesPerm.mem_iff.1 hr)
    exact checkOf_eq_ok_iff.1 (ruleOf_eq_ok_iff.1 made).check
  case used =>
    intro id hid
    obtain ⟨r, hr, rfl⟩ := List.mem_map.1 (used id hid)
    refine ⟨r, ⟨rulesPerm.mem_iff.2 hr, rfl⟩, fun r' h' => ?_⟩
    exact List.inj_on_of_nodup_map nodup (rulesPerm.mem_iff.1 h'.1) hr h'.2

/-- A loaded catalog binds its entries and checks one to one, and a document with the same entries in
another order makes a catalog with the same rules, on which each run does the same. -/
theorem load_binds (loaded : ofDocument path checks document = .ok catalog) :
    ∃ groupEntries ruleEntries, entriesOf document = .ok (groupEntries, ruleEntries) ∧
      Binds checks groupEntries ruleEntries catalog ∧
      ∀ document' groupEntries' ruleEntries',
        entriesOf document' = .ok (groupEntries', ruleEntries') →
        groupEntries'.Perm groupEntries → ruleEntries'.Perm ruleEntries →
        ∃ catalog', ofDocument path checks document' = .ok catalog' ∧
          catalog'.rules = catalog.rules ∧
          ∀ settings files c, Audit.findings catalog'.rules settings files c =
            Audit.findings catalog.rules settings files c := by
  obtain ⟨groupEntries, ruleEntries, entries, groups, rules, made, rfl⟩ := made_iff_ofDocument.1 loaded
  refine ⟨groupEntries, ruleEntries, entries, made.binds path, ?_⟩
  intro document' groupEntries' ruleEntries' entries' hg hr
  obtain ⟨groups', rules', made', rulesPerm⟩ := made.perm hg hr
  have same : (assemble path groups' rules').rules = (assemble path groups rules).rules :=
    Audit.inOrder_perm made.ids.1 rulesPerm
  exact ⟨_, made'.load entries' path, same, fun settings files c => by rw [same]⟩

/-- Two rules may stand in either order. -/
theorem load_binds_swapped :
    let check : RuleCheck := fun _ _ => return .verdict (.ok "fine")
    let checks : Registry RuleCheck := [("CHK-901", check), ("CHK-902", check)]
    let first := ruleEntry "CHK-901" (.text "error")
    let second := ruleEntry "CHK-902" (.text "warning")
    let document (rules : List Value) : Value :=
      .map [(.text "groups", .list [miscEntry]), (.text "rules", .list rules)]
    ∃ catalog catalog',
      ofDocument ⟨0, ["catalog.yaml"]⟩ checks (document [second, first]) = .ok catalog ∧
      ofDocument ⟨0, ["catalog.yaml"]⟩ checks (document [first, second]) = .ok catalog' ∧
      catalog'.rules = catalog.rules := by
  intro check checks first second document
  let group : RuleGroup := { id := .text "misc", number := 9, title := .text "Misc" }
  let rule (id : String) (level : RuleLevel) : Rule := { id, title := .text "Sample", group, level, check }
  have entriesOf_document (rules : List Value) :
      entriesOf (document rules) = .ok ([miscEntry], rules) := by with_unfolding_all rfl
  have made : Made checks [miscEntry] [second, first] [group]
      [rule "CHK-902" .warning, rule "CHK-901" .error] :=
    ⟨by with_unfolding_all rfl, by with_unfolding_all rfl, by with_unfolding_all rfl⟩
  have loaded := made.load (entriesOf_document [second, first]) ⟨0, ["catalog.yaml"]⟩
  obtain ⟨_, _, entries, -, reordered⟩ := load_binds loaded
  obtain ⟨rfl, rfl⟩ := Prod.mk.inj (Except.ok.inj ((entriesOf_document _).symm.trans entries))
  obtain ⟨catalog', loaded', same, -⟩ :=
    reordered _ _ _ (entriesOf_document [first, second]) (.refl _) (.swap ..)
  exact ⟨_, catalog', loaded, loaded', same⟩

end ModuleAudit.Catalog
