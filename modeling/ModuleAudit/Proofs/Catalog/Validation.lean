import ModuleAudit.Catalog.Validation
import ModuleAudit.Proofs.Condition.Grammar

/-!
# Catalogs without problems

`SoundGroups` and `SoundRules` say entry by entry what a catalog has to be like.

* `problems_eq_nil_iff`: the check of a catalog finds nothing exactly if all its entries are sound
  and no check is left over;
* `problems_ok`: the check gives an answer at all if the fields that it looks up can be keys and can
  be written (`LegibleGroup`, `LegibleRule`), and no two groups go without an id (`OneNameless`).
-/

namespace ModuleAudit.Catalog

open Condition (WellFormed Checkable)

/-! ## Sound entries -/

/-- A group without problems, after groups with the ids `seen`. -/
structure SoundGroup (seen : List Value) (group id : Value) : Prop where
  isMap : group.isMap = true
  held : group.get? "id" = some id
  number : group.has "number" = true
  title : group.has "title" = true
  hashable : id.isHashable = true
  new : isKnown id seen = false
  condition : ∀ c, group.get? "condition" = some c → WellFormed c

/-- Groups without problems, after groups with the ids `seen`. -/
inductive SoundGroups : (seen groups : List Value) → Prop
  | nil {seen} : SoundGroups seen []
  | cons {seen group id rest} (first : SoundGroup seen group id)
      (others : SoundGroups (id :: seen) rest) : SoundGroups seen (group :: rest)

/-- The id has the form that rule ids have: three digits after a fixed start. A line end may follow. -/
def HasRuleForm (id : String) : Prop :=
  ∃ a b c, [a, b, c].all Text.isDecimal = true ∧
    (id.toList = ['C', 'H', 'K', '-', a, b, c] ∨ id.toList = ['C', 'H', 'K', '-', a, b, c, '\n'])

/-- A rule without problems, after rules with the ids `seen`. -/
structure SoundRule (groups : List Value) (checked : List String) (seen : List Value) (rule : Value)
    (id : String) : Prop where
  isMap : rule.isMap = true
  held : rule.get? "id" = some (.text id)
  title : rule.has "title" = true
  form : HasRuleForm id
  new : isKnown (.text id) seen = false
  check : id ∈ checked
  group : ∃ g, rule.get? "group" = some g ∧ g.isHashable = true ∧ isKnown g groups = true
  level : ∃ l ∈ levels, rule.get? "level" = some (.text l)
  condition : ∀ c, rule.get? "condition" = some c → WellFormed c

/-- Rules without problems, after rules with the ids `seen`; `ids` are their ids. -/
inductive SoundRules (groups : List Value) (checked : List String) :
    (seen rules : List Value) → (ids : List String) → Prop
  | nil {seen} : SoundRules groups checked seen [] []
  | cons {seen rule id rest ids} (first : SoundRule groups checked seen rule id)
      (others : SoundRules groups checked (.text id :: seen) rest ids) :
      SoundRules groups checked seen (rule :: rest) (id :: ids)

theorem SoundGroups.exists_sound {seen groups : List Value} (h : SoundGroups seen groups)
    {group : Value} (hg : group ∈ groups) : ∃ seen id, SoundGroup seen group id := by
  induction h with
  | nil => exact nomatch hg
  | cons first _ ih =>
    rcases List.mem_cons.1 hg with rfl | hg
    · exact ⟨_, _, first⟩
    · exact ih hg

theorem SoundRules.exists_sound {groups : List Value} {checked : List String} {seen rules : List Value}
    {ids : List String} (h : SoundRules groups checked seen rules ids) {rule : Value}
    (hr : rule ∈ rules) : ∃ seen id, SoundRule groups checked seen rule id := by
  induction h with
  | nil => exact nomatch hr
  | cons first _ ih =>
    rcases List.mem_cons.1 hr with rfl | hr
    · exact ⟨_, _, first⟩
    · exact ih hr

/-- The ids of sound rules are new, and differ from each other. -/
theorem SoundRules.nodup {groups : List Value} {checked : List String} {seen rules : List Value}
    {ids : List String} (h : SoundRules groups checked seen rules ids) :
    ids.Nodup ∧ ∀ id ∈ ids, isKnown (.text id) seen = false := by
  induction h with
  | nil => exact ⟨.nil, nofun⟩
  | @cons seen rule id rest ids first _ ih =>
    obtain ⟨distinct, fresh⟩ := ih
    have apart : ∀ id' ∈ ids, id' ≠ id ∧ isKnown (.text id') seen = false := by
      intro id' h
      simpa [isKnown, Value.same] using fresh id' h
    refine ⟨List.nodup_cons.2 ⟨fun h => (apart id h).1 rfl, distinct⟩,
      List.forall_mem_cons.2 ⟨first.new, fun id' h => (apart id' h).2⟩⟩

/-- Rules are sound in a row if each of them is, whatever new id it has, and their ids differ. -/
theorem soundRules_of_nodup {groups : List Value} {checked : List String} {entries : List Value}
    {ids : List String}
    (each : List.Forall₂ (fun entry id => ∀ seen, isKnown (.text id) seen = false →
      SoundRule groups checked seen entry id) entries ids)
    (distinct : ids.Nodup) {seen : List Value}
    (new : ∀ id ∈ ids, isKnown (.text id) seen = false) :
    SoundRules groups checked seen entries ids := by
  induction each generalizing seen with
  | nil => exact .nil
  | @cons entry id entries ids first _ ih =>
    obtain ⟨fresh, distinct⟩ := List.nodup_cons.1 distinct
    obtain ⟨newId, new⟩ := List.forall_mem_cons.1 new
    refine .cons (first seen newId) (ih distinct fun id' hid' => ?_)
    have apart : id' ≠ id := fun same => fresh (same ▸ hid')
    simpa [isKnown, Value.same, apart] using new id' hid'

/-! ## What the check finds in an entry -/

theorem isRuleId_iff {id : String} : isRuleId id = true ↔ HasRuleForm id := by
  unfold isRuleId
  split
  · rename_i a b c rest e
    rw [HasRuleForm, e, Bool.and_eq_true, Bool.or_eq_true, List.isEmpty_iff, beq_iff_eq]
    constructor
    · rintro ⟨digits, rfl | rfl⟩
      · exact ⟨a, b, c, digits, .inl rfl⟩
      · exact ⟨a, b, c, digits, .inr rfl⟩
    · rintro ⟨_, _, _, digits, h | h⟩
      · cases h
        exact ⟨digits, .inl rfl⟩
      · cases h
        exact ⟨digits, .inr rfl⟩
  · rename_i other
    refine ⟨nofun, ?_⟩
    rintro ⟨a, b, c, -, h | h⟩
    · exact absurd h (other a b c [])
    · exact absurd h (other a b c ['\n'])

theorem missingKeys_eq_nil_iff {keys : List String} {entry : Value} :
    missingKeys keys entry = [] ↔ ∀ key ∈ keys, entry.has key = true := by
  have lacks : lacking keys entry = [] ↔ ∀ key ∈ keys, entry.has key = true := by
    simp [lacking, List.filter_eq_nil_iff]
  rw [← lacks, missingKeys]
  split
  · rename_i none
    simp [none]
  · rename_i some
    exact ⟨nofun, fun none => absurd none some⟩

theorem conditionCauses_eq_nil_iff {entry : Value} :
    conditionCauses entry = .ok [] ↔ ∀ c, entry.get? "condition" = some c → WellFormed c := by
  unfold conditionCauses
  cases entry.get? "condition" with
  | none => exact ⟨fun _ => nofun, fun _ => rfl⟩
  | some condition =>
    simp only [Option.some.injEq, forall_eq']
    rw [← Condition.check_eq_nil_iff, bind_eq_ok]
    constructor
    · rintro ⟨ps, h, e⟩
      rwa [List.map_eq_nil_iff.1 (Except.ok.inj e)] at h
    · exact fun h => ⟨[], h, rfl⟩

theorem keyed_eq_ok_iff {v w : Value} : keyed v = .ok w ↔ v.isHashable = true ∧ w = v := by
  unfold keyed
  split
  · rename_i hashable
    exact ⟨fun h => ⟨hashable, (Except.ok.inj h).symm⟩, fun h => congrArg _ h.2.symm⟩
  · rename_i unhashable
    exact ⟨nofun, fun h => absurd h.1 unhashable⟩

theorem duplicateCauses_eq_nil_iff {seen : List Value} {group id : Value} :
    duplicateCauses seen group id = .ok [] ↔ isKnown id seen = false := by
  unfold duplicateCauses
  cases isKnown id seen <;> cases group.has "id" <;> simp

theorem groupCauses_eq_nil_iff {seen : List Value} {group : Value} (isMap : group.isMap = true) :
    groupCauses seen group = .ok [] ↔ ∃ id, SoundGroup seen group id := by
  constructor
  · intro h
    obtain ⟨id, hid, h⟩ := bind_eq_ok.1 h
    obtain ⟨duplicate, hd, h⟩ := bind_eq_ok.1 h
    obtain ⟨ofCondition, hc, h⟩ := bind_eq_ok.1 h
    have h := Except.ok.inj h
    simp only [List.append_eq_nil_iff, missingKeys_eq_nil_iff, List.forall_mem_cons] at h
    obtain ⟨⟨⟨hasId, number, title, -⟩, rfl⟩, rfl⟩ := h
    obtain ⟨held, e⟩ := Condition.has_iff.1 hasId
    obtain ⟨hashable, rfl⟩ := keyed_eq_ok_iff.1 hid
    rw [e] at hashable hd
    exact ⟨held, isMap, e, number, title, hashable, duplicateCauses_eq_nil_iff.1 hd,
      conditionCauses_eq_nil_iff.1 hc⟩
  · rintro ⟨id, h⟩
    have present : missingKeys ["id", "number", "title"] group = [] :=
      missingKeys_eq_nil_iff.2 (by simp [Condition.has_iff.2 ⟨id, h.held⟩, h.number, h.title])
    have known : keyed ((group.get? "id").getD .null) = .ok id :=
      keyed_eq_ok_iff.2 (by simp [h.held, h.hashable])
    rw [groupCauses, known, ok_bind, duplicateCauses_eq_nil_iff.2 h.new, ok_bind,
      conditionCauses_eq_nil_iff.2 h.condition, present]
    rfl

theorem entryProblems_eq_nil_iff {list : Section} {index : Nat} {entry : Value}
    {causes : List EntryCause} : entryProblems list index entry causes = .ok [] ↔ causes = [] := by
  cases causes with
  | nil => exact ⟨fun _ => rfl, fun _ => rfl⟩
  | cons cause causes =>
    refine ⟨fun h => ?_, nofun⟩
    obtain ⟨id, -, h⟩ := bind_eq_ok.1 h
    exact nomatch Except.ok.inj h

section GroupProblems

variable {group : Value} {rest seen : List Value} {index : Nat} {found : List Problem}

/-- What is told of a first group that is a map, and of the groups after it. -/
theorem groupProblems_cons_map (isMap : group.isMap = true) :
    groupProblems index seen (group :: rest) = .ok found ↔
      ∃ causes, groupCauses seen group = .ok causes ∧
      ∃ problems, entryProblems .groups index group causes = .ok problems ∧
      ∃ more, groupProblems (index + 1) ((group.get? "id").getD .null :: seen) rest = .ok more ∧
        problems ++ more = found := by
  rw [groupProblems, if_pos isMap]
  simp only [bind_eq_ok, pure, Except.pure, Except.ok.injEq]

/-- What is told of a first group that is no map, and of the groups after it. -/
theorem groupProblems_cons_noMap (noMap : group.isMap = false) :
    groupProblems index seen (group :: rest) = .ok found ↔
      ∃ more, groupProblems (index + 1) seen rest = .ok more ∧
        .entry .groups index "?" (.notMap group.kindName) :: more = found := by
  rw [groupProblems, if_neg (Bool.eq_false_iff.1 noMap)]
  simp only [bind_eq_ok, pure, Except.pure, Except.ok.injEq]

end GroupProblems

theorem groupProblems_eq_nil_iff {groups : List Value} {index : Nat} {seen : List Value} :
    groupProblems index seen groups = .ok [] ↔ SoundGroups seen groups := by
  induction groups generalizing index seen with
  | nil => exact ⟨fun _ => .nil, fun _ => rfl⟩
  | cons group rest ih =>
    cases isMap : group.isMap with
    | false =>
      rw [groupProblems_cons_noMap isMap]
      constructor
      · rintro ⟨more, -, h⟩
        exact nomatch h
      · rintro (_ | ⟨first, -⟩)
        exact absurd first.isMap (by simp [isMap])
    | true =>
      rw [groupProblems_cons_map isMap]
      constructor
      · rintro ⟨causes, hc, problems, hp, more, hm, none⟩
        obtain ⟨rfl, rfl⟩ := List.append_eq_nil_iff.1 none
        obtain rfl := entryProblems_eq_nil_iff.1 hp
        obtain ⟨id, first⟩ := (groupCauses_eq_nil_iff isMap).1 hc
        rw [first.held] at hm
        exact .cons first (ih.1 hm)
      · rintro (_ | @⟨_, _, id, _, first, others⟩)
        refine ⟨[], (groupCauses_eq_nil_iff isMap).2 ⟨id, first⟩, [], entryProblems_eq_nil_iff.2 rfl, [],
          ?_, rfl⟩
        rw [first.held, Option.getD_some, ih.2 others]

theorem mem_groupIds_cons {entry k : Value} {entries : List Value} :
    k ∈ groupIds (entry :: entries) ↔ entry.get? "id" = some k ∨ k ∈ groupIds entries := by
  simp [groupIds]

theorem get?_of_noMap {v : Value} (h : v.isMap = false) (key : String) : v.get? key = none := by
  cases v <;> simp_all [Value.isMap, Value.get?]

/-- Groups that have been checked have ids that can be keys, whatever else is wrong with them. -/
theorem hashable_of_groupProblems {groups seen : List Value} {index : Nat} {found : List Problem}
    (h : groupProblems index seen groups = .ok found) : ∀ k ∈ groupIds groups, k.isHashable = true := by
  induction groups generalizing index seen found with
  | nil => exact List.forall_mem_nil _
  | cons group rest ih =>
    intro k hk
    rw [mem_groupIds_cons] at hk
    cases isMap : group.isMap with
    | false =>
      obtain ⟨more, hm, -⟩ := (groupProblems_cons_noMap isMap).1 h
      rw [get?_of_noMap isMap] at hk
      exact ih hm k (hk.resolve_left (Option.some_ne_none k).symm)
    | true =>
      obtain ⟨causes, hc, -, -, more, hm, -⟩ := (groupProblems_cons_map isMap).1 h
      rcases hk with held | hk
      · obtain ⟨_, hkey, -⟩ := bind_eq_ok.1 hc
        rw [held] at hkey
        exact (keyed_eq_ok_iff.1 hkey).1
      · exact ih hm k hk

/-! ### Rules -/

theorem idCauses_eq_nil_iff {checked : List String} {seen : List Value} {id : Value} :
    idCauses checked seen id = [] ↔
      ∃ s, id = .text s ∧ HasRuleForm s ∧ isKnown (.text s) seen = false ∧ s ∈ checked := by
  unfold idCauses
  split
  · rename_i s
    simp only [Value.text.injEq, exists_eq_left', ← List.contains_iff_mem, ← isRuleId_iff]
    cases isRuleId s <;> cases isKnown (.text s) seen <;> cases checked.contains s <;> simp
  · rename_i noText
    exact ⟨nofun, fun ⟨s, h, _⟩ => absurd h (noText s)⟩

theorem sought_eq_ok_iff {v w : Value} : sought v = .ok w ↔ v.isSearchable = true ∧ w = v := by
  unfold sought
  split
  · rename_i searchable
    exact ⟨fun h => ⟨searchable, (Except.ok.inj h).symm⟩, fun h => congrArg _ h.2.symm⟩
  · rename_i unsearchable
    exact ⟨nofun, fun h => absurd h.1 unsearchable⟩

/-- What is the same as a key can be a key itself, if it can be looked for. -/
theorem hashable_of_isKnown {v : Value} {keys : List Value} (searchable : v.isSearchable = true)
    (hashable : ∀ k ∈ keys, k.isHashable = true) (known : isKnown v keys = true) :
    v.isHashable = true := by
  obtain ⟨k, hk, same⟩ := List.any_eq_true.1 known
  have := hashable k hk
  cases v with
  | set items => cases k <;> simp_all [Value.same, Value.isHashable]
  | _ => exact searchable

/-- Nothing is wrong with a value that is the same as one of some keys. -/
theorem unknownCauses_eq_nil_iff {known : List Value} {cause : String → EntryCause} {v : Value}
    (hashable : ∀ k ∈ known, k.isHashable = true) :
    unknownCauses known cause v = .ok [] ↔ v.isHashable = true ∧ isKnown v known = true := by
  constructor
  · intro h
    obtain ⟨_, hv, h⟩ := bind_eq_ok.1 h
    obtain ⟨searchable, rfl⟩ := sought_eq_ok_iff.1 hv
    split at h
    · rename_i found
      exact ⟨hashable_of_isKnown searchable hashable found, found⟩
    · obtain ⟨written, -, h⟩ := bind_eq_ok.1 h
      exact nomatch Except.ok.inj h
  · rintro ⟨key, found⟩
    rw [unknownCauses, sought_eq_ok_iff.2 ⟨Value.isSearchable_of_isHashable key, rfl⟩, ok_bind,
      if_pos found]
    rfl

theorem fieldCauses_of_held {rule v : Value} {key : String} (held : rule.get? key = some v)
    (causes : Value → Except Fault (List EntryCause)) : fieldCauses rule key causes = causes v := by
  simp only [fieldCauses, held]

theorem isKnown_levels {v : Value} :
    isKnown v (levels.map .text) = true ↔ ∃ l ∈ levels, v = .text l := by
  simp [isKnown, Value.same_text_iff]

theorem levels_hashable : ∀ k ∈ levels.map Value.text, k.isHashable = true := by
  simp [levels, Value.isHashable]

theorem ruleCauses_eq_nil_iff {groups : List Value} {checked : List String} {seen : List Value}
    {rule : Value} (keys : ∀ k ∈ groups, k.isHashable = true) (isMap : rule.isMap = true) :
    ruleCauses groups checked seen rule = .ok [] ↔ ∃ id, SoundRule groups checked seen rule id := by
  constructor
  · intro h
    obtain ⟨ofId, hid, h⟩ := bind_eq_ok.1 h
    obtain ⟨ofGroup, hg, h⟩ := bind_eq_ok.1 h
    obtain ⟨ofLevel, hl, h⟩ := bind_eq_ok.1 h
    obtain ⟨ofCondition, hc, h⟩ := bind_eq_ok.1 h
    have h := Except.ok.inj h
    simp only [List.append_eq_nil_iff, missingKeys_eq_nil_iff, List.forall_mem_cons,
      Condition.has_iff] at h
    obtain ⟨⟨⟨⟨⟨⟨g, heldGroup⟩, ⟨id, heldId⟩, ⟨l, heldLevel⟩, title, -⟩, rfl⟩, rfl⟩, rfl⟩, rfl⟩ := h
    rw [fieldCauses_of_held heldId] at hid
    obtain ⟨_, hkey, none⟩ := bind_eq_ok.1 hid
    obtain ⟨-, rfl⟩ := keyed_eq_ok_iff.1 hkey
    obtain ⟨s, rfl, form, new, check⟩ := idCauses_eq_nil_iff.1 (Except.ok.inj none)
    rw [fieldCauses_of_held heldGroup, unknownCauses_eq_nil_iff keys] at hg
    rw [fieldCauses_of_held heldLevel, unknownCauses_eq_nil_iff levels_hashable] at hl
    obtain ⟨word, known, rfl⟩ := isKnown_levels.1 hl.2
    exact ⟨s, isMap, heldId, Condition.has_iff.2 title, form, new, check, ⟨g, heldGroup, hg⟩,
      ⟨word, known, heldLevel⟩, conditionCauses_eq_nil_iff.1 hc⟩
  · rintro ⟨id, h⟩
    obtain ⟨g, heldGroup, known⟩ := h.group
    obtain ⟨l, hl, heldLevel⟩ := h.level
    have text (s : String) : (Value.text s).isHashable = true := by simp [Value.isHashable]
    have present : missingKeys ["group", "id", "level", "title"] rule = [] := by
      rw [missingKeys_eq_nil_iff]
      simp [Condition.has_iff.2 ⟨_, h.held⟩, Condition.has_iff.2 ⟨_, heldGroup⟩,
        Condition.has_iff.2 ⟨_, heldLevel⟩, h.title]
    have ofId : idCauses checked seen (.text id) = [] :=
      idCauses_eq_nil_iff.2 ⟨id, rfl, h.form, h.new, h.check⟩
    have level : isKnown (.text l) (levels.map .text) = true := isKnown_levels.2 ⟨l, hl, rfl⟩
    rw [ruleCauses, fieldCauses_of_held h.held, keyed_eq_ok_iff.2 ⟨text id, rfl⟩, ok_bind, ofId,
      pure_bind, fieldCauses_of_held heldGroup, (unknownCauses_eq_nil_iff keys).2 known, ok_bind,
      fieldCauses_of_held heldLevel, (unknownCauses_eq_nil_iff levels_hashable).2 ⟨text l, level⟩, ok_bind,
      conditionCauses_eq_nil_iff.2 h.condition, ok_bind, present]
    rfl

theorem shownId_text {entry : Value} {id : String} (held : entry.get? "id" = some (.text id)) :
    shownId entry = .ok id := by
  rw [shownId, held, Option.getD_some, Value.plain?, if_pos (by simp [Value.isShowable])]
  rfl

section RuleProblems

variable {groups rest seen kept : List Value} {checked : List String} {rule : Value} {index : Nat}
  {found : List Problem}

/-- What is told of a first rule that is a map, and of the rules after it. -/
theorem ruleProblems_cons_map (isMap : rule.isMap = true) :
    ruleProblems groups checked index seen (rule :: rest) = .ok (found, kept) ↔
      ∃ id, shownId rule = .ok id ∧
      ∃ causes, ruleCauses groups checked seen rule = .ok causes ∧
      ∃ more, ruleProblems groups checked (index + 1) ((rule.get? "id").toList ++ seen) rest =
          .ok (more, kept) ∧
        causes.map (.entry .rules index id) ++ more = found := by
  rw [ruleProblems, if_pos isMap]
  simp [bind_eq_ok, pure, Except.pure]

/-- What is told of a first rule that is no map, and of the rules after it. -/
theorem ruleProblems_cons_noMap (noMap : rule.isMap = false) :
    ruleProblems groups checked index seen (rule :: rest) = .ok (found, kept) ↔
      ∃ more, ruleProblems groups checked (index + 1) seen rest = .ok (more, kept) ∧
        .entry .rules index "?" (.notMap rule.kindName) :: more = found := by
  rw [ruleProblems, if_neg (Bool.eq_false_iff.1 noMap)]
  simp [bind_eq_ok, pure, Except.pure]

end RuleProblems

/-- The ids of the rules are kept in reverse order. -/
theorem ruleProblems_eq_nil_iff {groups rules : List Value} {checked : List String} {index : Nat}
    {seen seen' : List Value} (keys : ∀ k ∈ groups, k.isHashable = true) :
    ruleProblems groups checked index seen rules = .ok ([], seen') ↔
      ∃ ids, SoundRules groups checked seen rules ids ∧ seen' = ids.reverse.map .text ++ seen := by
  induction rules generalizing index seen seen' with
  | nil =>
    constructor
    · intro h
      exact ⟨[], .nil, (Prod.mk.inj (Except.ok.inj h)).2.symm⟩
    · rintro ⟨_, ⟨⟩, rfl⟩
      rfl
  | cons rule rest ih =>
    cases isMap : rule.isMap with
    | false =>
      rw [ruleProblems_cons_noMap isMap]
      constructor
      · rintro ⟨more, -, h⟩
        exact nomatch h
      · rintro ⟨_, _ | ⟨first, -⟩, -⟩
        exact absurd first.isMap (by simp [isMap])
    | true =>
      rw [ruleProblems_cons_map isMap]
      constructor
      · rintro ⟨written, -, causes, hc, more, hp, none⟩
        obtain ⟨hcauses, rfl⟩ := List.append_eq_nil_iff.1 none
        obtain rfl := List.map_eq_nil_iff.1 hcauses
        obtain ⟨id, first⟩ := (ruleCauses_eq_nil_iff keys isMap).1 hc
        rw [first.held] at hp
        obtain ⟨ids, others, rfl⟩ := ih.1 hp
        exact ⟨id :: ids, .cons first others, by simp⟩
      · rintro ⟨_, _ | @⟨_, _, id, _, ids, first, others⟩, rfl⟩
        have more : ruleProblems groups checked (index + 1) (.text id :: seen) rest =
            .ok ([], ids.reverse.map .text ++ .text id :: seen) := ih.2 ⟨ids, others, rfl⟩
        refine ⟨id, shownId_text first.held, [], (ruleCauses_eq_nil_iff keys isMap).2 ⟨id, first⟩, [], ?_,
          rfl⟩
        rw [first.held, Option.toList_some, List.singleton_append, more]
        simp

/-! ### Catalogs -/

theorem isKnown_text {id : String} {ids : List String} :
    isKnown (.text id) (ids.map .text) = true ↔ id ∈ ids := by
  simp [isKnown, Value.same]

theorem unusedChecks_eq_nil_iff {checked ids : List String} :
    unusedChecks checked (ids.map .text) = [] ↔ ∀ id ∈ checked, id ∈ ids := by
  rw [unusedChecks, List.map_eq_nil_iff, ← List.length_eq_zero_iff, List.length_mergeSort,
    List.length_eq_zero_iff, List.filter_eq_nil_iff]
  simp [isKnown_text]

/-- Nothing is wrong with a catalog exactly if its entries are sound and each check has a rule. -/
theorem problems_eq_nil_iff {groups rules : List Value} {checked : List String} :
    problems groups rules checked = .ok [] ↔
      SoundGroups [] groups ∧
        ∃ ids, SoundRules (groupIds groups) checked [] rules ids ∧ ∀ id ∈ checked, id ∈ ids := by
  constructor
  · intro h
    obtain ⟨ofGroups, hg, h⟩ := bind_eq_ok.1 h
    obtain ⟨⟨ofRules, seen⟩, hr, h⟩ := bind_eq_ok.1 h
    have h := Except.ok.inj h
    simp only [List.append_eq_nil_iff] at h
    obtain ⟨⟨rfl, rfl⟩, unused⟩ := h
    obtain ⟨ids, rules, rfl⟩ := (ruleProblems_eq_nil_iff (hashable_of_groupProblems hg)).1 hr
    rw [List.append_nil, unusedChecks_eq_nil_iff] at unused
    exact ⟨groupProblems_eq_nil_iff.1 hg, ids, rules, by simpa using unused⟩
  · rintro ⟨sound, ids, rules, used⟩
    have unused : unusedChecks checked (ids.reverse.map .text ++ []) = [] := by
      rw [List.append_nil, unusedChecks_eq_nil_iff]
      simpa using used
    have hg : groupProblems 0 [] groups = .ok [] := groupProblems_eq_nil_iff.2 sound
    rw [problems, hg, ok_bind,
      (ruleProblems_eq_nil_iff (hashable_of_groupProblems hg)).2 ⟨ids, rules, rfl⟩, ok_bind]
    dsimp only
    rw [unused]
    rfl

/-! ## Catalogs on which the check reports -/

/-- A group that can be checked: its id, if it has one, can be looked up and written. -/
structure LegibleGroup (group : Value) : Prop where
  id : ∀ id, group.get? "id" = some id → id.Legible
  condition : ∀ c, group.get? "condition" = some c → Checkable c

/-- After a group whose id is nothing, or left out, no group goes without an id. -/
def OneNameless (groups : List Value) : Prop :=
  groups.Pairwise fun g g' =>
    g.isMap = true → (g.get? "id").getD .null = .null → g'.isMap = true → g'.has "id" = true

/-- A rule that can be checked: its id can be a key, what it names can be looked up, and all of them
can be written. -/
structure LegibleRule (rule : Value) : Prop where
  id : ∀ id, rule.get? "id" = some id → id.Legible
  names : ∀ key ∈ ["group", "level"], ∀ v, rule.get? key = some v → v.Nameable
  condition : ∀ c, rule.get? "condition" = some c → Checkable c

theorem conditionCauses_ok {entry : Value}
    (h : ∀ c, entry.get? "condition" = some c → Checkable c) :
    ∃ causes, conditionCauses entry = .ok causes := by
  unfold conditionCauses
  split
  · rename_i condition held
    obtain ⟨ps, hps⟩ := Condition.check_ok_iff.2 (h condition held)
    exact ⟨ps.map .condition, by rw [Condition.validate, hps]; rfl⟩
  · exact ⟨[], rfl⟩

theorem shownId_ok {entry : Value} (h : ∀ id, entry.get? "id" = some id → id.Legible) :
    ∃ s, shownId entry = .ok s := by
  rw [shownId, Value.plain?_ok_iff]
  cases held : entry.get? "id" with
  | none => simp [Value.isShowable]
  | some id => exact (h id held).showable

theorem entryProblems_ok {entry : Value} (list : Section) (index : Nat) (causes : List EntryCause)
    (h : ∀ id, entry.get? "id" = some id → id.Legible) :
    ∃ ps, entryProblems list index entry causes = .ok ps := by
  cases causes with
  | nil => exact ⟨[], rfl⟩
  | cons cause causes =>
    obtain ⟨id, hid⟩ := shownId_ok h
    exact ⟨_, by rw [entryProblems, hid]; rfl; exact nofun⟩

theorem isKnown_null_cons {v : Value} {seen : List Value} :
    isKnown .null (v :: seen) = true ↔ v = .null ∨ isKnown .null seen = true := by
  rw [isKnown, List.any_cons, Bool.or_eq_true]
  exact or_congr (by cases v <;> simp [Value.same]) Iff.rfl

theorem groupCauses_ok {group : Value} (h : LegibleGroup group) {seen : List Value}
    (named : isKnown .null seen = true → group.has "id" = true) :
    ∃ causes, groupCauses seen group = .ok causes := by
  obtain ⟨ofCondition, hc⟩ := conditionCauses_ok h.condition
  have hashable : ((group.get? "id").getD .null).isHashable = true := by
    cases held : group.get? "id" with
    | none => simp [Value.isHashable]
    | some id => exact (h.id id held).hashable
  obtain ⟨duplicate, hd⟩ :
      ∃ causes, duplicateCauses seen group ((group.get? "id").getD .null) = .ok causes := by
    unfold duplicateCauses
    split
    · exact ⟨_, rfl⟩
    · rename_i known
      split
      · exact ⟨_, rfl⟩
      · rename_i nameless
        -- A group without an id is looked up under nothing.
        have none : group.get? "id" = none := by simpa [Value.has] using nameless
        rw [none, Option.getD_none, Bool.not_eq_true', Bool.not_eq_false] at known
        exact absurd (named known) nameless
  rw [groupCauses, keyed_eq_ok_iff.2 ⟨hashable, rfl⟩, ok_bind, hd, ok_bind, hc]
  exact ⟨_, rfl⟩

theorem groupProblems_ok {groups : List Value}
    (h : ∀ g ∈ groups, g.isMap = true → LegibleGroup g) (named : OneNameless groups) (index : Nat)
    (seen : List Value)
    (after : isKnown .null seen = true → ∀ g ∈ groups, g.isMap = true → g.has "id" = true) :
    ∃ ps, groupProblems index seen groups = .ok ps := by
  induction groups generalizing index seen with
  | nil => exact ⟨[], rfl⟩
  | cons group rest ih =>
    obtain ⟨first, others⟩ := List.forall_mem_cons.1 h
    obtain ⟨here, named⟩ := List.pairwise_cons.1 named
    rw [groupProblems]
    split
    · rename_i isMap
      have first := first isMap
      obtain ⟨causes, hc⟩ := groupCauses_ok first fun known =>
        after known group List.mem_cons_self isMap
      obtain ⟨ps, hps⟩ := entryProblems_ok .groups index causes first.id
      obtain ⟨more, hm⟩ := ih others named (index + 1) _ fun known g hg =>
        (isKnown_null_cons.1 known).elim (here g hg isMap) fun known =>
          after known g (List.mem_cons_of_mem _ hg)
      rw [hc, ok_bind, hps, ok_bind, hm]
      exact ⟨_, rfl⟩
    · obtain ⟨more, hm⟩ := ih others named (index + 1) _ fun known g hg =>
        after known g (List.mem_cons_of_mem _ hg)
      rw [hm]
      exact ⟨_, rfl⟩

theorem fieldCauses_ok {rule : Value} {key : String} {causes : Value → Except Fault (List EntryCause)}
    (each : ∀ v, rule.get? key = some v → ∃ found, causes v = .ok found) :
    ∃ found, fieldCauses rule key causes = .ok found := by
  unfold fieldCauses
  split
  · exact each _ ‹_›
  · exact ⟨[], rfl⟩

theorem unknownCauses_ok {known : List Value} {cause : String → EntryCause} {v : Value}
    (h : v.Nameable) : ∃ found, unknownCauses known cause v = .ok found := by
  obtain ⟨written, hw⟩ := Value.plain?_ok_iff.2 h.showable
  rw [unknownCauses, sought_eq_ok_iff.2 ⟨h.searchable, rfl⟩, ok_bind]
  split
  · exact ⟨[], rfl⟩
  · exact ⟨_, by rw [hw]; rfl⟩

theorem ruleCauses_ok {rule : Value} (h : LegibleRule rule) (groups : List Value)
    (checked : List String) (seen : List Value) :
    ∃ causes, ruleCauses groups checked seen rule = .ok causes := by
  obtain ⟨ofId, hid⟩ : ∃ found,
      fieldCauses rule "id" (fun id => return idCauses checked seen (← keyed id)) = .ok found :=
    fieldCauses_ok fun v held => ⟨_, by rw [keyed_eq_ok_iff.2 ⟨(h.id v held).hashable, rfl⟩]; rfl⟩
  have named {key : String} (hk : key ∈ ["group", "level"]) (known : List Value)
      (cause : String → EntryCause) :
      ∃ found, fieldCauses rule key (unknownCauses known cause) = .ok found :=
    fieldCauses_ok fun v held => unknownCauses_ok (h.names key hk v held)
  obtain ⟨ofGroup, hg⟩ := named List.mem_cons_self groups .unknownGroup
  obtain ⟨ofLevel, hl⟩ :=
    named (List.mem_cons_of_mem _ List.mem_cons_self) (levels.map .text) .unknownLevel
  obtain ⟨ofCondition, hc⟩ := conditionCauses_ok h.condition
  rw [ruleCauses, hid, ok_bind, hg, ok_bind, hl, ok_bind, hc]
  exact ⟨_, rfl⟩

theorem ruleProblems_ok {rules : List Value} (h : ∀ r ∈ rules, r.isMap = true → LegibleRule r)
    (groups : List Value) (checked : List String) (index : Nat) (seen : List Value) :
    ∃ found, ruleProblems groups checked index seen rules = .ok found := by
  induction rules generalizing index seen with
  | nil => exact ⟨_, rfl⟩
  | cons rule rest ih =>
    obtain ⟨first, others⟩ := List.forall_mem_cons.1 h
    rw [ruleProblems]
    split
    · rename_i isMap
      have first := first isMap
      obtain ⟨id, hid⟩ := shownId_ok first.id
      obtain ⟨causes, hc⟩ := ruleCauses_ok first groups checked seen
      obtain ⟨more, hm⟩ := ih others (index + 1) ((rule.get? "id").toList ++ seen)
      rw [hid, ok_bind, hc, ok_bind, hm]
      exact ⟨_, rfl⟩
    · obtain ⟨more, hm⟩ := ih others (index + 1) seen
      rw [hm]
      exact ⟨_, rfl⟩

/-- The check of a catalog reports if its entries can be checked. -/
theorem problems_ok {groups rules : List Value} (hg : ∀ g ∈ groups, g.isMap = true → LegibleGroup g)
    (named : OneNameless groups) (hr : ∀ r ∈ rules, r.isMap = true → LegibleRule r)
    (checked : List String) : ∃ ps, problems groups rules checked = .ok ps := by
  obtain ⟨ofGroups, hg⟩ := groupProblems_ok hg named 0 [] (by simp [isKnown])
  obtain ⟨⟨ofRules, seen⟩, hr⟩ := ruleProblems_ok hr (groupIds groups) checked 0 []
  rw [problems, hg, ok_bind, hr]
  exact ⟨_, rfl⟩

end ModuleAudit.Catalog
