import ModuleAudit.Proofs.Catalog.Running

/-!
# Which problems are told

The check of a catalog tells a problem of an entry exactly if the entry is not sound after the ones
before it, and names a check exactly if no rule has its id (`problems_exact`).

* `load_tells`: a document makes a catalog exactly if each of its entries is sound and each check has
  a rule; otherwise it is reported, with the entries that are not sound and the checks without a rule;
* `load_id_with_line_end`: a line end after the digits of an id is passed over, so that a rule with
  such an id is loaded;
* `load_level_too_long`: a level that cannot be written ends the loading with a fault of another kind.
-/

namespace ModuleAudit.Catalog

/-! ## Ids that were seen -/

theorem isKnown_congr {keys keys' : List Value} (h : ∀ k, k ∈ keys ↔ k ∈ keys') (v : Value) :
    isKnown v keys = isKnown v keys' := by
  rw [Bool.eq_iff_iff, isKnown, isKnown, List.any_eq_true, List.any_eq_true]
  simp only [h]

theorem isKnown_text_iff {id : String} {keys : List Value} :
    isKnown (.text id) keys = true ↔ .text id ∈ keys := by
  have same {k : Value} : (Value.text id).same k = true ↔ k = .text id := by
    cases k with
    | text s => simpa [Value.same] using eq_comm
    | _ => simp [Value.same]
  simp [isKnown, same]

theorem SoundGroup.congr {seen seen' : List Value} (h : ∀ k, k ∈ seen ↔ k ∈ seen') {group id : Value} :
    SoundGroup seen group id ↔ SoundGroup seen' group id := by
  have known := isKnown_congr h id
  exact ⟨fun s => { s with new := known ▸ s.new }, fun s => { s with new := known ▸ s.new }⟩

theorem SoundRule.congr {groups : List Value} {checked : List String} {seen seen' : List Value}
    (h : ∀ k, k ∈ seen ↔ k ∈ seen') {rule : Value} {id : String} :
    SoundRule groups checked seen rule id ↔ SoundRule groups checked seen' rule id := by
  have known := isKnown_congr h (.text id)
  exact ⟨fun s => { s with new := known ▸ s.new }, fun s => { s with new := known ▸ s.new }⟩

/-- The ids of the entries before an index. -/
def idsBefore (entries : List Value) (index : Nat) : List Value := groupIds (entries.take index)

/-! ## Entries that are told -/

/-- There is a problem of the entry at an index of a list. -/
def Tells (found : List Problem) (list : Section) (index : Nat) : Prop :=
  ∃ id cause, .entry list index id cause ∈ found

theorem tells_append {found found' : List Problem} {list : Section} {index : Nat} :
    Tells (found ++ found') list index ↔ Tells found list index ∨ Tells found' list index := by
  simp only [Tells, List.mem_append, exists_or]

theorem tells_map_iff {list list' : Section} {index index' : Nat} {id : String}
    {causes : List EntryCause} :
    Tells (causes.map (.entry list index id)) list' index' ↔
      list = list' ∧ index = index' ∧ causes ≠ [] := by
  cases causes with
  | nil => simp [Tells]
  | cons cause causes =>
    constructor
    · rintro ⟨_, _, h⟩
      obtain ⟨_, -, e⟩ := List.mem_map.1 h
      obtain ⟨rfl, rfl, -⟩ := Problem.entry.inj e
      exact ⟨rfl, rfl, nofun⟩
    · rintro ⟨rfl, rfl, -⟩
      exact ⟨id, cause, List.mem_cons_self⟩

theorem entryProblems_eq {list : Section} {index : Nat} {entry : Value} {causes : List EntryCause}
    {found : List Problem} (h : entryProblems list index entry causes = .ok found) :
    ∃ id, found = causes.map (.entry list index id) := by
  cases causes with
  | nil => exact ⟨"", (Except.ok.inj h).symm⟩
  | cons cause causes =>
    obtain ⟨id, -, h⟩ := bind_eq_ok.1 h
    exact ⟨id, (Except.ok.inj h).symm⟩

/-- The entry at an index is not sound after the entries before it and those with the ids `seen`. -/
def UnsoundAt (sound : (seen : List Value) → (entry : Value) → Prop) (seen entries : List Value)
    (index : Nat) : Prop :=
  ∃ entry, entries[index]? = some entry ∧ ¬ sound (idsBefore entries index ++ seen) entry

/-- The problems of entries from the index `start` on: all of them are about these entries, and just
those that are not sound are told. -/
structure Covers (sound : (seen : List Value) → (entry : Value) → Prop) (list : Section) (start : Nat)
    (seen entries : List Value) (found : List Problem) : Prop where
  about : ∀ p ∈ found, ∃ index id cause, p = .entry list (start + index) id cause
  tells : ∀ index, Tells found list (start + index) ↔ UnsoundAt sound seen entries index

theorem Covers.nil (sound : List Value → Value → Prop) (list : Section) (start : Nat)
    (seen : List Value) : Covers sound list start seen [] [] :=
  ⟨nofun, by simp [Tells, UnsoundAt]⟩

theorem Covers.cons {sound : List Value → Value → Prop} {list : Section} {start : Nat}
    {seen seen' entries : List Value} {entry : Value} {found : List Problem}
    (causes : List EntryCause) (id : String)
    (congr : ∀ {seen seen' e}, (∀ k, k ∈ seen ↔ k ∈ seen') → (sound seen e ↔ sound seen' e))
    (here : causes = [] ↔ sound seen entry)
    (keeps : ∀ k, k ∈ seen' ↔ entry.get? "id" = some k ∨ k ∈ seen)
    (others : Covers sound list (start + 1) seen' entries found) :
    Covers sound list start seen (entry :: entries) (causes.map (.entry list start id) ++ found) := by
  constructor
  case about =>
    intro p hp
    rcases List.mem_append.1 hp with hp | hp
    · obtain ⟨cause, -, rfl⟩ := List.mem_map.1 hp
      exact ⟨0, id, cause, rfl⟩
    · obtain ⟨index, id, cause, rfl⟩ := others.about p hp
      exact ⟨index + 1, id, cause, by rw [Nat.add_right_comm, Nat.add_assoc]⟩
  case tells =>
    rintro (_ | index)
    -- The first entry: what is found later is about later indices.
    · have later : ¬ Tells found list start := by
        rintro ⟨id, cause, h⟩
        obtain ⟨index, _, _, e⟩ := others.about _ h
        have := (Problem.entry.inj e).2.1
        omega
      rw [Nat.add_zero, tells_append, tells_map_iff]
      simp [UnsoundAt, idsBefore, groupIds, later, here]
    -- A later entry: it stands at the index before among the others.
    · have e : start + (index + 1) = start + 1 + index := by omega
      rw [tells_append, tells_map_iff, e, others.tells]
      have apart : start ≠ start + 1 + index := by omega
      simp only [apart, false_and, and_false, false_or, UnsoundAt, List.getElem?_cons_succ]
      refine exists_congr fun e => and_congr_right fun _ => not_congr (congr fun k => ?_)
      rw [List.mem_append, List.mem_append, keeps, idsBefore, idsBefore, List.take_succ_cons,
        mem_groupIds_cons, or_left_comm, or_assoc]

section Covers

variable {sound : List Value → Value → Prop} {list : Section} {start : Nat}
  {seen entries : List Value} {found : List Problem}

/-- The first entries of a catalog follow no others. -/
theorem Covers.tells_iff (h : Covers sound list 0 [] entries found) (index : Nat) :
    Tells found list index ↔
      ∃ e, entries[index]? = some e ∧ ¬ sound (idsBefore entries index) e := by
  have tells := h.tells index
  rwa [Nat.zero_add, UnsoundAt, List.append_nil] at tells

theorem Covers.not_tells (h : Covers sound list start seen entries found) {list' : Section}
    (ne : list ≠ list') (index : Nat) : ¬ Tells found list' index := by
  rintro ⟨_, _, told⟩
  obtain ⟨_, _, _, e⟩ := h.about _ told
  exact ne (Problem.entry.inj e).1.symm

theorem Covers.unusedCheck_not_mem (h : Covers sound list start seen entries found) (id : String) :
    .unusedCheck id ∉ found := fun told => by
  obtain ⟨_, _, _, e⟩ := h.about _ told
  exact Problem.noConfusion e

end Covers

theorem not_soundGroup {seen : List Value} {group : Value} (h : group.isMap = false) :
    ¬ ∃ id, SoundGroup seen group id :=
  fun ⟨_, sound⟩ => nomatch h.symm.trans sound.isMap

theorem not_soundRule {groups seen : List Value} {checked : List String} {rule : Value}
    (h : rule.isMap = false) : ¬ ∃ id, SoundRule groups checked seen rule id :=
  fun ⟨_, sound⟩ => nomatch h.symm.trans sound.isMap

/-- The problems of groups are about the groups that are not sound. -/
theorem groupProblems_covers {groups seen : List Value} {start : Nat} {found : List Problem}
    (h : groupProblems start seen groups = .ok found)
    (named : ∀ g ∈ groups, g.isMap = true → g.has "id" = true) :
    Covers (fun seen g => ∃ id, SoundGroup seen g id) .groups start seen groups found := by
  induction groups generalizing start seen found with
  | nil =>
    obtain rfl := Except.ok.inj h
    exact .nil ..
  | cons group rest ih =>
    obtain ⟨hasId, named⟩ := List.forall_mem_cons.1 named
    have congr {seen seen' : List Value} {e : Value} (h : ∀ k, k ∈ seen ↔ k ∈ seen') :
        (∃ id, SoundGroup seen e id) ↔ ∃ id, SoundGroup seen' e id :=
      exists_congr fun _ => SoundGroup.congr h
    cases isMap : group.isMap with
    | false =>
      obtain ⟨more, hm, rfl⟩ := (groupProblems_cons_noMap isMap).1 h
      refine .cons [_] "?" congr ?_ ?_ (ih hm named)
      · exact iff_of_false (List.cons_ne_nil _ _) (not_soundGroup isMap)
      · simp [get?_of_noMap isMap]
    | true =>
      obtain ⟨causes, hc, problems, hp, more, hm, rfl⟩ := (groupProblems_cons_map isMap).1 h
      obtain ⟨id, rfl⟩ := entryProblems_eq hp
      refine .cons causes id congr ?_ ?_ (ih hm named)
      · rw [← groupCauses_eq_nil_iff isMap, hc, Except.ok.injEq]
      · obtain ⟨v, hv⟩ := Condition.has_iff.1 (hasId isMap)
        simp [hv, eq_comm]

/-- The problems of rules are about the rules that are not sound, and the ids of all rules are kept. -/
theorem ruleProblems_covers {groups rules seen seen' : List Value} {checked : List String} {start : Nat}
    {found : List Problem} (keys : ∀ k ∈ groups, k.isHashable = true)
    (h : ruleProblems groups checked start seen rules = .ok (found, seen')) :
    Covers (fun seen r => ∃ id, SoundRule groups checked seen r id) .rules start seen rules found ∧
      ∀ k, k ∈ seen' ↔ k ∈ groupIds rules ∨ k ∈ seen := by
  induction rules generalizing start seen found with
  | nil =>
    obtain ⟨rfl, rfl⟩ := Prod.mk.inj (Except.ok.inj h)
    exact ⟨.nil .., by simp [groupIds]⟩
  | cons rule rest ih =>
    have congr {seen seen' : List Value} {e : Value} (h : ∀ k, k ∈ seen ↔ k ∈ seen') :
        (∃ id, SoundRule groups checked seen e id) ↔ ∃ id, SoundRule groups checked seen' e id :=
      exists_congr fun _ => SoundRule.congr h
    cases isMap : rule.isMap with
    | false =>
      obtain ⟨more, hm, rfl⟩ := (ruleProblems_cons_noMap isMap).1 h
      obtain ⟨others, keeps⟩ := ih hm
      refine ⟨.cons [_] "?" congr ?_ ?_ others, fun k => ?_⟩
      · exact iff_of_false (List.cons_ne_nil _ _) (not_soundRule isMap)
      · simp [get?_of_noMap isMap]
      · rw [keeps, mem_groupIds_cons, get?_of_noMap isMap]
        simp
    | true =>
      obtain ⟨id, -, causes, hc, more, hm, rfl⟩ := (ruleProblems_cons_map isMap).1 h
      obtain ⟨others, keeps⟩ := ih hm
      have here (k : Value) : k ∈ (rule.get? "id").toList ++ seen ↔ rule.get? "id" = some k ∨ k ∈ seen := by
        simp
      refine ⟨.cons causes id congr ?_ here others, fun k => ?_⟩
      · rw [← ruleCauses_eq_nil_iff keys isMap, hc, Except.ok.injEq]
      · rw [keeps, here, mem_groupIds_cons, or_left_comm, or_assoc]

theorem not_tells_unusedChecks {checked : List String} {seen : List Value} {list : Section}
    {index : Nat} : ¬ Tells (unusedChecks checked seen) list index := by
  rintro ⟨id, cause, h⟩
  simp [unusedChecks] at h

/-- A check is told if no rule has its id. -/
theorem mem_unusedChecks_iff {checked : List String} {seen : List Value} {id : String} :
    .unusedCheck id ∈ unusedChecks checked seen ↔ id ∈ checked ∧ .text id ∉ seen := by
  simp [unusedChecks, ← isKnown_text_iff]

/-! ## All problems -/

/-- What the check of a catalog has found says which entries are not sound after the entries before
them, and which checks have no rule. -/
structure Exact (groups rules : List Value) (checked : List String) (found : List Problem) : Prop where
  ofGroups : ∀ index, Tells found .groups index ↔
    ∃ g, groups[index]? = some g ∧ ¬ ∃ id, SoundGroup (idsBefore groups index) g id
  ofRules : ∀ index, Tells found .rules index ↔
    ∃ r, rules[index]? = some r ∧ ¬ ∃ id, SoundRule (groupIds groups) checked (idsBefore rules index) r id
  ofChecks : ∀ id, .unusedCheck id ∈ found ↔ id ∈ checked ∧ ∀ r ∈ rules, r.get? "id" ≠ some (.text id)

theorem problems_exact {groups rules : List Value} {checked : List String} {found : List Problem}
    (h : problems groups rules checked = .ok found)
    (named : ∀ g ∈ groups, g.isMap = true → g.has "id" = true) : Exact groups rules checked found := by
  obtain ⟨inGroups, hg, h⟩ := bind_eq_ok.1 h
  obtain ⟨⟨inRules, seen⟩, hr, h⟩ := bind_eq_ok.1 h
  obtain rfl := Except.ok.inj h
  have inGroups := groupProblems_covers hg named
  obtain ⟨inRules, keeps⟩ := ruleProblems_covers (hashable_of_groupProblems hg) hr
  constructor
  case ofGroups =>
    intro index
    have apart : ¬ Tells _ .groups index := inRules.not_tells (by decide) index
    simp only [tells_append, inGroups.tells_iff, apart, not_tells_unusedChecks, or_false]
  case ofRules =>
    intro index
    have apart : ¬ Tells _ .rules index := inGroups.not_tells (by decide) index
    simp only [tells_append, inRules.tells_iff, apart, not_tells_unusedChecks, or_false, false_or]
  case ofChecks =>
    intro id
    simp only [List.mem_append, inGroups.unusedCheck_not_mem, inRules.unusedCheck_not_mem, false_or,
      mem_unusedChecks_iff, keeps, List.not_mem_nil, or_false, groupIds, List.mem_filterMap, not_exists,
      not_and, ne_eq]

/-- Nothing is found exactly if each entry is sound and each check has a rule. -/
theorem Exact.eq_nil_iff {groups rules : List Value} {checked : List String} {found : List Problem}
    (h : Exact groups rules checked found) :
    found = [] ↔
      (∀ index g, groups[index]? = some g → ∃ id, SoundGroup (idsBefore groups index) g id) ∧
      (∀ index r, rules[index]? = some r →
        ∃ id, SoundRule (groupIds groups) checked (idsBefore rules index) r id) ∧
      ∀ id ∈ checked, ∃ r ∈ rules, r.get? "id" = some (.text id) := by
  constructor
  · rintro rfl
    refine ⟨fun index g hg => ?_, fun index r hr => ?_, fun id hid => ?_⟩
    · by_contra unsound
      obtain ⟨_, _, told⟩ := (h.ofGroups index).2 ⟨g, hg, unsound⟩
      exact nomatch told
    · by_contra unsound
      obtain ⟨_, _, told⟩ := (h.ofRules index).2 ⟨r, hr, unsound⟩
      exact nomatch told
    · by_contra none
      exact nomatch (h.ofChecks id).2 ⟨hid, fun r hr e => none ⟨r, hr, e⟩⟩
  · rintro ⟨groups, rules, checks⟩
    refine List.eq_nil_iff_forall_not_mem.2 ?_
    rintro (⟨list, index, id, cause⟩ | id) hp
    · cases list with
      | groups =>
        obtain ⟨g, hg, unsound⟩ := (h.ofGroups index).1 ⟨id, cause, hp⟩
        exact unsound (groups index g hg)
      | rules =>
        obtain ⟨r, hr, unsound⟩ := (h.ofRules index).1 ⟨id, cause, hp⟩
        exact unsound (rules index r hr)
    · obtain ⟨hid, none⟩ := (h.ofChecks id).1 hp
      obtain ⟨r, hr, e⟩ := checks id hid
      exact none r hr e

/-! ## Loading -/

/-- Entries that can be checked; each group has an id and a number that can be read. -/
structure Regular (groups rules : List Value) : Prop where
  group : ∀ g ∈ groups, g.isMap = true → LegibleGroup g
  withId : ∀ g ∈ groups, g.isMap = true → g.has "id" = true
  rule : ∀ r ∈ rules, r.isMap = true → LegibleRule r
  number : ∀ g ∈ groups, ∀ v, g.get? "number" = some v → ∃ n, v.toInt = .ok n

theorem Regular.named {groups rules : List Value} (h : Regular groups rules) : OneNameless groups :=
  List.pairwise_of_forall_mem_list fun _ _ g' hg' _ _ isMap => h.withId g' hg' isMap

/-- A document makes a catalog exactly if each of its entries is sound after the ones before it and
each check has a rule. If it makes none it is reported, with a problem for just the entries that are
not sound and the checks that have no rule. -/
theorem load_tells {path : Path} {checks : Registry RuleCheck} {document : Value}
    {groups rules : List Value} (entries : entriesOf document = .ok (groups, rules))
    (regular : Regular groups rules) :
    ((∃ catalog, ofDocument path checks document = .ok catalog) ↔
      (∀ index g, groups[index]? = some g → ∃ id, SoundGroup (idsBefore groups index) g id) ∧
      (∀ index r, rules[index]? = some r →
        ∃ id, SoundRule (groupIds groups) checks.ids (idsBefore rules index) r id) ∧
      ∀ id ∈ checks.ids, ∃ r ∈ rules, r.get? "id" = some (.text id)) ∧
    ((¬ ∃ catalog, ofDocument path checks document = .ok catalog) →
      ∃ found, ofDocument path checks document =
          .error (faulty path (.problems (found.map (·.message)))) ∧
        Exact groups rules checks.ids found) := by
  obtain ⟨found, hf⟩ := problems_ok regular.group regular.named regular.rule checks.ids
  have exact := problems_exact hf regular.withId
  have loads : (∃ catalog, ofDocument path checks document = .ok catalog) ↔ found = [] := by
    constructor
    · rintro ⟨catalog, made⟩
      obtain ⟨lists, entries', none, -⟩ := ofDocument_eq_ok_iff.1 made
      obtain rfl := Except.ok.inj (entries.symm.trans entries')
      exact Except.ok.inj (hf.symm.trans none)
    · rintro rfl
      exact ofDocument_ok entries hf regular.number
  refine ⟨loads.trans exact.eq_nil_iff, fun refused => ⟨found, ?_, exact⟩⟩
  obtain ⟨problem, others, rfl⟩ := List.exists_cons_of_ne_nil (mt loads.2 refused)
  rw [ofDocument, entries]
  simp only [Except.mapError, ok_bind, hf]
  rfl

/-- A group without a title is told, as is a check without a rule. -/
theorem load_tells_untitled :
    let check : RuleCheck := fun _ _ => return .verdict (.ok "fine")
    let untitled : Value := .map [(.text "id", .text "misc"), (.text "number", .int 9)]
    ∃ found, ofDocument ⟨0, ["catalog.yaml"]⟩ [("CHK-901", check)]
        (.map [(.text "groups", .list [untitled]), (.text "rules", .list [])]) =
          .error (faulty ⟨0, ["catalog.yaml"]⟩ (.problems (found.map (·.message)))) ∧
      Tells found .groups 0 ∧ .unusedCheck "CHK-901" ∈ found := by
  intro check untitled
  let document : Value := .map [(.text "groups", .list [untitled]), (.text "rules", .list [])]
  have entries : entriesOf document = .ok ([untitled], []) := by with_unfolding_all rfl
  have id : untitled.get? "id" = some (.text "misc") := by with_unfolding_all rfl
  have number : untitled.get? "number" = some (.int 9) := by with_unfolding_all rfl
  have title : untitled.get? "title" = none := by with_unfolding_all rfl
  have condition : untitled.get? "condition" = none := by with_unfolding_all rfl
  have regular : Regular [untitled] [] := by
    refine ⟨?_, ?_, List.forall_mem_nil _, ?_⟩
    · rw [List.forall_mem_singleton]
      refine fun _ => ⟨fun v hv => ?_, by simp [condition]⟩
      obtain rfl := Option.some.inj (id.symm.trans hv)
      exact ⟨by simp [Value.isHashable], by simp [Value.isShowable]⟩
    · simp [Value.has, id]
    · rw [List.forall_mem_singleton]
      intro v hv
      obtain rfl := Option.some.inj (number.symm.trans hv)
      exact ⟨9, rfl⟩
  have unsound : ¬ ∃ id, SoundGroup (idsBefore [untitled] 0) untitled id := by
    rintro ⟨_, sound⟩
    obtain ⟨t, held⟩ := Condition.has_iff.1 sound.title
    exact absurd (held.symm.trans title) (Option.some_ne_none t)
  obtain ⟨loads, tells⟩ :=
    @load_tells ⟨0, ["catalog.yaml"]⟩ [("CHK-901", check)] document _ _ entries regular
  have refused := mt loads.1 fun sound => unsound (sound.1 0 untitled rfl)
  obtain ⟨found, reported, exact⟩ := tells refused
  exact ⟨found, reported, (exact.ofGroups 0).2 ⟨untitled, rfl, unsound⟩,
    (exact.ofChecks _).2 ⟨List.mem_cons_self, List.forall_mem_nil _⟩⟩

/-! ## Where the check is not exact -/

/-- The entry of a rule with an id and a level. -/
def ruleEntry (id : String) (level : Value) : Value :=
  .map [
    (.text "id", .text id), (.text "group", .text "misc"), (.text "title", .text "Sample"),
    (.text "level", level)]

/-- A document with this rule and its group. -/
def ruleDocument (id : String) (level : Value) : Value :=
  .map [(.text "groups", .list [miscEntry]), (.text "rules", .list [ruleEntry id level])]

/-- An id with a line end after its three digits is accepted. -/
theorem load_id_with_line_end :
    let check : RuleCheck := fun _ _ => return .verdict (.ok "fine")
    ∃ catalog, ofDocument ⟨0, ["catalog.yaml"]⟩ [("CHK-901\n", check)]
        (ruleDocument "CHK-901\n" (.text "error")) = .ok catalog ∧
      catalog.rules.map (·.id) = ["CHK-901\n"] := by
  intro check
  let group : RuleGroup := { id := .text "misc", number := 9, title := .text "Misc" }
  let rule : Rule := { id := "CHK-901\n", title := .text "Sample", group, level := .error, check }
  let entry := ruleEntry "CHK-901\n" (.text "error")
  have entries : entriesOf (ruleDocument "CHK-901\n" (.text "error")) = .ok ([miscEntry], [entry]) := by
    with_unfolding_all rfl
  have found : problems [miscEntry] [entry] ["CHK-901\n"] = .ok [] := by with_unfolding_all rfl
  have groups : [miscEntry].mapM groupOf = .ok [group] := by with_unfolding_all rfl
  have rules : [entry].mapM (ruleOf [group] [("CHK-901\n", check)]) = .ok [rule] := by
    with_unfolding_all rfl
  exact ⟨_, ofDocument_eq_ok_iff.2 ⟨_, entries, found, _, _, groups, rules, rfl⟩,
    congrArg (List.map (·.id)) (List.mergeSort_singleton rule)⟩

/-- A level that is a whole number of more digits than are written ends the loading, although no
level is a number. -/
theorem load_level_too_long :
    let check : RuleCheck := fun _ _ => return .verdict (.ok "fine")
    let level : Value := .int (.ofNat Value.tooLong)
    (∀ seen id, ¬ SoundRule [.text "misc"] ["CHK-901"] seen (ruleEntry "CHK-901" level) id) ∧
      ofDocument ⟨0, ["catalog.yaml"]⟩ [("CHK-901", check)] (ruleDocument "CHK-901" level) =
        .error .numberTooLong := by
  intro check level
  refine ⟨fun seen id sound => ?_, error?_eq_some.1 (by decide +kernel)⟩
  have held : (ruleEntry "CHK-901" level).get? "level" = some level := by with_unfolding_all rfl
  obtain ⟨l, -, h⟩ := sound.level
  exact nomatch Option.some.inj (held.symm.trans h)

end ModuleAudit.Catalog
