import ModuleAudit.Condition.Validation
import ModuleAudit.Proofs.Answer

/-!
# The grammar of conditions

`WellFormed` is the grammar of conditions: combinations of conditions under `all` or `any`, and
comparisons of a known fact with a value.

* `check_eq_nil_iff`: the check of a condition finds nothing exactly in the well-formed ones;
* `check_ok_iff`: it reports at all exactly on the conditions that can be checked (`Checkable`);
* `WellFormed.evaluate_ok`: a well-formed condition either holds or fails, for all facts that can be
  looked up in collections.
-/

namespace ModuleAudit

namespace Value

theorem same_text_iff {v : Value} {s : String} : v.same (.text s) = true ↔ v = .text s := by
  cases v <;> simp [same]

theorem get?_map (key : String) (entries : List (Value × Value)) :
    (map entries).get? key = (entries.find? fun (k, _) => k.same (.text key)).map (·.2) := rfl

theorem get?_cons (key : String) (k v : Value) (rest : List (Value × Value)) :
    (map ((k, v) :: rest)).get? key =
      if k.same (.text key) then some v else (map rest).get? key := by
  simp only [get?_map, List.find?_cons]
  cases k.same (text key) <;> rfl

/-- What a map holds is smaller than the map. -/
theorem sizeOf_lt_of_get? {entries : List (Value × Value)} {key : String} {v : Value}
    (h : (map entries).get? key = some v) : sizeOf v < sizeOf (map entries) := by
  rw [get?_map, Option.map_eq_some_iff] at h
  obtain ⟨⟨k, v⟩, hm, rfl⟩ := h
  have lt := List.sizeOf_lt_of_mem (List.mem_of_find?_eq_some hm)
  simp only [Prod.mk.sizeOf_spec, map.sizeOf_spec] at lt ⊢
  omega

theorem isSearchable_of_isHashable {v : Value} (h : v.isHashable = true) : v.isSearchable = true := by
  cases v <;> simp_all [isSearchable]

/-- A value that can be a key and can be written in a message. -/
structure Legible (v : Value) : Prop where
  hashable : v.isHashable = true
  showable : v.isShowable = true

/-- A value that can be looked for among names and can be written in a message. -/
structure Nameable (v : Value) : Prop where
  searchable : v.isSearchable = true
  showable : v.isShowable = true

theorem nameable_text (s : String) : (text s).Nameable :=
  ⟨by simp [isSearchable, isHashable], by simp [isShowable]⟩

theorem plain?_ok_iff {v : Value} : (∃ s, v.plain? = .ok s) ↔ v.isShowable = true := by
  unfold plain?
  split <;> simp_all

end Value

namespace Condition

/-- A comparison of a known fact with a value. -/
structure IsComparison (node : Value) : Prop where
  fact : ∃ name ∈ knownFacts, node.get? "fact" = some (.text name)
  operator : ∃ op ∈ operators, node.get? "op" = some (.text op)
  value : ∃ v, node.get? "value" = some v ∧
    (node.get? "op" = some (.text "in") → isListLike v = true)

/-- The conditions. Of a map with the key `all` nothing else counts, and of one with the key `any`
nothing but this key. -/
inductive WellFormed : Value → Prop
  | all {entries items} (list : (Value.map entries).get? "all" = some (.list items))
      (nonempty : items ≠ []) (each : ∀ v ∈ items, WellFormed v) : WellFormed (.map entries)
  | any {entries items} (other : (Value.map entries).get? "all" = none)
      (list : (Value.map entries).get? "any" = some (.list items))
      (nonempty : items ≠ []) (each : ∀ v ∈ items, WellFormed v) : WellFormed (.map entries)
  | comparison {entries} (other : (Value.map entries).get? "all" = none)
      (other' : (Value.map entries).get? "any" = none)
      (leaf : IsComparison (.map entries)) : WellFormed (.map entries)

/-! ## Checking -/

theorem checkEntry_eq (path key : String) (entries : List (Value × Value)) :
    checkEntry path key entries =
      ((Value.map entries).get? key).map (checkChildren (path ++ "." ++ key)) := by
  induction entries with
  | nil => rfl
  | cons entry rest ih =>
    obtain ⟨k, v⟩ := entry
    rw [checkEntry, Value.get?_cons, ih]
    split <;> rfl

theorem checkItems_eq_nil {path : String} {vs : List Value} {i : Nat}
    (h : checkItems path i vs = .ok []) : ∀ v ∈ vs, ∃ p, check p v = .ok [] := by
  induction vs generalizing i with
  | nil => exact nofun
  | cons v vs ih =>
    obtain ⟨here, hv, h⟩ := bind_eq_ok.1 (checkItems.eq_2 path i v vs ▸ h)
    obtain ⟨rest, hvs, h⟩ := bind_eq_ok.1 h
    obtain ⟨rfl, rfl⟩ := List.append_eq_nil_iff.1 (Except.ok.inj h)
    exact List.forall_mem_cons.2 ⟨⟨_, hv⟩, ih hvs⟩

theorem checkItems_of_each {path : String} {vs : List Value} (i : Nat)
    (h : ∀ v ∈ vs, ∀ p, check p v = .ok []) : checkItems path i vs = .ok [] := by
  induction vs generalizing i with
  | nil => rw [checkItems]
  | cons v vs ih =>
    obtain ⟨hv, hvs⟩ := List.forall_mem_cons.1 h
    rw [checkItems, hv, ih (i + 1) hvs]
    rfl

theorem checkChildren_eq_nil {path : String} {children : Value}
    (h : checkChildren path children = .ok []) :
    ∃ items, children = .list items ∧ items ≠ [] ∧ ∀ v ∈ items, ∃ p, check p v = .ok [] := by
  unfold checkChildren at h
  split at h
  · exact ⟨_, rfl, nofun, checkItems_eq_nil h⟩
  · exact nomatch h
  · exact nomatch Except.ok.inj h

theorem checkChildren_of_each {path : String} {items : List Value} (nonempty : items ≠ [])
    (h : ∀ v ∈ items, ∀ p, check p v = .ok []) : checkChildren path (.list items) = .ok [] := by
  obtain ⟨v, vs, rfl⟩ := List.exists_cons_of_ne_nil nonempty
  rw [checkChildren]
  exact checkItems_of_each 0 h

theorem isName_text (names : List String) (s : String) :
    isName names (.text s) = .ok (names.contains s) := by
  rw [List.contains_eq_any_beq]
  simp only [isName, (Value.nameable_text s).searchable, if_true, Value.same]

theorem searchable_of_isName {names : List String} {v : Value} {b : Bool} (h : isName names v = .ok b) :
    v.isSearchable = true := by
  unfold isName at h
  split at h
  · assumption
  · exact nomatch h

theorem isName_eq_true {names : List String} {v : Value} (h : isName names v = .ok true) :
    ∃ name ∈ names, v = .text name := by
  unfold isName at h
  split at h
  · obtain ⟨n, hn, hv⟩ := List.any_eq_true.1 (Except.ok.inj h)
    exact ⟨n, hn, Value.same_text_iff.1 hv⟩
  · exact nomatch h

/-- Nothing is wrong with a field that is absent or holds one of the names. -/
theorem checkName_eq_nil {node v : Value} {key path : String} {names : List String}
    {cause : String → Cause} (hv : node.get? key = some v) :
    checkName node key names cause path = .ok [] ↔ ∃ name ∈ names, v = .text name := by
  simp only [checkName, hv]
  constructor
  · intro h
    obtain ⟨known, hk, h⟩ := bind_eq_ok.1 h
    cases known with
    | true => exact isName_eq_true hk
    | false =>
      obtain ⟨written, -, h⟩ := bind_eq_ok.1 h
      exact nomatch Except.ok.inj h
  · rintro ⟨name, hn, rfl⟩
    rw [isName_text, List.contains_iff_mem.2 hn]
    rfl

theorem has_iff {node : Value} {key : String} : node.has key = true ↔ ∃ v, node.get? key = some v :=
  Option.isSome_iff_exists

theorem checkLeaf_eq_nil_iff {path : String} {node : Value} :
    checkLeaf path node = .ok [] ↔ IsComparison node := by
  constructor
  · intro h
    obtain ⟨ofFact, hfact, h⟩ := bind_eq_ok.1 h
    obtain ⟨ofOperator, hop, h⟩ := bind_eq_ok.1 h
    have h := Except.ok.inj h
    simp only [List.append_eq_nil_iff, List.filterMap_eq_nil_iff, List.forall_mem_cons,
      ite_eq_left_iff, Option.some_ne_none, imp_false, not_not, has_iff] at h
    obtain ⟨⟨⟨⟨⟨fact, hf⟩, ⟨op, ho⟩, ⟨value, hv⟩, -⟩, rfl⟩, rfl⟩, hlist⟩ := h
    obtain ⟨name, hn, rfl⟩ := (checkName_eq_nil hf).1 hfact
    obtain ⟨word, hw, rfl⟩ := (checkName_eq_nil ho).1 hop
    refine ⟨⟨name, hn, hf⟩, ⟨word, hw, ho⟩, value, hv, fun hin => ?_⟩
    simpa [hin, hv, Value.same] using hlist
  · rintro ⟨⟨name, hn, hf⟩, ⟨op, ho, hop⟩, value, hv, hlist⟩
    have isList : (op == "in" && !isListLike value) = false := by
      by_cases e : op = "in"
      · simp [hlist (e ▸ hop)]
      · simp [e]
    rw [checkLeaf, (checkName_eq_nil hf).2 ⟨name, hn, rfl⟩, (checkName_eq_nil hop).2 ⟨op, ho, rfl⟩]
    simp [Value.has, hf, hop, hv, Value.same, isList, bind_eq_ok, pure, Except.pure]

theorem check_map (path : String) (entries : List (Value × Value)) :
    check path (.map entries) =
      match (Value.map entries).get? "all", (Value.map entries).get? "any" with
      | some children, _ => checkChildren (path ++ "." ++ "all") children
      | none, some children => checkChildren (path ++ "." ++ "any") children
      | none, none => checkLeaf path (.map entries) := by
  rw [check, checkEntry_eq, checkEntry_eq]
  cases (Value.map entries).get? "all" <;> cases (Value.map entries).get? "any" <;> rfl

/-- The check of a condition finds nothing only in a well-formed condition. -/
theorem wellFormed_of_check {path : String} : {v : Value} → check path v = .ok [] → WellFormed v
  | .map entries, h => by
    have below {key p : String} {children : Value} (hk : (Value.map entries).get? key = some children)
        (hc : checkChildren p children = .ok []) :
        ∃ items, children = .list items ∧ items ≠ [] ∧ ∀ v ∈ items, WellFormed v := by
      obtain ⟨items, rfl, nonempty, each⟩ := checkChildren_eq_nil hc
      have lt := Value.sizeOf_lt_of_get? hk
      refine ⟨items, rfl, nonempty, fun v hv => ?_⟩
      obtain ⟨p, hp⟩ := each v hv
      have := List.sizeOf_lt_of_mem hv
      exact wellFormed_of_check hp
    rw [check_map] at h
    split at h
    · rename_i children hall
      obtain ⟨items, rfl, nonempty, each⟩ := below hall h
      exact .all hall nonempty each
    · rename_i children hall hany
      obtain ⟨items, rfl, nonempty, each⟩ := below hany h
      exact .any hall hany nonempty each
    · rename_i hall hany
      exact .comparison hall hany (checkLeaf_eq_nil_iff.1 h)
  | .again true, h | .again false, h | .null, h | .bool _, h | .int _, h | .real _, h | .text _, h
  | .list _, h | .tuple _, h | .set _, h | .bytes _, h | .date .., h | .time _, h | .nan _, h => by
    simp [check] at h
termination_by v => sizeOf v
decreasing_by all_goals (simp only [Value.list.sizeOf_spec] at lt; omega)

theorem check_of_wellFormed {v : Value} (h : WellFormed v) (path : String) :
    check path v = .ok [] := by
  induction h generalizing path with
  | all list nonempty _ ih =>
    simp only [check_map, list]
    exact checkChildren_of_each nonempty ih
  | any other list nonempty _ ih =>
    simp only [check_map, other, list]
    exact checkChildren_of_each nonempty ih
  | comparison other other' leaf =>
    simp only [check_map, other, other']
    exact checkLeaf_eq_nil_iff.2 leaf

/-- The check of a condition finds nothing exactly in the well-formed conditions. -/
theorem check_eq_nil_iff {path : String} {v : Value} : check path v = .ok [] ↔ WellFormed v :=
  ⟨wellFormed_of_check, fun h => check_of_wellFormed h path⟩

/-! ## Conditions that can be checked -/

/-- A condition of any form, as long as the fields that are looked up can be looked up and can be
written and no condition is a part of itself. -/
inductive Checkable : Value → Prop
  | other {v} (noMap : v.isMap = false) : Checkable v
  | all {entries children} (held : (Value.map entries).get? "all" = some children)
      (ends : children ≠ .again false)
      (each : ∀ items, children = .list items → ∀ v ∈ items, Checkable v) : Checkable (.map entries)
  | any {entries children} (other : (Value.map entries).get? "all" = none)
      (held : (Value.map entries).get? "any" = some children) (ends : children ≠ .again false)
      (each : ∀ items, children = .list items → ∀ v ∈ items, Checkable v) : Checkable (.map entries)
  | comparison {entries} (other : (Value.map entries).get? "all" = none)
      (other' : (Value.map entries).get? "any" = none)
      (names : ∀ key ∈ ["fact", "op"], ∀ v, (Value.map entries).get? key = some v → v.Nameable) :
      Checkable (.map entries)

theorem checkName_ok_iff {node : Value} {key path : String} {names : List String}
    {cause : String → Cause} :
    (∃ ps, checkName node key names cause path = .ok ps) ↔
      ∀ v, node.get? key = some v → v.Nameable := by
  unfold checkName
  cases node.get? key with
  | none => exact ⟨fun _ => nofun, fun _ => ⟨[], rfl⟩⟩
  | some v =>
    simp only [Option.some.injEq, forall_eq']
    constructor
    · rintro ⟨ps, h⟩
      obtain ⟨known, hk, h⟩ := bind_eq_ok.1 h
      cases known with
      | true =>
        obtain ⟨name, -, rfl⟩ := isName_eq_true hk
        exact Value.nameable_text name
      | false =>
        obtain ⟨written, hw, -⟩ := bind_eq_ok.1 h
        exact ⟨searchable_of_isName hk, Value.plain?_ok_iff.1 ⟨written, hw⟩⟩
    · rintro ⟨searchable, showable⟩
      rw [isName, if_pos searchable, ok_bind]
      split
      · exact ⟨[], rfl⟩
      · obtain ⟨written, hw⟩ := Value.plain?_ok_iff.2 showable
        exact ⟨_, by rw [hw]; rfl⟩

theorem checkLeaf_ok_iff {path : String} {node : Value} :
    (∃ ps, checkLeaf path node = .ok ps) ↔
      ∀ key ∈ ["fact", "op"], ∀ v, node.get? key = some v → v.Nameable := by
  simp only [List.forall_mem_cons, List.not_mem_nil, false_imp_iff, implies_true, and_true]
  constructor
  · rintro ⟨ps, h⟩
    obtain ⟨ofFact, hfact, h⟩ := bind_eq_ok.1 h
    obtain ⟨ofOperator, hop, -⟩ := bind_eq_ok.1 h
    exact ⟨checkName_ok_iff.1 ⟨ofFact, hfact⟩, checkName_ok_iff.1 ⟨ofOperator, hop⟩⟩
  · rintro ⟨fact, op⟩
    obtain ⟨ofFact, hfact⟩ := checkName_ok_iff.2 fact
    obtain ⟨ofOperator, hop⟩ := checkName_ok_iff.2 op
    rw [checkLeaf, hfact, hop]
    exact ⟨_, rfl⟩

theorem each_of_checkItems {path : String} {vs : List Value} {i : Nat} {ps : List Problem}
    (h : checkItems path i vs = .ok ps) : ∀ v ∈ vs, ∃ p qs, check p v = .ok qs := by
  induction vs generalizing i ps with
  | nil => exact nofun
  | cons v vs ih =>
    obtain ⟨here, hv, h⟩ := bind_eq_ok.1 (checkItems.eq_2 path i v vs ▸ h)
    obtain ⟨rest, hvs, -⟩ := bind_eq_ok.1 h
    exact List.forall_mem_cons.2 ⟨⟨_, here, hv⟩, ih hvs⟩

theorem checkItems_ok {vs : List Value} (path : String) (i : Nat)
    (h : ∀ v ∈ vs, ∀ p, ∃ qs, check p v = .ok qs) : ∃ ps, checkItems path i vs = .ok ps := by
  induction vs generalizing i with
  | nil => exact ⟨[], by rw [checkItems]⟩
  | cons v vs ih =>
    obtain ⟨hv, hvs⟩ := List.forall_mem_cons.1 h
    obtain ⟨here, hv⟩ := hv s!"{path}[{i}]"
    obtain ⟨rest, hvs⟩ := ih (i + 1) hvs
    exact ⟨here ++ rest, by rw [checkItems, hv, hvs]; rfl⟩

theorem checkChildren_ok {children : Value} (path : String) (ends : children ≠ .again false)
    (each : ∀ items, children = .list items → ∀ v ∈ items, ∀ p, ∃ qs, check p v = .ok qs) :
    ∃ ps, checkChildren path children = .ok ps := by
  unfold checkChildren
  split
  · exact checkItems_ok path 0 (each _ rfl)
  · exact absurd rfl ends
  · exact ⟨_, rfl⟩

theorem check_of_noMap {v : Value} (noMap : v.isMap = false) (path : String) :
    check path v = .ok [⟨path, .notMap v.kindName⟩] := by
  unfold check
  split <;> first | rfl | simp [Value.isMap] at noMap

theorem check_of_checkable {v : Value} (h : Checkable v) (path : String) :
    ∃ ps, check path v = .ok ps := by
  induction h generalizing path with
  | other noMap => exact ⟨_, check_of_noMap noMap path⟩
  | all held ends _ ih =>
    simp only [check_map, held]
    exact checkChildren_ok _ ends ih
  | any other held ends _ ih =>
    simp only [check_map, other, held]
    exact checkChildren_ok _ ends ih
  | comparison other other' names =>
    simp only [check_map, other, other']
    exact checkLeaf_ok_iff.2 names

theorem checkable_of_check {path : String} {ps : List Problem} :
    {v : Value} → check path v = .ok ps → Checkable v
  | .map entries, h => by
    have below {key p : String} {qs : List Problem} {children : Value}
        (hk : (Value.map entries).get? key = some children)
        (hc : checkChildren p children = .ok qs) :
        children ≠ .again false ∧ ∀ items, children = .list items → ∀ v ∈ items, Checkable v := by
      refine ⟨?_, ?_⟩
      · rintro rfl
        simp [checkChildren] at hc
      · rintro items rfl v hv
        have lt := Value.sizeOf_lt_of_get? hk
        obtain ⟨w, ws, rfl⟩ := List.exists_cons_of_ne_nil (List.ne_nil_of_mem hv)
        rw [checkChildren] at hc
        obtain ⟨p, qs, hp⟩ := each_of_checkItems hc v hv
        have := List.sizeOf_lt_of_mem hv
        exact checkable_of_check hp
    rw [check_map] at h
    split at h
    · rename_i children hall
      obtain ⟨ends, each⟩ := below hall h
      exact .all hall ends each
    · rename_i children hall hany
      obtain ⟨ends, each⟩ := below hany h
      exact .any hall hany ends each
    · rename_i hall hany
      exact .comparison hall hany (checkLeaf_ok_iff.1 ⟨ps, h⟩)
  | .again true, h => by simp [check] at h
  | .again false, h | .null, h | .bool _, h | .int _, h | .real _, h | .text _, h | .list _, h
  | .tuple _, h | .set _, h | .bytes _, h | .date .., h | .time _, h | .nan _, h => .other rfl
termination_by v => sizeOf v
decreasing_by all_goals (simp only [Value.list.sizeOf_spec] at lt; omega)

/-- The check of a condition reports exactly on the conditions that can be checked. -/
theorem check_ok_iff {path : String} {v : Value} :
    (∃ ps, check path v = .ok ps) ↔ Checkable v :=
  ⟨fun ⟨_, h⟩ => checkable_of_check h, fun h => check_of_checkable h path⟩

/-! ## Evaluating -/

section Evaluate

variable {facts : Facts}

theorem evaluateEntry_eq (facts : Facts) (all : Bool) (key : String) (entries : List (Value × Value)) :
    evaluateEntry facts all key entries =
      ((Value.map entries).get? key).map (combineAll facts all) := by
  induction entries with
  | nil => rfl
  | cons entry rest ih =>
    obtain ⟨k, v⟩ := entry
    rw [evaluateEntry, Value.get?_cons, ih]
    split <;> rfl

theorem evaluate_map (facts : Facts) (entries : List (Value × Value)) :
    evaluate facts (.map entries) =
      match (Value.map entries).get? "all", (Value.map entries).get? "any" with
      | some children, _ => combineAll facts true children
      | none, some children => combineAll facts false children
      | none, none => evaluateLeaf facts (.map entries) := by
  rw [evaluate, evaluateEntry_eq, evaluateEntry_eq]
  cases (Value.map entries).get? "all" <;> cases (Value.map entries).get? "any" <;> rfl

/-- Conditions in a row have an answer together if each has one. -/
theorem evaluateItems_ok (all : Bool) {items : List Value}
    (h : ∀ v ∈ items, ∃ b, evaluate facts v = .ok b) : ∃ b, evaluateItems facts all items = .ok b := by
  induction items with
  | nil => exact ⟨all, by rw [evaluateItems]⟩
  | cons v vs ih =>
    obtain ⟨⟨b, hb⟩, hvs⟩ := List.forall_mem_cons.1 h
    obtain ⟨rest, hrest⟩ := ih hvs
    rw [evaluateItems, hb]
    dsimp only
    split
    · exact ⟨rest, hrest⟩
    · exact ⟨b, rfl⟩

/-- A fact that can be a key is among the items of every kind of list, or it is not. -/
theorem isAmong_ok {actual expected : Value} (h : actual.isHashable = true)
    (list : isListLike expected = true) : ∃ b, isAmong actual expected = .ok b := by
  have searchable := Value.isSearchable_of_isHashable h
  cases expected <;> simp_all [isListLike, isAmong]

theorem compare_ok {op : String} (h : op ∈ operators) {actual expected : Value}
    (hashable : actual.isHashable = true) (list : op = "in" → isListLike expected = true) :
    ∃ b, compare (.text op) actual expected = .ok b := by
  simp only [operators, List.mem_cons, List.not_mem_nil, or_false] at h
  rcases h with rfl | rfl | rfl
  · exact ⟨_, rfl⟩
  · exact isAmong_ok hashable (list rfl)
  · exact ⟨_, rfl⟩

/-- A comparison asks for its fact first. -/
theorem evaluateLeaf_eq {node value : Value} {name op : String}
    (hfact : node.get? "fact" = some (.text name)) (hop : node.get? "op" = some (.text op))
    (hv : node.get? "value" = some value) :
    evaluateLeaf facts node =
      match facts.lookup name with
      | none => .ok false
      | some actual => compare (.text op) actual value := by
  simp only [evaluateLeaf, field, hfact, hop, hv, fact?, ok_bind]
  cases facts.lookup name <;> rfl

theorem IsComparison.evaluateLeaf_ok {node : Value} (h : IsComparison node)
    (hashable : ∀ f ∈ facts, f.2.isHashable = true) : ∃ b, evaluateLeaf facts node = .ok b := by
  obtain ⟨⟨name, -, hfact⟩, ⟨op, ho, hop⟩, value, hv, list⟩ := h
  rw [evaluateLeaf_eq hfact hop hv]
  cases hl : facts.lookup name with
  | none => exact ⟨false, rfl⟩
  | some actual =>
    obtain ⟨before, after, rfl, -⟩ := List.lookup_eq_some_iff.1 hl
    have known := hashable (name, actual) (List.mem_append_right _ List.mem_cons_self)
    exact compare_ok ho known fun e => list (e ▸ hop)

/-- A well-formed condition either holds or fails. -/
theorem WellFormed.evaluate_ok {v : Value} (h : WellFormed v)
    (hashable : ∀ f ∈ facts, f.2.isHashable = true) : ∃ b, evaluate facts v = .ok b := by
  induction h with
  | all list _ _ ih =>
    simp only [evaluate_map, list, combineAll]
    exact evaluateItems_ok true ih
  | any other list _ _ ih =>
    simp only [evaluate_map, other, list, combineAll]
    exact evaluateItems_ok false ih
  | comparison other other' leaf =>
    simp only [evaluate_map, other, other']
    exact leaf.evaluateLeaf_ok hashable

end Evaluate

end Condition

end ModuleAudit
