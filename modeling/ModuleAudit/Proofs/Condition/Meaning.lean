import ModuleAudit.Proofs.Condition.Grammar

/-!
# What conditions mean

`Holds` is the plain reading of a condition: all of its parts hold, one of them does, or a known fact
compares with a value as it should. `At` tells which nodes a condition has and at which paths.

* `mem_check_iff`: the check of a condition finds exactly the complaints about its nodes, so each
  malformed node is told by its path (`exists_problem`);
* `evaluate_iff_holds`: evaluating a well-formed condition always ends with the plain reading;
* `evaluate_reordered`: in which order the parts of a condition stand never matters.
-/

namespace ModuleAudit.Condition

/-! ## Nodes and their paths -/

/-- The path of a part of the condition at a path. -/
def partPath (path key : String) (index : Nat) : String :=
  let list := path ++ "." ++ key
  s!"{list}[{index}]"

/-- The nodes of the condition `v` at `path`: `At path v p node` says that `node` stands at `p`. -/
inductive At : (path : String) → (v : Value) → (p : String) → (node : Value) → Prop
  | root {path v} : At path v path v
  | all {path entries items index v p node}
      (list : (Value.map entries).get? "all" = some (.list items)) (part : items[index]? = some v)
      (below : At (partPath path "all" index) v p node) : At path (.map entries) p node
  | any {path entries items index v p node} (other : (Value.map entries).get? "all" = none)
      (list : (Value.map entries).get? "any" = some (.list items)) (part : items[index]? = some v)
      (below : At (partPath path "any" index) v p node) : At path (.map entries) p node

/-- A node that is no condition, whatever its parts are. -/
inductive Malformed : Value → Prop
  | noMap {v} (noMap : v.isMap = false) : Malformed v
  | all {entries children} (held : (Value.map entries).get? "all" = some children)
      (none : ∀ items, children = .list items → items = []) : Malformed (.map entries)
  | any {entries children} (other : (Value.map entries).get? "all" = none)
      (held : (Value.map entries).get? "any" = some children)
      (none : ∀ items, children = .list items → items = []) : Malformed (.map entries)
  | comparison {entries} (other : (Value.map entries).get? "all" = none)
      (other' : (Value.map entries).get? "any" = none) (leaf : ¬ IsComparison (.map entries)) :
      Malformed (.map entries)

/-- What the check has to say about a node at a path by itself. -/
inductive Complaint (path : String) : Value → Problem → Prop
  | noMap {v} (noMap : v.isMap = false) : Complaint path v ⟨path, .notMap v.kindName⟩
  | all {entries children} (held : (Value.map entries).get? "all" = some children)
      (none : ∀ items, children = .list items → items = []) :
      Complaint path (.map entries) ⟨path ++ "." ++ "all", .noChildren⟩
  | any {entries children} (other : (Value.map entries).get? "all" = none)
      (held : (Value.map entries).get? "any" = some children)
      (none : ∀ items, children = .list items → items = []) :
      Complaint path (.map entries) ⟨path ++ "." ++ "any", .noChildren⟩
  | comparison {entries ps q} (other : (Value.map entries).get? "all" = none)
      (other' : (Value.map entries).get? "any" = none)
      (leaf : checkLeaf path (.map entries) = .ok ps) (mem : q ∈ ps) : Complaint path (.map entries) q

theorem Complaint.malformed {path : String} {v : Value} {q : Problem} (h : Complaint path v q) :
    Malformed v := by
  cases h with
  | noMap noMap => exact .noMap noMap
  | all held none => exact .all held none
  | any other held none => exact .any other held none
  | comparison other other' leaf mem =>
    refine .comparison other other' fun comparison => ?_
    rw [checkLeaf_eq_nil_iff.2 comparison] at leaf
    obtain rfl := Except.ok.inj leaf
    exact nomatch mem

/-! ### What the check finds -/

theorem path_of_mem_checkName {path key : String} {node : Value} {names : List String}
    {cause : String → Cause} {ps : List Problem} {q : Problem}
    (h : checkName node key names cause path = .ok ps) (hq : q ∈ ps) : q.path = path := by
  unfold checkName at h
  split at h
  · obtain rfl := Except.ok.inj h
    exact nomatch hq
  · obtain ⟨known, -, h⟩ := bind_eq_ok.1 h
    cases known with
    | true =>
      obtain rfl := Except.ok.inj h
      exact nomatch hq
    | false =>
      obtain ⟨written, -, h⟩ := bind_eq_ok.1 h
      obtain rfl := Except.ok.inj h
      rw [List.mem_singleton.1 hq]

theorem path_of_mem_checkLeaf {path : String} {node : Value} {ps : List Problem} {q : Problem}
    (h : checkLeaf path node = .ok ps) (hq : q ∈ ps) : q.path = path := by
  obtain ⟨ofFact, hfact, h⟩ := bind_eq_ok.1 h
  obtain ⟨ofOperator, hop, h⟩ := bind_eq_ok.1 h
  obtain rfl := Except.ok.inj h
  simp only [List.mem_append, List.mem_filterMap] at hq
  rcases hq with ((⟨key, -, hq⟩ | hq) | hq) | hq
  · split at hq
    · exact nomatch hq
    · rw [← Option.some.inj hq]
  · exact path_of_mem_checkName hfact hq
  · exact path_of_mem_checkName hop hq
  · split at hq
    · rw [List.mem_singleton.1 hq]
    · exact nomatch hq

/-- A complaint about a node begins with the path of the node. -/
theorem Complaint.path_eq {path : String} {v : Value} {q : Problem} (h : Complaint path v q) :
    ∃ rest, q.path = path ++ rest := by
  cases h with
  | noMap => exact ⟨"", by simp⟩
  | all => exact ⟨"." ++ "all", by rw [String.append_assoc]⟩
  | any => exact ⟨"." ++ "any", by rw [String.append_assoc]⟩
  | comparison _ _ leaf mem => exact ⟨"", by simp [path_of_mem_checkLeaf leaf mem]⟩

theorem mem_checkItems_iff {path : String} {items : List Value} {i : Nat} {ps : List Problem}
    (h : checkItems path i items = .ok ps) {q : Problem} :
    q ∈ ps ↔ ∃ k v qs, items[k]? = some v ∧ check s!"{path}[{i + k}]" v = .ok qs ∧ q ∈ qs := by
  induction items generalizing i ps with
  | nil =>
    rw [checkItems] at h
    obtain rfl := Except.ok.inj h
    simp
  | cons v vs ih =>
    obtain ⟨here, hv, h⟩ := bind_eq_ok.1 (checkItems.eq_2 path i v vs ▸ h)
    obtain ⟨rest, hvs, h⟩ := bind_eq_ok.1 h
    obtain rfl := Except.ok.inj h
    rw [List.mem_append, ih hvs]
    constructor
    · rintro (hq | ⟨k, w, qs, hk, hw, hq⟩)
      · exact ⟨0, v, here, rfl, hv, hq⟩
      · exact ⟨k + 1, w, qs, hk, by rwa [Nat.add_right_comm, Nat.add_assoc] at hw, hq⟩
    · rintro ⟨_ | k, w, qs, hk, hw, hq⟩
      · obtain rfl := Option.some.inj hk
        obtain rfl := Except.ok.inj (hv.symm.trans hw)
        exact .inl hq
      · exact .inr ⟨k, w, qs, hk, by rwa [Nat.add_right_comm, Nat.add_assoc], hq⟩

/-- There is something to say about a node of a condition at a path. -/
def Told (path : String) (v : Value) (q : Problem) : Prop :=
  ∃ p node, At path v p node ∧ Complaint p node q

/-- There is something to say about what a key combines: that it has no parts, or something about a
node of a part. -/
inductive ToldOfParts (path key : String) (children : Value) : Problem → Prop
  | noParts (none : ∀ items, children = .list items → items = []) :
      ToldOfParts path key children ⟨path ++ "." ++ key, .noChildren⟩
  | part {items index v q} (list : children = .list items) (part : items[index]? = some v)
      (told : Told (partPath path key index) v q) : ToldOfParts path key children q

theorem mem_checkChildren_iff {path key : String} {children : Value} {ps : List Problem}
    (h : checkChildren (path ++ "." ++ key) children = .ok ps)
    (each : ∀ items, children = .list items → ∀ v ∈ items, ∀ {p qs}, check p v = .ok qs →
      ∀ q, q ∈ qs ↔ Told p v q) {q : Problem} : q ∈ ps ↔ ToldOfParts path key children q := by
  unfold checkChildren at h
  split at h
  · rename_i v vs
    rw [mem_checkItems_iff h]
    constructor
    · rintro ⟨index, w, qs, hw, hqs, hq⟩
      rw [Nat.zero_add] at hqs
      exact .part rfl hw ((each _ rfl w (List.mem_of_getElem? hw) hqs q).1 hq)
    · rintro (none | ⟨list, hw, told⟩)
      · exact nomatch none _ rfl
      · obtain rfl := Value.list.inj list
        have mem := List.mem_of_getElem? hw
        obtain ⟨_, qs, hqs⟩ := each_of_checkItems h _ mem
        obtain ⟨qs, hqs⟩ := check_ok_iff.2 (checkable_of_check hqs)
        refine ⟨_, _, qs, hw, ?_, (each _ rfl _ mem hqs q).2 told⟩
        rw [Nat.zero_add]
        exact hqs
  · exact nomatch h
  · rename_i noParts _
    obtain rfl := Except.ok.inj h
    have none : ∀ items, children = .list items → items = [] := by
      rintro (_ | ⟨v, vs⟩) list
      · rfl
      · exact absurd list (noParts v vs)
    rw [List.mem_singleton]
    constructor
    · rintro rfl
      exact .noParts none
    · rintro (_ | ⟨list, hw, -⟩)
      · rfl
      · rw [none _ list] at hw
        exact nomatch hw

theorem told_of_noMap {path : String} {v : Value} (noMap : v.isMap = false) {q : Problem} :
    Told path v q ↔ q = ⟨path, .notMap v.kindName⟩ := by
  constructor
  · rintro ⟨p, node, below, complaint⟩
    cases below with
    | root => cases complaint with
      | noMap => rfl
      | _ => exact nomatch noMap
    | _ => exact nomatch noMap
  · rintro rfl
    exact ⟨path, v, .root, .noMap noMap⟩

section Told

variable {path : String} {entries : List (Value × Value)} {children : Value} {q : Problem}

theorem told_all_iff (held : (Value.map entries).get? "all" = some children) :
    Told path (.map entries) q ↔ ToldOfParts path "all" children q := by
  constructor
  · rintro ⟨p, node, below, complaint⟩
    cases below with
    | root => cases complaint with
      | noMap noMap => exact nomatch noMap
      | all held' none =>
        obtain rfl := Option.some.inj (held.symm.trans held')
        exact .noParts none
      | any other | comparison other => exact nomatch other.symm.trans held
    | all list part below =>
      exact .part (Option.some.inj (held.symm.trans list)) part ⟨p, node, below, complaint⟩
    | any other => exact nomatch other.symm.trans held
  · rintro (none | ⟨rfl, part, p, node, below, complaint⟩)
    · exact ⟨path, _, .root, .all held none⟩
    · exact ⟨p, node, .all held part below, complaint⟩

theorem told_any_iff (other : (Value.map entries).get? "all" = none)
    (held : (Value.map entries).get? "any" = some children) :
    Told path (.map entries) q ↔ ToldOfParts path "any" children q := by
  constructor
  · rintro ⟨p, node, below, complaint⟩
    cases below with
    | root => cases complaint with
      | noMap noMap => exact nomatch noMap
      | all held' => exact nomatch other.symm.trans held'
      | any _ held' none =>
        obtain rfl := Option.some.inj (held.symm.trans held')
        exact .noParts none
      | comparison _ other' => exact nomatch other'.symm.trans held
    | all list => exact nomatch other.symm.trans list
    | any _ list part below =>
      exact .part (Option.some.inj (held.symm.trans list)) part ⟨p, node, below, complaint⟩
  · rintro (none | ⟨rfl, part, p, node, below, complaint⟩)
    · exact ⟨path, _, .root, .any other held none⟩
    · exact ⟨p, node, .any other held part below, complaint⟩

theorem told_comparison_iff {ps : List Problem} (other : (Value.map entries).get? "all" = none)
    (other' : (Value.map entries).get? "any" = none) (leaf : checkLeaf path (.map entries) = .ok ps) :
    Told path (.map entries) q ↔ q ∈ ps := by
  constructor
  · rintro ⟨p, node, below, complaint⟩
    cases below with
    | root => cases complaint with
      | noMap noMap => exact nomatch noMap
      | all held => exact nomatch other.symm.trans held
      | any _ held => exact nomatch other'.symm.trans held
      | comparison _ _ leaf' mem => exact Except.ok.inj (leaf'.symm.trans leaf) ▸ mem
    | all list => exact nomatch other.symm.trans list
    | any _ list => exact nomatch other'.symm.trans list
  · exact fun mem => ⟨path, _, .root, .comparison other other' leaf mem⟩

end Told

/-- The check of a condition finds exactly the complaints about its nodes. -/
theorem mem_check_iff {path : String} {v : Value} {ps : List Problem} (h : check path v = .ok ps)
    (q : Problem) : q ∈ ps ↔ Told path v q := by
  -- The induction is on what can be checked, which has a case for each way the check can go.
  induction checkable_of_check h generalizing path ps q with
  | other noMap =>
    rw [check_of_noMap noMap] at h
    obtain rfl := Except.ok.inj h
    rw [List.mem_singleton, told_of_noMap noMap]
  | all held _ _ ih =>
    simp only [check_map, held] at h
    rw [told_all_iff held,
      mem_checkChildren_iff h fun items list v hv _ _ h q => ih items list v hv h q]
  | any other held _ _ ih =>
    simp only [check_map, other, held] at h
    rw [told_any_iff other held,
      mem_checkChildren_iff h fun items list v hv _ _ h q => ih items list v hv h q]
  | comparison other other' _ =>
    simp only [check_map, other, other'] at h
    exact (told_comparison_iff other other' h).symm

theorem At.checkable {path p : String} {v node : Value} (h : At path v p node) (hv : Checkable v) :
    Checkable node := by
  induction h with
  | root => exact hv
  | all list part _ ih =>
    refine ih ?_
    cases hv with
    | other noMap => exact nomatch noMap
    | all held _ each =>
      exact each _ (Option.some.inj (held.symm.trans list)) _ (List.mem_of_getElem? part)
    | any other | comparison other => exact nomatch other.symm.trans list
  | any other list part _ ih =>
    refine ih ?_
    cases hv with
    | other noMap => exact nomatch noMap
    | all held => exact nomatch other.symm.trans held
    | any _ held _ each =>
      exact each _ (Option.some.inj (held.symm.trans list)) _ (List.mem_of_getElem? part)
    | comparison _ other' => exact nomatch other'.symm.trans list

theorem Malformed.exists_complaint {v : Value} (h : Malformed v) (hv : Checkable v) (path : String) :
    ∃ q, Complaint path v q := by
  cases h with
  | noMap noMap => exact ⟨_, .noMap noMap⟩
  | all held none => exact ⟨_, .all held none⟩
  | any other held none => exact ⟨_, .any other held none⟩
  | comparison other other' leaf =>
    obtain ⟨ps, hps⟩ := check_of_checkable hv path
    simp only [check_map, other, other'] at hps
    cases ps with
    | nil => exact absurd (checkLeaf_eq_nil_iff.1 hps) leaf
    | cons q ps => exact ⟨q, .comparison other other' hps List.mem_cons_self⟩

theorem Complaint.message_eq {path : String} {v : Value} {q : Problem} (h : Complaint path v q) :
    ∃ rest, q.message = path ++ rest := by
  obtain ⟨rest, e⟩ := h.path_eq
  exact ⟨rest ++ ": " ++ q.cause.message, by simp only [Problem.message, e, String.append_assoc]⟩

/-- A malformed node is told by a problem that begins with its path. -/
theorem exists_problem {path p : String} {v node : Value} {ps : List Problem}
    (h : check path v = .ok ps) (below : At path v p node) (malformed : Malformed node) :
    ∃ q ∈ ps, ∃ rest, q.message = p ++ rest := by
  obtain ⟨q, complaint⟩ := malformed.exists_complaint (below.checkable (checkable_of_check h)) p
  exact ⟨q, (mem_check_iff h q).2 ⟨p, node, below, complaint⟩, complaint.message_eq⟩

/-- A problem begins with the path of a malformed node. -/
theorem exists_malformed {path : String} {v : Value} {ps : List Problem} (h : check path v = .ok ps)
    {q : Problem} (hq : q ∈ ps) :
    ∃ p node, At path v p node ∧ Malformed node ∧ ∃ rest, q.message = p ++ rest := by
  obtain ⟨p, node, below, complaint⟩ := (mem_check_iff h q).1 hq
  exact ⟨p, node, below, complaint.malformed, complaint.message_eq⟩

/-! ## The plain reading -/

/-- A fact compares with a value as an operator says. -/
def Compares (op : String) (actual expected : Value) : Prop :=
  op = "eq" ∧ actual.equals expected = true ∨
  op = "ne" ∧ actual.equals expected = false ∨
  op = "in" ∧ ∃ items, expected = .list items ∧ ∃ v ∈ items, actual.same v = true

/-- The condition holds for the facts. -/
inductive Holds (facts : Facts) : Value → Prop
  | all {entries items} (list : (Value.map entries).get? "all" = some (.list items))
      (each : ∀ v ∈ items, Holds facts v) : Holds facts (.map entries)
  | any {entries items v} (other : (Value.map entries).get? "all" = none)
      (list : (Value.map entries).get? "any" = some (.list items)) (mem : v ∈ items)
      (holds : Holds facts v) : Holds facts (.map entries)
  | comparison {entries name op actual expected} (other : (Value.map entries).get? "all" = none)
      (other' : (Value.map entries).get? "any" = none)
      (fact : (Value.map entries).get? "fact" = some (.text name))
      (operator : (Value.map entries).get? "op" = some (.text op))
      (value : (Value.map entries).get? "value" = some expected)
      (known : facts.lookup name = some actual) (compares : Compares op actual expected) :
      Holds facts (.map entries)

section Holds

variable {facts : Facts} {entries : List (Value × Value)} {items : List Value}

theorem holds_all_iff (list : (Value.map entries).get? "all" = some (.list items)) :
    Holds facts (.map entries) ↔ ∀ v ∈ items, Holds facts v := by
  refine ⟨fun h => ?_, .all list⟩
  cases h with
  | all list' each => exact Value.list.inj (Option.some.inj (list'.symm.trans list)) ▸ each
  | any other | comparison other => exact absurd (list.symm.trans other) (Option.some_ne_none _)

theorem holds_any_iff (other : (Value.map entries).get? "all" = none)
    (list : (Value.map entries).get? "any" = some (.list items)) :
    Holds facts (.map entries) ↔ ∃ v ∈ items, Holds facts v := by
  refine ⟨fun h => ?_, fun ⟨_, mem, holds⟩ => .any other list mem holds⟩
  cases h with
  | all list' => exact absurd (list'.symm.trans other) (Option.some_ne_none _)
  | any _ list' mem holds =>
    obtain rfl := Value.list.inj (Option.some.inj (list.symm.trans list'))
    exact ⟨_, mem, holds⟩
  | comparison _ other' => exact absurd (list.symm.trans other') (Option.some_ne_none _)

theorem holds_comparison_iff {name op : String} {expected : Value}
    (other : (Value.map entries).get? "all" = none) (other' : (Value.map entries).get? "any" = none)
    (fact : (Value.map entries).get? "fact" = some (.text name))
    (operator : (Value.map entries).get? "op" = some (.text op))
    (value : (Value.map entries).get? "value" = some expected) :
    Holds facts (.map entries) ↔
      ∃ actual, facts.lookup name = some actual ∧ Compares op actual expected := by
  refine ⟨fun h => ?_, fun ⟨_, known, compares⟩ =>
    .comparison other other' fact operator value known compares⟩
  cases h with
  | all list => exact absurd (list.symm.trans other) (Option.some_ne_none _)
  | any _ list => exact absurd (list.symm.trans other') (Option.some_ne_none _)
  | comparison _ _ fact' operator' value' known compares =>
    obtain rfl := Value.text.inj (Option.some.inj (fact.symm.trans fact'))
    obtain rfl := Value.text.inj (Option.some.inj (operator.symm.trans operator'))
    obtain rfl := Option.some.inj (value.symm.trans value')
    exact ⟨_, known, compares⟩

end Holds

/-! ### Conditions of JSON documents -/

theorem mem_ofItems {items : List Json} {v : Value} :
    v ∈ Value.ofItems items ↔ ∃ j ∈ items, Value.ofJson j = v := by
  induction items with
  | nil => simp [Value.ofItems]
  | cons j js ih => simp [Value.ofItems, ih, eq_comm]

theorem forall_ofItems {items : List Json} {p : Value → Prop} :
    (∀ v ∈ Value.ofItems items, p v) ↔ ∀ j ∈ items, p (.ofJson j) := by
  simp [mem_ofItems]

theorem get?_ofMembers (members : List (String × Json)) (key : String) :
    (Value.map (Value.ofMembers members)).get? key = (members.lookup key).map Value.ofJson := by
  induction members with
  | nil => rfl
  | cons member rest ih =>
    obtain ⟨k, j⟩ := member
    rw [Value.ofMembers, Value.get?_cons, ih, List.lookup_cons]
    by_cases e : key = k
    · simp [e, Value.same]
    · simp [Ne.symm e, Value.same, beq_eq_false_iff_ne.2 e]

theorem list_ofJson {j : Json} {items : List Value} (h : Value.ofJson j = .list items) :
    ∃ js, j = .array js ∧ items = Value.ofItems js := by
  cases j <;> simp_all [Value.ofJson]

theorem list_of_isListLike {j : Json} (h : isListLike (Value.ofJson j) = true) :
    ∃ items, Value.ofJson j = .list items := by
  cases j <;> simp_all [Value.ofJson, isListLike]

theorem map_ofJson {j : Json} {entries : List (Value × Value)} (h : Value.ofJson j = .map entries) :
    ∃ members, j = .object members ∧ entries = Value.ofMembers members := by
  cases j <;> simp_all [Value.ofJson]

/-- What a map of a JSON document holds is a JSON document. -/
theorem get?_ofJson {j : Json} {entries : List (Value × Value)} (h : Value.ofJson j = .map entries)
    {key : String} {v : Value} (held : (Value.map entries).get? key = some v) :
    ∃ j', Value.ofJson j' = v := by
  obtain ⟨members, rfl, rfl⟩ := map_ofJson h
  rw [get?_ofMembers] at held
  obtain ⟨j', -, rfl⟩ := Option.map_eq_some_iff.1 held
  exact ⟨j', rfl⟩

/-- The parts of a combination in a JSON document are JSON documents. -/
theorem part_ofJson {j : Json} {entries : List (Value × Value)} (h : Value.ofJson j = .map entries)
    {key : String} {items : List Value} (list : (Value.map entries).get? key = some (.list items))
    {v : Value} (hv : v ∈ items) : ∃ j', Value.ofJson j' = v := by
  obtain ⟨j', hj'⟩ := get?_ofJson h list
  obtain ⟨js, rfl, rfl⟩ := list_ofJson hj'
  obtain ⟨j, -, rfl⟩ := mem_ofItems.1 hv
  exact ⟨j, rfl⟩

/-! ### Evaluating -/

section Evaluate

variable {facts : Facts}

/-- Conditions in a row come to the answer that does not decide if each of them does. -/
theorem evaluateItems_iff (all : Bool) {items : List Value}
    (h : ∀ v ∈ items, ∃ b, evaluate facts v = .ok b) :
    ∃ b, evaluateItems facts all items = .ok b ∧
      (b = all ↔ ∀ v ∈ items, evaluate facts v = .ok all) := by
  induction items with
  | nil => exact ⟨all, by rw [evaluateItems], by simp⟩
  | cons v vs ih =>
    obtain ⟨⟨b, hb⟩, hvs⟩ := List.forall_mem_cons.1 h
    obtain ⟨rest, hrest, iff⟩ := ih hvs
    rw [evaluateItems, hb]
    dsimp only
    by_cases e : b = all
    · refine ⟨rest, by rw [if_pos (beq_iff_eq.2 e), hrest], ?_⟩
      rw [List.forall_mem_cons, iff, hb, e, eq_self_iff_true, true_and]
    · refine ⟨b, by rw [if_neg (mt beq_iff_eq.1 e)], ?_⟩
      rw [List.forall_mem_cons, hb, Except.ok.injEq]
      exact ⟨fun h => absurd h e, And.left⟩

theorem compare_iff {op : String} (h : op ∈ operators) {actual expected : Value}
    (list : op = "in" → ∃ items, expected = .list items) :
    ∃ b, compare (.text op) actual expected = .ok b ∧ (b = true ↔ Compares op actual expected) := by
  simp only [operators, List.mem_cons, List.not_mem_nil, or_false] at h
  rcases h with rfl | rfl | rfl
  · exact ⟨_, rfl, by simp [Compares]⟩
  · obtain ⟨items, rfl⟩ := list rfl
    exact ⟨_, rfl, by simp [Compares]⟩
  · exact ⟨_, rfl, by simp [Compares]⟩

/-- Evaluating a condition ends with its plain reading. -/
def Reads (facts : Facts) (v : Value) : Prop :=
  ∃ b, evaluate facts v = .ok b ∧ (b = true ↔ Holds facts v)

theorem Reads.eq_true_iff {v : Value} (h : Reads facts v) :
    evaluate facts v = .ok true ↔ Holds facts v := by
  obtain ⟨b, hb, iff⟩ := h
  rw [hb, Except.ok.injEq, iff]

theorem Reads.eq_false_iff {v : Value} (h : Reads facts v) :
    evaluate facts v = .ok false ↔ ¬ Holds facts v := by
  obtain ⟨b, hb, iff⟩ := h
  rw [hb, Except.ok.injEq, ← iff, Bool.not_eq_true]

variable {entries : List (Value × Value)} {items : List Value}

theorem reads_all (list : (Value.map entries).get? "all" = some (.list items))
    (each : ∀ v ∈ items, Reads facts v) : Reads facts (.map entries) := by
  obtain ⟨b, hb, iff⟩ : ∃ b, evaluateItems facts true items = .ok b ∧ _ :=
    evaluateItems_iff true fun v hv => (each v hv).imp fun _ => And.left
  refine ⟨b, by simp only [evaluate_map, list, combineAll, hb], ?_⟩
  rw [iff, holds_all_iff list]
  exact forall₂_congr fun v hv => (each v hv).eq_true_iff

theorem reads_any (other : (Value.map entries).get? "all" = none)
    (list : (Value.map entries).get? "any" = some (.list items))
    (each : ∀ v ∈ items, Reads facts v) : Reads facts (.map entries) := by
  obtain ⟨b, hb, iff⟩ : ∃ b, evaluateItems facts false items = .ok b ∧ _ :=
    evaluateItems_iff false fun v hv => (each v hv).imp fun _ => And.left
  refine ⟨b, by simp only [evaluate_map, other, list, combineAll, hb], ?_⟩
  -- The answer is the one that decides unless every part fails.
  rw [← Bool.not_eq_false, iff, forall₂_congr fun v hv => (each v hv).eq_false_iff,
    holds_any_iff other list]
  simp only [not_forall, not_not, exists_prop]

theorem reads_comparison (other : (Value.map entries).get? "all" = none)
    (other' : (Value.map entries).get? "any" = none) (leaf : IsComparison (.map entries))
    {j : Json} (hj : Value.ofJson j = .map entries) : Reads facts (.map entries) := by
  obtain ⟨⟨name, -, hfact⟩, ⟨op, ho, hop⟩, value, hv, list⟩ := leaf
  rw [Reads, evaluate_map, other, other', holds_comparison_iff other other' hfact hop hv]
  dsimp only
  rw [evaluateLeaf_eq hfact hop hv]
  cases facts.lookup name with
  | none => exact ⟨false, rfl, by simp⟩
  | some actual =>
    have isList (e : op = "in") : ∃ items, value = .list items := by
      obtain ⟨j', rfl⟩ := get?_ofJson hj hv
      exact list_of_isListLike (list (e ▸ hop))
    simpa using compare_iff ho isList

/-- Evaluating a well-formed condition of a JSON document ends with the plain reading. -/
theorem evaluate_iff_holds {v : Value} (h : WellFormed v) {j : Json} (hj : Value.ofJson j = v) :
    Reads facts v := by
  -- The document is needed at the leaves only: a list there is a list, and not a tuple or a set.
  induction h generalizing j with
  | all list _ _ ih =>
    exact reads_all list fun v hv => (part_ofJson hj list hv).elim fun _ => ih v hv
  | any other list _ _ ih =>
    exact reads_any other list fun v hv => (part_ofJson hj list hv).elim fun _ => ih v hv
  | comparison other other' leaf => exact reads_comparison other other' leaf hj

/-- Conditions in a row come to the same as other ones if those that decide are there in both. -/
theorem evaluateItems_congr (all : Bool) {items items' : List Value}
    (h : ∀ v ∈ items, ∃ b, evaluate facts v = .ok b) (h' : ∀ v ∈ items', ∃ b, evaluate facts v = .ok b)
    (same : (∀ v ∈ items', evaluate facts v = .ok all) ↔ ∀ v ∈ items, evaluate facts v = .ok all) :
    evaluateItems facts all items' = evaluateItems facts all items := by
  obtain ⟨b, hb, iff⟩ := evaluateItems_iff all h
  obtain ⟨b', hb', iff'⟩ := evaluateItems_iff all h'
  have decides : b' = all ↔ b = all := iff'.trans (same.trans iff.symm)
  obtain rfl : b' = b := by
    revert decides
    cases b' <;> cases b <;> cases all <;> decide
  rw [hb, hb']

end Evaluate

/-! ## The order of the parts -/

/-- Documents that differ in nothing but the order in which the parts of combinations stand. -/
inductive Reordered : Json → Json → Prop
  | refl {j} : Reordered j j
  | trans {j j' j''} (first : Reordered j j') (second : Reordered j' j'') : Reordered j j''
  | parts {before after key items items'} (combines : key = "all" ∨ key = "any")
      (perm : items.Perm items') :
      Reordered (.object (before ++ (key, .array items) :: after))
        (.object (before ++ (key, .array items') :: after))
  | part {before after key front back j j'} (combines : key = "all" ∨ key = "any")
      (below : Reordered j j') :
      Reordered (.object (before ++ (key, .array (front ++ j :: back)) :: after))
        (.object (before ++ (key, .array (front ++ j' :: back)) :: after))

/-- Members with another value under one key: either an earlier member hides the difference, or it
shows under this key alone. -/
theorem lookup_exchange (before after : List (String × Json)) (key : String) (x x' : Json) :
    (∀ k, (before ++ (key, x') :: after).lookup k = (before ++ (key, x) :: after).lookup k) ∨
      (before ++ (key, x) :: after).lookup key = some x ∧
      (before ++ (key, x') :: after).lookup key = some x' ∧
      ∀ k, k ≠ key →
        (before ++ (key, x') :: after).lookup k = (before ++ (key, x) :: after).lookup k := by
  induction before with
  | nil =>
    refine .inr ⟨by simp, by simp, fun k hk => ?_⟩
    simp only [List.nil_append, List.lookup_cons, beq_eq_false_iff_ne.2 hk]
  | cons member before ih =>
    obtain ⟨k', y⟩ := member
    by_cases e : key = k'
    · refine .inl fun k => ?_
      rcases ih with ih | ⟨-, -, ih⟩
      · simp only [List.cons_append, List.lookup_cons, ih]
      · by_cases hk : k = key
        · simp only [List.cons_append, List.lookup_cons, beq_iff_eq.2 (hk.trans e)]
        · simp only [List.cons_append, List.lookup_cons, ih k hk]
    · simp only [List.cons_append, List.lookup_cons, beq_eq_false_iff_ne.2 e]
      refine ih.imp (fun ih k => by rw [ih]) (.imp id (.imp id fun ih k hk => by rw [ih k hk]))

section Exchange

variable {entries entries' : List (Value × Value)}

/-- Maps that hold the same under all keys are the same conditions. -/
theorem WellFormed.congr (h : WellFormed (.map entries))
    (same : ∀ key, (Value.map entries').get? key = (Value.map entries).get? key) :
    WellFormed (.map entries') := by
  cases h with
  | all list nonempty each => exact .all (same _ ▸ list) nonempty each
  | any other list nonempty each => exact .any (same _ ▸ other) (same _ ▸ list) nonempty each
  | comparison other other' leaf =>
    refine .comparison (same _ ▸ other) (same _ ▸ other') ⟨?_, ?_, ?_⟩
    · simpa only [same] using leaf.fact
    · simpa only [same] using leaf.operator
    · simpa only [same] using leaf.value

theorem evaluate_congr (facts : Facts)
    (same : ∀ key, (Value.map entries').get? key = (Value.map entries).get? key) :
    evaluate facts (.map entries') = evaluate facts (.map entries) := by
  simp only [evaluate_map, same, evaluateLeaf, field]

/-- Parts that can take the place of other parts of a combination. -/
structure Replaces (parts' parts : List Json) : Prop where
  nonempty : parts ≠ [] → parts' ≠ []
  wellFormed : ∀ j ∈ parts', WellFormed (.ofJson j)
  same : ∀ facts all, (∀ j ∈ parts', evaluate facts (.ofJson j) = .ok all) ↔
    ∀ j ∈ parts, evaluate facts (.ofJson j) = .ok all

theorem Replaces.evaluateItems_eq {parts parts' : List Json} (h : Replaces parts' parts)
    (wellFormed : ∀ j ∈ parts, WellFormed (.ofJson j)) (facts : Facts) (all : Bool) :
    evaluateItems facts all (Value.ofItems parts') = evaluateItems facts all (Value.ofItems parts) := by
  refine evaluateItems_congr all ?_ ?_ ?_
  · rw [forall_ofItems]
    exact fun j hj => (evaluate_iff_holds (wellFormed j hj) rfl).imp fun _ => And.left
  · rw [forall_ofItems]
    exact fun j hj => (evaluate_iff_holds (h.wellFormed j hj) rfl).imp fun _ => And.left
  · rw [forall_ofItems, forall_ofItems]
    exact h.same facts all

/-- The parts of a combination can be replaced. -/
theorem Replaces.exchange {parts parts' : List Json} {key : String}
    (replaces : (∀ j ∈ parts, WellFormed (.ofJson j)) → Replaces parts' parts)
    (combines : key = "all" ∨ key = "any")
    (list : (Value.map entries).get? key = some (.list (Value.ofItems parts)))
    (list' : (Value.map entries').get? key = some (.list (Value.ofItems parts')))
    (others : ∀ k, k ≠ key → (Value.map entries').get? k = (Value.map entries).get? k)
    (h : WellFormed (.map entries)) :
    WellFormed (.map entries') ∧
      ∀ facts, evaluate facts (.map entries') = evaluate facts (.map entries) := by
  have nonempty {js : List Json} : Value.ofItems js ≠ [] ↔ js ≠ [] := by
    cases js <;> simp [Value.ofItems]
  cases h with
  | all list₀ nonempty₀ each =>
    rcases combines with rfl | rfl
    · obtain rfl := Value.list.inj (Option.some.inj (list₀.symm.trans list))
      have each := forall_ofItems.1 each
      have r := replaces each
      refine ⟨.all list' (nonempty.2 (r.nonempty (nonempty.1 nonempty₀)))
        (forall_ofItems.2 r.wellFormed), fun facts => ?_⟩
      simp only [evaluate_map, list, list', combineAll]
      exact r.evaluateItems_eq each facts true
    · have list₁ := (others "all" (by decide)).trans list₀
      refine ⟨.all list₁ nonempty₀ each, fun facts => ?_⟩
      simp only [evaluate_map, list₀, list₁]
  | any other list₀ nonempty₀ each =>
    rcases combines with rfl | rfl
    · exact absurd (list.symm.trans other) (Option.some_ne_none _)
    · obtain rfl := Value.list.inj (Option.some.inj (list₀.symm.trans list))
      have each := forall_ofItems.1 each
      have r := replaces each
      have other₁ := (others "all" (by decide)).trans other
      refine ⟨.any other₁ list' (nonempty.2 (r.nonempty (nonempty.1 nonempty₀)))
        (forall_ofItems.2 r.wellFormed), fun facts => ?_⟩
      simp only [evaluate_map, other, other₁, list, list', combineAll]
      exact r.evaluateItems_eq each facts false
  | comparison other other' =>
    rcases combines with rfl | rfl
    · exact absurd (list.symm.trans other) (Option.some_ne_none _)
    · exact absurd (list.symm.trans other') (Option.some_ne_none _)

end Exchange

/-- Two documents that are the same but for the array under one key of the outermost object. -/
theorem exchange_ofJson {before after : List (String × Json)} {key : String} {parts parts' : List Json}
    (combines : key = "all" ∨ key = "any")
    (replaces : (∀ j ∈ parts, WellFormed (.ofJson j)) → Replaces parts' parts)
    (h : WellFormed (.ofJson (.object (before ++ (key, .array parts) :: after)))) :
    WellFormed (.ofJson (.object (before ++ (key, .array parts') :: after))) ∧
      ∀ facts, evaluate facts (.ofJson (.object (before ++ (key, .array parts') :: after))) =
        evaluate facts (.ofJson (.object (before ++ (key, .array parts) :: after))) := by
  simp only [Value.ofJson] at h ⊢
  rcases lookup_exchange before after key (.array parts) (.array parts') with same | ⟨here, here', others⟩
  · have same (k : String) := congrArg (Option.map Value.ofJson) (same k)
    simp only [← get?_ofMembers] at same
    exact ⟨h.congr same, fun facts => evaluate_congr facts same⟩
  · refine Replaces.exchange replaces combines ?_ ?_ (fun k hk => ?_) h
    · rw [get?_ofMembers, here, Option.map_some, Value.ofJson]
    · rw [get?_ofMembers, here', Option.map_some, Value.ofJson]
    · rw [get?_ofMembers, get?_ofMembers, others k hk]

/-- In which order the parts of a condition stand does not matter. -/
theorem evaluate_reordered {j j' : Json} (reordered : Reordered j j') (h : WellFormed (.ofJson j)) :
    WellFormed (.ofJson j') ∧ ∀ facts, evaluate facts (.ofJson j') = evaluate facts (.ofJson j) := by
  induction reordered with
  | refl => exact ⟨h, fun _ => rfl⟩
  | trans _ _ ih ih' =>
    obtain ⟨h, same⟩ := ih h
    obtain ⟨h, same'⟩ := ih' h
    exact ⟨h, fun facts => (same' facts).trans (same facts)⟩
  | @parts _ _ _ items items' combines perm =>
    refine exchange_ofJson combines (fun each => ⟨?_, ?_, fun facts all => ?_⟩) h
    · exact mt fun e => (e ▸ perm).eq_nil
    · exact fun j hj => each j (perm.mem_iff.2 hj)
    · simp only [perm.mem_iff]
  | @part _ _ _ front back j j' combines below ih =>
    refine exchange_ofJson combines (fun each => ?_) h
    obtain ⟨wellFormed, same⟩ := ih (each j (by simp))
    refine ⟨fun _ => by simp, fun i hi => ?_, fun facts all => ?_⟩
    · rcases List.mem_append.1 hi with hi | hi
      · exact each i (List.mem_append_left _ hi)
      · rcases List.mem_cons.1 hi with rfl | hi
        · exact wellFormed
        · exact each i (List.mem_append_right _ (List.mem_cons_of_mem _ hi))
    · simp only [List.forall_mem_append, List.forall_mem_cons, same]

/-! ## Checked conditions -/

/-- The check of a condition finds nothing exactly in the well-formed ones, and tells each malformed
node by its path. A condition in which it finds nothing always has an answer, which is the plain
reading, in whatever order its parts stand. -/
theorem checked_reading (j : Json) (legible : Checkable (.ofJson j)) :
    (∃ ps, validate (.ofJson j) = .ok ps ∧ (ps = [] ↔ WellFormed (.ofJson j)) ∧
      (∀ p node, At "condition" (.ofJson j) p node → Malformed node →
        ∃ q ∈ ps, ∃ rest, q.message = p ++ rest) ∧
      ∀ q ∈ ps, ∃ p node, At "condition" (.ofJson j) p node ∧ Malformed node ∧
        ∃ rest, q.message = p ++ rest) ∧
    (validate (.ofJson j) = .ok [] → ∀ facts,
      ∃ b, evaluate facts (.ofJson j) = .ok b ∧ (b = true ↔ Holds facts (.ofJson j)) ∧
        ∀ j', Reordered j j' → evaluate facts (.ofJson j') = .ok b) := by
  constructor
  · obtain ⟨ps, hps⟩ := check_of_checkable legible "condition"
    refine ⟨ps, hps, ?_, fun p node => exists_problem hps, fun q => exists_malformed hps⟩
    rw [← @check_eq_nil_iff "condition", hps, Except.ok.injEq]
  · intro accepted facts
    have wellFormed := wellFormed_of_check accepted
    obtain ⟨b, hb, iff⟩ : ∃ b, evaluate facts (.ofJson j) = .ok b ∧ _ :=
      evaluate_iff_holds wellFormed rfl
    refine ⟨b, hb, iff, fun j' reordered => ?_⟩
    rw [(evaluate_reordered reordered wellFormed).2 facts, hb]

/-- A part that is sound, next to one that is not: its combination is empty, and the comparison
beside the combination does not count. -/
theorem checked_reading_any :
    let either : Json := .object [
      ("any", .array [
        .object [("fact", .string "purpose"), ("op", .string "in"), ("value", .array [.string "a"])],
        .object [("fact", .string "delegation"), ("op", .string "ne"), ("value", .null)]]),
      ("fact", .array [])]
    let both : Json := .object [
      ("any", .string "none"),
      ("all", .array [either, .object [("any", .array []), ("fact", .string "purpose")]])]
    Checkable (.ofJson both) ∧
      (∃ ps, validate (.ofJson both) = .ok ps ∧
        ∃ q ∈ ps, ∃ rest, q.message = partPath "condition" "all" 1 ++ rest) ∧
      Checkable (.ofJson either) ∧
      ∀ facts, ∃ b, evaluate facts (.ofJson either) = .ok b ∧ (b = true ↔ Holds facts (.ofJson either)) := by
  intro either both
  have legible : Checkable (.ofJson both) := check_ok_iff.1
    ⟨[⟨"condition.all[1].any", .noChildren⟩], (by decide +kernel : validate (.ofJson both) = .ok _)⟩
  have accepted : validate (.ofJson either) = .ok [] := by decide +kernel
  have legible' : Checkable (.ofJson either) := check_ok_iff.1 ⟨[], accepted⟩
  have empty : Malformed (.ofJson (.object [("any", .array []), ("fact", .string "purpose")])) :=
    .any (by rw [get?_ofMembers]; rfl) (by rw [get?_ofMembers]; rfl)
      fun items list => (Value.list.inj list).symm
  have second : At "condition" (.ofJson both) (partPath "condition" "all" 1)
      (.ofJson (.object [("any", .array []), ("fact", .string "purpose")])) :=
    .all (by rw [get?_ofMembers]; rfl) rfl .root
  obtain ⟨ps, found, -, told, -⟩ := (checked_reading both legible).1
  refine ⟨legible, ⟨ps, found, told _ _ second empty⟩, legible', fun facts => ?_⟩
  obtain ⟨b, hb, iff, -⟩ := (checked_reading either legible').2 accepted facts
  exact ⟨b, hb, iff⟩

/-- A fact that is a whole number of more digits than are written ends the check of the condition,
although no fact is a number. -/
theorem fact_too_long :
    let j : Json := .object [
      ("fact", .int (.ofNat Value.tooLong)), ("op", .string "eq"), ("value", .bool true)]
    Malformed (.ofJson j) ∧ validate (.ofJson j) = .error .numberTooLong := by
  intro j
  have malformed : Malformed (.ofJson j) := by
    refine .comparison (by rw [get?_ofMembers]; rfl) (by rw [get?_ofMembers]; rfl) fun leaf => ?_
    obtain ⟨name, -, hname⟩ := leaf.fact
    rw [get?_ofMembers] at hname
    exact nomatch Option.some.inj hname
  exact ⟨malformed, error?_eq_some.1 (by decide +kernel)⟩

end ModuleAudit.Condition
