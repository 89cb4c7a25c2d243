import ModuleAudit.Catalog.Loading
import ModuleAudit.Proofs.Catalog.Validation

/-!
# Catalogs that load

* `ofDocument_eq_ok_iff`: which documents make a catalog, and which catalog that is;
* `load_reports`: a file whose entries can be checked either makes a catalog or is reported as a
  faulty one. One group without an id is reported, but a second one is not
  (`second_group_without_id`).
-/

namespace ModuleAudit.Catalog

variable {path : Path} {checks : Registry RuleCheck} {document : Value} {catalog : Catalog}

/-! ## Entries -/

theorem fieldOf_eq_ok_iff {entry v : Value} {key : String} :
    fieldOf entry key = .ok v ↔ entry.get? key = some v := by
  unfold fieldOf
  split <;> simp [*]

theorem groupOf_eq_ok_iff {entry : Value} {g : RuleGroup} :
    groupOf entry = .ok g ↔
      entry.get? "id" = some g.id ∧
      (∃ v, entry.get? "number" = some v ∧ v.toInt = .ok g.number) ∧
      entry.get? "title" = some g.title ∧ g.condition = (entry.get? "condition").getD .null ∧
      g.skip = (entry.get? "skip").getD defaultSkip := by
  simp only [groupOf, bind_eq_ok, fieldOf_eq_ok_iff]
  constructor
  · rintro ⟨id, hid, v, hv, n, hn, title, ht, h⟩
    obtain rfl := Except.ok.inj h
    exact ⟨hid, ⟨v, hv, hn⟩, ht, rfl, rfl⟩
  · rintro ⟨hid, ⟨v, hv, hn⟩, ht, hc, hs⟩
    refine ⟨_, hid, v, hv, _, hn, _, ht, ?_⟩
    rw [← hc, ← hs]
    rfl

theorem groupNamed_eq_ok {groups : List RuleGroup} {id : Value} {g : RuleGroup}
    (h : groupNamed groups id = .ok g) : g ∈ groups ∧ id.same g.id = true := by
  cases found : groups.find? fun g => isKnown id [g.id] with
  | none => simp [groupNamed, found] at h
  | some g' =>
    obtain rfl : g' = g := by simpa [groupNamed, found] using h
    exact ⟨List.mem_of_find?_eq_some found, by simpa [isKnown] using List.find?_some found⟩

/-- What a rule takes over from its entry. -/
structure OfEntry (groups : List RuleGroup) (checks : Registry RuleCheck) (entry : Value) (r : Rule) :
    Prop where
  id : ∃ v, entry.get? "id" = some v ∧ r.id = v.plain
  title : entry.get? "title" = some r.title
  group : ∃ v, entry.get? "group" = some v ∧ groupNamed groups v = .ok r.group
  level : ∃ v, entry.get? "level" = some v ∧ levelOf v = .ok r.level
  check : checkOf checks r.id = .ok r.check
  inherited : r.inherited = ((entry.get? "inherited").getD (.bool false)).isTruthy
  condition : r.condition = (entry.get? "condition").getD .null
  skip : r.skip = (entry.get? "skip").getD defaultSkip
  remediation : r.remediation = (entry.get? "remediation").getD .null

theorem ruleOf_eq_ok_iff {groups : List RuleGroup} {entry : Value} {r : Rule} :
    ruleOf groups checks entry = .ok r ↔ OfEntry groups checks entry r := by
  simp only [ruleOf, bind_eq_ok, fieldOf_eq_ok_iff]
  constructor
  · rintro ⟨id, hid, title, ht, v, hv, g, hg, w, hw, l, hl, check, hcheck, h⟩
    obtain rfl := Except.ok.inj h
    exact ⟨⟨id, hid, rfl⟩, ht, ⟨v, hv, hg⟩, ⟨w, hw, hl⟩, hcheck, rfl, rfl, rfl, rfl⟩
  · rintro ⟨⟨id, hid, e⟩, ht, ⟨v, hv, hg⟩, ⟨w, hw, hl⟩, hcheck, hi, hc, hs, hr⟩
    refine ⟨id, hid, _, ht, v, hv, _, hg, w, hw, _, hl, _, e ▸ hcheck, ?_⟩
    rw [← hi, ← hc, ← hs, ← hr, ← e]
    rfl

/-! ## Documents -/

/-- The catalog of the groups and rules of a document. -/
def assemble (path : Path) (groups : List RuleGroup) (rules : List Rule) : Catalog where
  path
  groups := groups.mergeSort fun a b => a.number ≤ b.number
  rules := rules.mergeSort fun a b => a.id ≤ b.id

theorem entries_eq_ok_iff {entries : List Value × List Value} :
    (entriesOf document).mapError (faulty path) = .ok entries ↔ entriesOf document = .ok entries := by
  cases entriesOf document <;> simp [Except.mapError]

/-- A document makes a catalog if nothing is wrong with its entries and the numbers of its groups
can be read. -/
theorem ofDocument_eq_ok_iff :
    ofDocument path checks document = .ok catalog ↔
      ∃ entries, entriesOf document = .ok entries ∧
        problems entries.1 entries.2 checks.ids = .ok [] ∧
        ∃ groups rules, entries.1.mapM groupOf = .ok groups ∧
          entries.2.mapM (ruleOf groups checks) = .ok rules ∧
          catalog = assemble path groups rules := by
  rw [ofDocument, bind_eq_ok]
  refine exists_congr fun entries => ?_
  rw [entries_eq_ok_iff, bind_eq_ok]
  refine and_congr_right fun _ => ?_
  constructor
  · rintro ⟨_ | ⟨problem, found⟩, hp, h⟩
    · obtain ⟨groups, hg, h⟩ := bind_eq_ok.1 h
      obtain ⟨rules, hr, h⟩ := bind_eq_ok.1 h
      exact ⟨hp, groups, rules, hg, hr, (Except.ok.inj h).symm⟩
    · exact nomatch h
  · rintro ⟨hp, groups, rules, hg, hr, rfl⟩
    refine ⟨[], hp, ?_⟩
    simp only [List.isEmpty_nil, hg, hr, ok_bind]
    rfl

/-! ## Faulty catalogs -/

/-- Entries that can be checked, and groups whose numbers can be read. -/
structure Legible (groups rules : List Value) : Prop where
  group : ∀ g ∈ groups, g.isMap = true → LegibleGroup g
  named : OneNameless groups
  rule : ∀ r ∈ rules, r.isMap = true → LegibleRule r
  number : ∀ g ∈ groups, ∀ v, g.get? "number" = some v → ∃ n, v.toInt = .ok n

theorem groupOf_ok {seen : List Value} {entry id : Value} (h : SoundGroup seen entry id)
    (number : ∀ v, entry.get? "number" = some v → ∃ n, v.toInt = .ok n) :
    ∃ g, groupOf entry = .ok g := by
  obtain ⟨v, hv⟩ := Condition.has_iff.1 h.number
  obtain ⟨n, hn⟩ := number v hv
  obtain ⟨title, ht⟩ := Condition.has_iff.1 h.title
  exact ⟨⟨id, n, title, _, _⟩, groupOf_eq_ok_iff.2 ⟨h.held, ⟨v, hv, hn⟩, ht, rfl, rfl⟩⟩

/-- The ids of groups are those of their entries. -/
theorem groupIds_eq {entries : List Value} {groups : List RuleGroup}
    (h : entries.mapM groupOf = .ok groups) : groupIds entries = groups.map (·.id) := by
  have made := mapM_eq_ok.1 h
  clear h
  induction made with
  | nil => rfl
  | cons here _ ih =>
    rw [List.map_cons, ← ih]
    exact List.filterMap_cons_some (groupOf_eq_ok_iff.1 here).1

theorem groupNamed_ok {groups : List RuleGroup} {id : Value}
    (h : isKnown id (groups.map (·.id)) = true) : ∃ g, groupNamed groups id = .ok g := by
  have found : (groups.find? fun g => isKnown id [g.id]).isSome = true := by
    simpa [isKnown, List.find?_isSome] using h
  obtain ⟨g, hg⟩ := Option.isSome_iff_exists.1 found
  exact ⟨g, by rw [groupNamed, hg]⟩

theorem levelOf_ok {l : String} (h : l ∈ levels) : ∃ level, levelOf (.text l) = .ok level := by
  simp only [levels, List.mem_cons, List.not_mem_nil, or_false] at h
  rcases h with rfl | rfl
  · exact ⟨.error, by with_unfolding_all rfl⟩
  · exact ⟨.warning, by with_unfolding_all rfl⟩

theorem checkOf_ok {id : String} (h : id ∈ checks.ids) : ∃ check, checkOf checks id = .ok check := by
  have found : (checks.lookup id).isSome = true := by
    obtain ⟨entry, he, rfl⟩ := List.mem_map.1 h
    exact List.lookup_isSome_iff.2 ⟨entry, he, beq_self_eq_true _⟩
  obtain ⟨check, hc⟩ := Option.isSome_iff_exists.1 found
  exact ⟨check, by rw [checkOf, hc]⟩

theorem ruleOf_ok {groups : List RuleGroup} {seen : List Value} {entry : Value} {id : String}
    (h : SoundRule (groups.map (·.id)) checks.ids seen entry id) :
    ∃ r, ruleOf groups checks entry = .ok r := by
  obtain ⟨title, ht⟩ := Condition.has_iff.1 h.title
  obtain ⟨v, hv, -, known⟩ := h.group
  obtain ⟨g, hg⟩ := groupNamed_ok known
  obtain ⟨l, hl, held⟩ := h.level
  obtain ⟨level, hlevel⟩ := levelOf_ok hl
  obtain ⟨check, hcheck⟩ := checkOf_ok h.check
  exact ⟨⟨id, title, g, level, check, _, _, _, _⟩, ruleOf_eq_ok_iff.2
    ⟨⟨_, h.held, rfl⟩, ht, ⟨v, hv, hg⟩, ⟨_, held, hlevel⟩, hcheck, rfl, rfl, rfl, rfl⟩⟩

/-- A document without problems makes a catalog if the numbers of its groups can be read. -/
theorem ofDocument_ok {groups rules : List Value} (entries : entriesOf document = .ok (groups, rules))
    (found : problems groups rules checks.ids = .ok [])
    (number : ∀ g ∈ groups, ∀ v, g.get? "number" = some v → ∃ n, v.toInt = .ok n) :
    ∃ catalog, ofDocument path checks document = .ok catalog := by
  obtain ⟨soundGroups, ids, soundRules, -⟩ := problems_eq_nil_iff.1 found
  obtain ⟨gs, hgs⟩ : ∃ gs, groups.mapM groupOf = .ok gs := mapM_ok fun g hg => by
    obtain ⟨_, _, sound⟩ := soundGroups.exists_sound hg
    exact groupOf_ok sound (number g hg)
  rw [groupIds_eq hgs] at soundRules
  obtain ⟨rs, hrs⟩ : ∃ rs, rules.mapM (ruleOf gs checks) = .ok rs := mapM_ok fun r hr => by
    obtain ⟨_, _, sound⟩ := soundRules.exists_sound hr
    exact ruleOf_ok sound
  exact ⟨_, ofDocument_eq_ok_iff.2 ⟨_, entries, found, gs, rs, hgs, hrs, rfl⟩⟩

/-- A document whose entries can be checked makes a catalog or is reported as a faulty one. -/
theorem ofDocument_reports
    (h : ∀ groups rules, entriesOf document = .ok (groups, rules) → Legible groups rules) :
    (∃ catalog, ofDocument path checks document = .ok catalog) ∨
      ∃ cause, ofDocument path checks document = .error (faulty path cause) := by
  cases entries : entriesOf document with
  | error cause =>
    refine .inr ⟨cause, ?_⟩
    rw [ofDocument, entries]
    rfl
  | ok lists =>
    obtain ⟨groups, rules⟩ := lists
    have legible := h groups rules entries
    obtain ⟨found, hf⟩ := problems_ok legible.group legible.named legible.rule checks.ids
    cases found with
    | nil => exact .inl (ofDocument_ok entries hf legible.number)
    | cons problem others =>
      refine .inr ⟨.problems ((problem :: others).map (·.message)), ?_⟩
      rw [ofDocument, entries]
      simp only [Except.mapError, ok_bind, hf]
      rfl

/-! ## Files -/

/-- A file at a path that can be asked about: if it can be read at all, it holds text, and if that
is a document at all, its entries can be checked. -/
structure LegibleFile (s : Surroundings) (path : Path) : Prop where
  access : s.disk.read path ≠ .error .nullCharacter
  content : ∀ bytes, s.disk.read path = .ok bytes →
    ∃ chars, Text.Utf8.decodeStrict? bytes = some chars ∧
      (Yaml.read depth (Text.foldLineEnds chars) = .error .malformed ∨
        ∃ document, Yaml.read depth (Text.foldLineEnds chars) = .ok document ∧
          ∀ groups rules, entriesOf document = .ok (groups, rules) → Legible groups rules)

/-- The catalog of the file at a path of a disk. -/
def fromDisk (d : Disk) (path : Path) (checks : Registry RuleCheck) : Except Fault Catalog :=
  match d.read path with
  | .error .nullCharacter => .error (.access path .nullCharacter)
  | .error e => .error (faulty path (.unreadable e))
  | .ok bytes =>
    match Text.Utf8.decodeStrict? bytes with
    | none => .error .undecodable
    | some chars =>
      match Yaml.read depth (Text.foldLineEnds chars) with
      | .error .malformed => .error (faulty path .malformed)
      | .error (.fault f) => .error f
      | .ok document => ofDocument path checks document

theorem load_start (path : Path) (checks : Registry RuleCheck) (s : Surroundings) (j : Journal) :
    (load path checks).start s j = (fromDisk s.disk path checks, j) := by
  have asked : (read : Inspect Surroundings).start s j = (.ok s, j) := rfl
  rw [load, fromDisk, Inspect.start_bind, asked]
  dsimp only
  rcases s.disk.read path with e | bytes
  · cases e <;> rfl
  dsimp only
  rcases Text.Utf8.decodeStrict? bytes with _ | chars
  · rfl
  dsimp only
  rcases Yaml.read depth (Text.foldLineEnds chars) with (_ | f) | document
  · rfl
  · rfl
  dsimp only
  rcases ofDocument path checks document with f | catalog
  · rfl
  · rfl

/-- A file whose entries can be checked makes a catalog or is reported as a faulty one. -/
theorem load_reports {s : Surroundings} (h : LegibleFile s path) (checks : Registry RuleCheck)
    (j : Journal) :
    (∃ catalog, (load path checks).start s j = (.ok catalog, j)) ∨
      ∃ cause, (load path checks).start s j = (.error (.invocation (.catalog path cause)), j) := by
  rw [load_start]
  cases content : s.disk.read path with
  | error e =>
    refine .inr ⟨.unreadable e, ?_⟩
    rw [fromDisk, content]
    cases e with
    | nullCharacter => exact absurd content h.access
    | _ => rfl
  | ok bytes =>
    obtain ⟨chars, decoded, malformed | ⟨document, parsed, legible⟩⟩ := h.content bytes content
    · exact .inr ⟨.malformed, by simp only [fromDisk, content, decoded, malformed]; rfl⟩
    · simp only [fromDisk, content, decoded, parsed]
      rcases ofDocument_reports legible with ⟨catalog, made⟩ | ⟨cause, made⟩
      · exact .inl ⟨catalog, by rw [made]⟩
      · exact .inr ⟨cause, by rw [made]; rfl⟩

/-- Whether an entry has nothing that is looked up or read. -/
def isVacant (entry : Value) : Bool := ["id", "number", "condition"].all (!entry.has ·)

theorem legible_of_vacant {group : Value} (h : isVacant group = true) : Legible [group] [] := by
  have lacks : ∀ key ∈ ["id", "number", "condition"], group.get? key = none := by
    simpa [isVacant, Value.has] using h
  refine ⟨?_, List.pairwise_singleton .., List.forall_mem_nil _, ?_⟩
  · rw [List.forall_mem_singleton]
    exact fun _ => ⟨by simp [lacks], by simp [lacks]⟩
  · simp [lacks]

/-- A group without an id is reported. -/
theorem load_reports_nameless :
    let text := "groups:\n- title: A\n"
    let s : Surroundings :=
      ⟨⟨.directory [("catalog.yaml", .file text.toUTF8.toList)], ⟨1, []⟩⟩, fun _ => .notFound⟩
    LegibleFile s ⟨1, ["catalog.yaml"]⟩ ∧
      ((∃ catalog, (load ⟨1, ["catalog.yaml"]⟩ []).start s {} = (.ok catalog, {})) ∨
        ∃ cause, (load ⟨1, ["catalog.yaml"]⟩ []).start s {} =
          (.error (.invocation (.catalog ⟨1, ["catalog.yaml"]⟩ cause)), {})) := by
  intro text s
  have content : s.disk.read ⟨1, ["catalog.yaml"]⟩ = .ok text.toUTF8.toList := by decide +kernel
  have decoded : Text.Utf8.decodeStrict? text.toUTF8.toList = some text.toList := by decide +kernel
  have vacant : (match Yaml.read depth (Text.foldLineEnds text.toList) with
    | .ok document => match entriesOf document with
      | .ok (groups, rules) => groups.length == 1 && groups.all isVacant && rules.isEmpty
      | .error _ => true
    | .error _ => false) = true := by decide +kernel
  have legible : LegibleFile s ⟨1, ["catalog.yaml"]⟩ := by
    refine ⟨by simp [content], fun bytes h => ?_⟩
    obtain rfl := Except.ok.inj (content.symm.trans h)
    refine ⟨_, decoded, .inr ?_⟩
    split at vacant
    · rename_i document parsed
      refine ⟨document, parsed, fun groups rules entries => ?_⟩
      simp only [entries, Bool.and_eq_true, beq_iff_eq, List.isEmpty_iff] at vacant
      obtain ⟨⟨one, each⟩, rfl⟩ := vacant
      obtain ⟨group, rfl⟩ := List.length_eq_one_iff.1 one
      exact legible_of_vacant (List.all_eq_true.1 each group List.mem_cons_self)
    · exact nomatch vacant
  exact ⟨legible, load_reports legible [] {}⟩

/-- Of two groups without an id the second one ends the loading with a fault of another kind. -/
theorem second_group_without_id :
    let text := "groups:\n- number: 1\n  title: A\n- number: 2\n  title: B\n"
    let s : Surroundings :=
      ⟨⟨.directory [("catalog.yaml", .file text.toUTF8.toList)], ⟨1, []⟩⟩, fun _ => .notFound⟩
    ((load ⟨1, ["catalog.yaml"]⟩ []).start s {}).1 = .error (.missingKey "id") := by
  intro text s
  have ends : error? (fromDisk s.disk ⟨1, ["catalog.yaml"]⟩ []) = some (.missingKey "id") := by
    decide +kernel
  rw [load_start]
  exact error?_eq_some.1 ends

end ModuleAudit.Catalog
