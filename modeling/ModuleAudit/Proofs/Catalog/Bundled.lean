import ModuleAudit.Catalog.Bundled
import ModuleAudit.Proofs.Catalog.Advisory
import ModuleAudit.Proofs.Checks.Steady

/-!
# The bundled catalog

Which connectors a rule of the bundled catalog applies to is told by its id: the group by its first
digit (`groupScope`), and a narrower scope by the lists of the rules that have one (`ownScope`).

* `Scope.evaluate_condition`, `Scope.skipText_skip`: what the condition and the skip message of a
  scope come to for a connector;
* `rules_rows`: the entries of the catalog are written by their ids (`Row`);
* `bundled_load`: the catalog loads with any checks of its ids, and its rules have the scopes that
  their ids tell (`Scoped`).
-/

namespace ModuleAudit.Catalog.Bundled

/-! ## Scopes -/

/-- The connectors to which a group or a rule applies. -/
inductive Scope
  | everywhere
  | reading
  | writing
  | standalone
  | baseDelegated
  | warehouse
  | activation
  deriving DecidableEq, Repr

namespace Scope

/-- What the entry of a group or a rule says of its scope. -/
def fields : Scope → List (String × Value)
  | everywhere => []
  | reading => onlyIf "capability.source" (.bool true) otherPurpose
  | writing => onlyIf "capability.destination" (.bool true) otherPurpose
  | standalone => standaloneOnly
  | baseDelegated => baseDelegatedOnly
  | warehouse => warehouseOnly
  | activation => activationOnly

/-- The condition of the scope. -/
def condition (scope : Scope) : Value := ((entry scope.fields).get? "condition").getD .null

/-- The skip message of the scope, as it is written. -/
def skip (scope : Scope) : Value := ((entry scope.fields).get? "skip").getD defaultSkip

/-- Whether a connector is in the scope. -/
def holds (c : Classification) : Scope → Bool
  | everywhere => true
  | reading => c.hasSource
  | writing => c.hasDestination
  | standalone => c.delegation == .standalone
  | baseDelegated => c.delegation == .baseDelegated
  | warehouse => c.subtype == .warehouse
  | activation => c.subtype == .activation

/-- What is said of a connector that is not in the scope. -/
def message (c : Classification) : Scope → String
  | everywhere => "not applicable"
  | reading | writing => "not applicable — " ++ c.purpose
  | standalone => "not applicable — base-delegated connector"
  | baseDelegated => "not applicable — standalone connector"
  | warehouse => "not applicable — activation destination"
  | activation => "not applicable — warehouse destination"

end Scope

/-! ### Conditions -/

/-- The condition that a fact has a value. -/
def equality (fact : String) (value : Value) : Value :=
  entry [("fact", .text fact), ("op", .text "eq"), ("value", value)]

theorem condition_onlyIf (fact : String) (value : Value) (skip : String) :
    (entry (onlyIf fact value skip)).get? "condition" = some (equality fact value) := by
  with_unfolding_all rfl

theorem evaluate_equality {facts : Facts} {fact : String} {actual : Value}
    (known : facts.lookup fact = some actual) (value : Value) :
    Condition.evaluate facts (equality fact value) = .ok (actual.equals value) := by
  have noAll : (equality fact value).get? "all" = none := by with_unfolding_all rfl
  have noAny : (equality fact value).get? "any" = none := by with_unfolding_all rfl
  have leaf : Condition.evaluateLeaf facts (equality fact value) = .ok (actual.equals value) := by
    have named : (equality fact value).get? "fact" = some (.text fact) := by with_unfolding_all rfl
    have compared : (equality fact value).get? "op" = some (.text "eq") := by with_unfolding_all rfl
    have asked : (equality fact value).get? "value" = some value := by with_unfolding_all rfl
    rw [Condition.evaluateLeaf_eq named compared asked, known]
    rfl
  rw [equality, entry] at noAll noAny leaf ⊢
  rw [Condition.evaluate_map, noAll, noAny]
  exact leaf

namespace Scope

theorem evaluate_condition (scope : Scope) (c : Classification) :
    Condition.evaluate c.facts scope.condition = .ok (scope.holds c) := by
  have known : c.facts.lookup "delegation" = some (.text c.delegation.word) ∧
      c.facts.lookup "capability.source" = some (.bool c.hasSource) ∧
      c.facts.lookup "capability.destination" = some (.bool c.hasDestination) ∧
      c.facts.lookup "destination.subtype" = some (.text c.subtype.word) :=
    ⟨rfl, rfl, rfl, rfl⟩
  obtain ⟨delegation, source, destination, subtype⟩ := known
  have asked {fact skip : String} {actual value : Value} (known : c.facts.lookup fact = some actual) :
      Condition.evaluate c.facts (((entry (onlyIf fact value skip)).get? "condition").getD .null) =
        .ok (actual.equals value) := by
    rw [condition_onlyIf, Option.getD_some]
    exact evaluate_equality known value
  cases scope with
  | everywhere => rw [condition, holds]; exact Condition.evaluate.eq_1 ..
  | reading => rw [condition, fields, asked source, holds]; cases c.hasSource <;> decide +kernel
  | writing => rw [condition, fields, asked destination, holds]; cases c.hasDestination <;> decide +kernel
  | standalone | baseDelegated =>
    rw [condition, fields]
    exact (asked delegation).trans (by rw [holds]; cases c.delegation <;> decide +kernel)
  | warehouse | activation =>
    rw [condition, fields]
    exact (asked subtype).trans (by rw [holds]; cases c.subtype <;> decide +kernel)

theorem condition_wellFormed (scope : Scope) {condition : Value}
    (h : (entry scope.fields).get? "condition" = some condition) : Condition.WellFormed condition := by
  have checked {fact skip : String} {value : Value}
      (h : (entry (onlyIf fact value skip)).get? "condition" = some condition)
      (sound : Condition.check "condition" (equality fact value) = .ok []) :
      Condition.WellFormed condition := by
    rw [condition_onlyIf] at h
    exact Option.some.inj h ▸ Condition.wellFormed_of_check sound
  cases scope with
  | everywhere => exact nomatch h
  | _ => exact checked h (by decide +kernel)

theorem not_inherited (scope : Scope) :
    (((entry scope.fields).get? "inherited").getD (.bool false)).isTruthy = false := by
  cases scope <;> with_unfolding_all rfl

end Scope

/-! ### Skip messages -/

theorem lookUp_purpose {facts : Facts} {v : Value} (known : facts.lookup "purpose" = some v) :
    Template.lookUp facts "purpose".toList = .ok (.value v) := by
  have first : ("purpose".toList.takeWhile fun c => c != '.' && c != '[') = "purpose".toList := by
    decide +kernel
  have noIndex : Template.index? "purpose".toList = .ok none := by decide +kernel
  simp only [Template.lookUp, first, noIndex, ok_bind, String.ofList_toList, known]
  rfl

theorem fill_otherPurpose {facts : Facts} {purpose : String}
    (known : facts.lookup "purpose" = some (.text purpose)) :
    Template.fill facts otherPurpose = .ok ("not applicable — " ++ purpose) := by
  have parts : Template.segments otherPurpose.toList =
      [.ok (.literal "not applicable — ".toList), .ok (.field ⟨"purpose".toList, none, []⟩)] := by
    decide +kernel
  have filled : Template.fillAt facts 2 otherPurpose.toList =
      .ok ("not applicable — ".toList ++ purpose.toList) := by
    rw [Template.fillAt, parts]
    simp only [List.mapM_cons, List.mapM_nil, lookUp_purpose known, ok_bind]
    simp [Template.convert, Template.FieldLayout.apply]
    rfl
  rw [Template.fill, filled]
  change Except.ok _ = _
  rw [String.ofList_append, String.ofList_toList, String.ofList_toList]

theorem skip_onlyIf (fact : String) (value : Value) (skip : String) :
    (entry (onlyIf fact value skip)).get? "skip" = some (.text skip) := by with_unfolding_all rfl

namespace Scope

theorem skipText_skip (scope : Scope) (c : Classification) :
    Rule.skipText c.facts scope.skip = .ok (scope.message c) := by
  have filled {fact skip : String} {value : Value} :
      Rule.skipText c.facts (((entry (onlyIf fact value skip)).get? "skip").getD defaultSkip) =
        Template.fill c.facts skip := by
    rw [skip_onlyIf]
    rfl
  have purpose : Template.fill c.facts otherPurpose = .ok ("not applicable — " ++ c.purpose) :=
    fill_otherPurpose rfl
  cases scope with
  | everywhere => rfl
  | reading | writing => exact filled.trans purpose
  | _ => exact filled.trans rfl

end Scope

/-! ## Rules by their ids -/

/-- The number in a rule's id starts with some digits. -/
def Numbered (digits : List Char) (id : String) : Prop := ['C', 'H', 'K', '-'] ++ digits <+: id.toList

instance (digits : List Char) (id : String) : Decidable (Numbered digits id) :=
  inferInstanceAs (Decidable (_ <+: _))

/-- The id of the group of a rule, and the scope of the group. -/
def family (id : String) : String × Scope :=
  if Numbered ['1'] id then (Bundled.identity, .everywhere)
  else if Numbered ['2'] id then (Bundled.source, .reading)
  else if Numbered ['3'] id then (Bundled.destination, .writing)
  else (Bundled.crosscutting, .everywhere)

/-- The scope of the group of a rule. -/
def groupScope (id : String) : Scope := (family id).2

/-- The scope of a rule in its group. -/
def ownScope (id : String) : Scope :=
  if Numbered ['3', '1'] id then .warehouse
  else if Numbered ['3', '2'] id then .activation
  else if Numbered ['2', '0', '9'] id then .standalone
  else if Numbered ['2', '1', '8'] id then .baseDelegated
  else .everywhere

/-- The entry of a rule that is written by its id. Only rules that apply to every connector of their
group are inherited. -/
inductive Row : Value → String → Prop
  | own {id group title level remediation} (scope : Scope)
      (named : isRuleId id = true ∧ (family id).1 = group ∧ ownScope id = scope) :
      Row (rule id group title level remediation scope.fields) id
  | inherited {id group title level remediation}
      (named : isRuleId id = true ∧ (family id).1 = group ∧ ownScope id = .everywhere) :
      Row (rule id group title level remediation Bundled.inherited) id

theorem rules_rows : List.Forall₂ Row rules Registry.bundled.ids := by
  simp only [rules, Registry.bundled, Registry.ids, List.map_cons, List.map_nil]
  repeat first
    | exact .nil
    | refine .cons (.inherited (by decide +kernel)) ?_
    | refine .cons (.own .everywhere (by decide +kernel)) ?_
    | refine .cons (.own .warehouse (by decide +kernel)) ?_
    | refine .cons (.own .activation (by decide +kernel)) ?_
    | refine .cons (.own .standalone (by decide +kernel)) ?_
    | refine .cons (.own .baseDelegated (by decide +kernel)) ?_

/-! ### Entries of rules -/

section Entry

variable {id group title remediation : String} {level : RuleLevel} {more : List (String × Value)}

theorem rule_condition : (rule id group title level remediation more).get? "condition" =
    (entry more).get? "condition" := by with_unfolding_all rfl

theorem rule_skip : (rule id group title level remediation more).get? "skip" =
    (entry more).get? "skip" := by with_unfolding_all rfl

theorem rule_inherited : (rule id group title level remediation more).get? "inherited" =
    (entry more).get? "inherited" := by with_unfolding_all rfl

theorem rule_group : (rule id group title level remediation more).get? "group" =
    some (.text group) := by with_unfolding_all rfl

theorem rule_id : (rule id group title level remediation more).get? "id" = some (.text id) := by
  with_unfolding_all rfl

theorem rule_title : (rule id group title level remediation more).get? "title" = some (.text title) := by
  with_unfolding_all rfl

theorem rule_remediation : (rule id group title level remediation more).get? "remediation" =
    some (.text remediation) := by with_unfolding_all rfl

/-- The ids of the groups. -/
def groupNames : List Value := [.text identity, .text source, .text destination, .text crosscutting]

theorem family_known (id : String) : isKnown (.text (family id).1) groupNames = true := by
  unfold family
  split
  · decide +kernel
  split
  · decide +kernel
  split <;> decide +kernel

theorem level_written (level : RuleLevel) : level.word ∈ levels := by
  cases level <;> decide

theorem rule_sound {checked : List String} {seen : List Value}
    (named : isRuleId id = true ∧ (family id).1 = group)
    (condition : ∀ c, (entry more).get? "condition" = some c → Condition.WellFormed c)
    (check : id ∈ checked) (new : isKnown (.text id) seen = false) :
    SoundRule groupNames checked seen (rule id group title level remediation more) id where
  isMap := rfl
  held := rule_id
  title := by with_unfolding_all rfl
  form := isRuleId_iff.1 named.1
  new
  check
  group := ⟨.text group, rule_group, rfl, named.2 ▸ family_known id⟩
  level := ⟨level.word, level_written level, by with_unfolding_all rfl⟩
  condition := fun c h => condition c (rule_condition.symm.trans h)

end Entry

theorem Row.sound {e : Value} {id : String} (h : Row e id) {checked : List String}
    (check : id ∈ checked) {seen : List Value} (new : isKnown (.text id) seen = false) :
    SoundRule groupNames checked seen e id := by
  cases h with
  | own scope named =>
    exact rule_sound ⟨named.1, named.2.1⟩ (fun c h => scope.condition_wellFormed h) check new
  | inherited named =>
    exact rule_sound ⟨named.1, named.2.1⟩ (fun c h => absurd h (by with_unfolding_all nofun)) check new

/-! ### Groups -/

/-- A group of the bundled catalog. -/
def scopedGroup (id : String) (number : Int) (title : String) (scope : Scope) : RuleGroup where
  id := .text id
  number
  title := .text title
  condition := scope.condition
  skip := scope.skip

/-- The groups of the bundled catalog. -/
def scopedGroups : List RuleGroup := [
  scopedGroup identity 1 "Identity and build" .everywhere,
  scopedGroup source 2 "Source capability" .reading,
  scopedGroup destination 3 "Destination capability" .writing,
  scopedGroup crosscutting 4 "Cross-cutting" .everywhere]

theorem groups_made : groups.mapM groupOf = .ok scopedGroups := by with_unfolding_all rfl

/-- A rule is in the group with the scope that its id tells. -/
theorem family_group {id : String} {g : RuleGroup}
    (named : groupNamed scopedGroups (.text (family id).1) = .ok g) :
    g.condition = (groupScope id).condition ∧ g.skip = (groupScope id).skip := by
  have of {group : String} {scope : Scope} {made : RuleGroup} (h : family id = (group, scope))
      (first : groupNamed scopedGroups (.text group) = .ok made)
      (condition : made.condition = scope.condition) (skip : made.skip = scope.skip) :
      g.condition = (groupScope id).condition ∧ g.skip = (groupScope id).skip := by
    rw [h, first] at named
    rw [groupScope, h, ← Except.ok.inj named]
    exact ⟨condition, skip⟩
  by_cases first : Numbered ['1'] id
  · exact of (if_pos first) (by with_unfolding_all rfl) rfl rfl
  by_cases second : Numbered ['2'] id
  · exact of (by rw [family, if_neg first, if_pos second]) (by with_unfolding_all rfl) rfl rfl
  by_cases third : Numbered ['3'] id
  · exact of (by rw [family, if_neg first, if_neg second, if_pos third])
      (by with_unfolding_all rfl) rfl rfl
  · exact of (by rw [family, if_neg first, if_neg second, if_neg third])
      (by with_unfolding_all rfl) rfl rfl

theorem group_sound {id title : String} {number : Int} (scope : Scope) {seen : List Value}
    (new : isKnown (.text id) seen = false) :
    SoundGroup seen (group id number title scope.fields) (.text id) where
  isMap := rfl
  held := by with_unfolding_all rfl
  number := by with_unfolding_all rfl
  title := by with_unfolding_all rfl
  hashable := rfl
  new
  condition := fun c h => scope.condition_wellFormed (h ▸ by with_unfolding_all rfl)

theorem groups_sound : SoundGroups [] groups :=
  .cons (group_sound .everywhere rfl) <|
    .cons (group_sound .reading (by decide +kernel)) <|
    .cons (group_sound .writing (by decide +kernel)) <|
    .cons (group_sound .everywhere (by decide +kernel)) .nil

/-! ## Loading -/

/-- The rule and its group have the scopes that the id of the rule tells. -/
structure Scoped (r : Rule) : Prop where
  groupCondition : r.group.condition = (groupScope r.id).condition
  groupSkip : r.group.skip = (groupScope r.id).skip
  condition : r.condition = (ownScope r.id).condition
  skip : r.skip = (ownScope r.id).skip
  inherited : r.inherited = true → ownScope r.id = .everywhere

/-- What the entry of a rule says beside the fields that all rules have decides on the scope. -/
theorem rule_scoped {id group title remediation : String} {level : RuleLevel}
    {more : List (String × Value)} {checks : Registry RuleCheck} {r : Rule}
    (made : OfEntry scopedGroups checks (rule id group title level remediation more) r)
    (named : (family id).1 = group)
    (condition : ((entry more).get? "condition").getD .null = (ownScope id).condition)
    (skip : ((entry more).get? "skip").getD defaultSkip = (ownScope id).skip)
    (inherited : (((entry more).get? "inherited").getD (.bool false)).isTruthy = true →
      ownScope id = .everywhere) : Scoped r := by
  obtain ⟨_, held, ofId⟩ := made.id
  obtain ⟨_, heldGroup, ofGroup⟩ := made.group
  rw [rule_id, Option.some.injEq] at held
  rw [rule_group, Option.some.injEq] at heldGroup
  subst held heldGroup named
  obtain rfl : r.id = id := ofId
  obtain ⟨groupCondition, groupSkip⟩ := family_group ofGroup
  refine ⟨groupCondition, groupSkip, ?_, ?_, fun marked => inherited ?_⟩
  · rw [made.condition, rule_condition, condition]
  · rw [made.skip, rule_skip, skip]
  · rw [← marked, made.inherited, rule_inherited]

theorem Row.made_scoped {e : Value} {id : String} (h : Row e id) {checks : Registry RuleCheck} {r : Rule}
    (made : OfEntry scopedGroups checks e r) : Scoped r := by
  cases h with
  | own scope named =>
    obtain ⟨-, group, rfl⟩ := named
    refine rule_scoped made group rfl rfl fun marked => ?_
    rw [Scope.not_inherited] at marked
    exact nomatch marked
  | inherited named =>
    obtain ⟨-, group, everywhere⟩ := named
    refine rule_scoped made group ?_ ?_ fun _ => everywhere
    · rw [everywhere]
      with_unfolding_all rfl
    · rw [everywhere]
      with_unfolding_all rfl

/-- The bundled catalog loads with any checks of its ids. Its rules have these ids, and the scopes
that the ids tell. -/
theorem bundled_load {checks : Registry RuleCheck} (ids : checks.ids = Registry.bundled.ids)
    (path : Path) :
    ∃ catalog, ofDocument path checks bundledDocument = .ok catalog ∧
      (catalog.rules.map (·.id)).Perm Registry.bundled.ids ∧ ∀ r ∈ catalog.rules, Scoped r := by
  have entries : entriesOf bundledDocument = .ok (groups, rules) := by with_unfolding_all rfl
  have known : groupIds groups = groupNames := by with_unfolding_all rfl
  -- Each entry is sound by its row, and the ids of the rows are those of the checks.
  have rows : List.Forall₂ (fun e id => id ∈ checks.ids ∧ Row e id) rules checks.ids :=
    ((List.forall₂_and_left _ _).2 ⟨fun _ h => h, ids ▸ rules_rows.flip⟩).flip
  have rulesSound : SoundRules groupNames checks.ids [] rules checks.ids := by
    refine soundRules_of_nodup (rows.imp ?_) (ids ▸ bundled_ids_nodup) fun _ _ => rfl
    exact fun e id row seen new => row.2.sound row.1 new
  have sound : problems groups rules checks.ids = .ok [] :=
    problems_eq_nil_iff.2 ⟨groups_sound, checks.ids, known ▸ rulesSound, fun _ h => h⟩
  obtain ⟨made, ofRules⟩ : ∃ made, rules.mapM (ruleOf scopedGroups checks) = .ok made :=
    mapM_ok fun e he => by
      obtain ⟨_, _, sound⟩ := rulesSound.exists_sound he
      exact ruleOf_ok sound
  have loaded := (Made.mk sound groups_made ofRules).load entries path
  have perm : (assemble path scopedGroups made).rules.Perm made := List.mergeSort_perm ..
  refine ⟨_, loaded, ?_, fun r hr => ?_⟩
  · rw [← ids, ← rulesSound.ids_eq (mapM_eq_ok.1 ofRules)]
    exact perm.map _
  · obtain ⟨e, he, ofEntry⟩ := exists_of_mem_mapM ofRules (perm.mem_iff.1 hr)
    obtain ⟨_, row⟩ : ∃ id, Row e id := by
      have each : List.Forall₂ (fun e id => (∃ id, Row e id) ∧ Row e id) rules Registry.bundled.ids :=
        rules_rows.imp fun _ id row => ⟨⟨id, row⟩, row⟩
      exact ((List.forall₂_and_left _ _).1 each).1 e he
    exact row.made_scoped (ruleOf_eq_ok_iff.1 ofEntry)

end ModuleAudit.Catalog.Bundled
