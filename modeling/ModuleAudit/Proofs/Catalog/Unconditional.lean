import ModuleAudit.Proofs.Audit.Build
import ModuleAudit.Proofs.Catalog.Applicability

/-!
# Runs of the bundled rules

What later proofs take of the bundled catalog with its own checks is that its rules are `FromBundled`:
bound to the bundled checks, in the scopes that their ids tell, with the ids of the checks. Such rules
run to the end on every module (`FromBundled.start`). Some of them are checked on every connector,
whatever it is and whatever it shares with others (`FromBundled.called`), so the findings on them are
what their checks come to (`FromBundled.finding_of_called`).
-/

namespace ModuleAudit

/-- The severity of a finding is told by the severity of the verdict, or by there being none. -/
theorem Audit.concluded_severity (r : Rule) (x : Except Fault Verdict) :
    (r.concluded (x >>= fun v => .ok (.verdict v))).1 =
      ((x.toOption.map Verdict.severity).map fun severity => severity.getD r.level.severity).getD
        .fail := by
  cases x with
  | error e => rw [error_bind, Audit.concluded_error]; rfl
  | ok v => rw [ok_bind, Audit.concluded_verdict]; rfl

/-- A check makes its rule pass only by saying so. -/
theorem Audit.concluded_pass_iff (r : Rule) (x : Except Fault Verdict) :
    (r.concluded (x >>= fun v => .ok (.verdict v))).1 = .pass ↔
      x.toOption.map Verdict.severity = some (some .pass) := by
  rw [concluded_severity]
  have level : r.level.severity ≠ .pass := by cases r.level <;> exact nofun
  rcases x.toOption.map Verdict.severity with _ | _ | severity <;> simp [level]

namespace Catalog.Bundled

open Audit (Bundled Called concludedOf)

/-- Rules that every connector has to meet by itself. -/
def unconditional : List String := ["CHK-104", "CHK-108", "CHK-401", "CHK-402"]

/-- Whether the entry of one of these rules leaves it to the shared base class. -/
def leavesToBase (entry : Value) : Bool :=
  match entry.get? "id" with
  | some (.text id) => unconditional.contains id && ((entry.get? "inherited").getD (.bool false)).isTruthy
  | _ => false

theorem rules_consistent : rules.all (!leavesToBase ·) = true := by decide +kernel

theorem Scope.condition_acceptable (scope : Scope) : Condition.Acceptable scope.condition :=
  acceptable_of_wellFormed fun _ => scope.condition_wellFormed

theorem unconditional_scope {id : String} (h : id ∈ unconditional) :
    groupScope id = .everywhere ∧ ownScope id = .everywhere := by
  have each : ∀ id ∈ unconditional, groupScope id = .everywhere ∧ ownScope id = .everywhere := by
    decide +kernel
  exact each id h

/-- All that findings show of a rule is text. -/
structure Worded (r : Rule) : Prop where
  title : ∃ text, r.title = .text text
  group : ∃ text, r.group.title = .text text
  remediation : ∃ text, r.remediation = .text text

theorem groupNamed_worded {id : Value} {g : RuleGroup} (named : groupNamed scopedGroups id = .ok g) :
    ∃ text, g.title = .text text := by
  have each : ∀ g ∈ scopedGroups, ∃ text, g.title = .text text := by
    simp only [scopedGroups, scopedGroup, List.forall_mem_cons, Value.text.injEq, exists_eq',
      List.not_mem_nil, false_imp_iff, implies_true, and_self]
  exact each g (groupNamed_eq_ok named).1

theorem Row.worded {e : Value} {id : String} (h : Row e id) {checks : Registry RuleCheck} {r : Rule}
    (made : OfEntry scopedGroups checks e r) : Worded r := by
  obtain ⟨_, -, ofGroup⟩ := made.group
  have title := made.title
  have remediation := made.remediation
  cases h <;>
    exact ⟨⟨_, Option.some.inj (title.symm.trans rule_title)⟩, groupNamed_worded ofGroup,
      ⟨_, by rw [remediation, rule_remediation, Option.getD_some]⟩⟩

/-- The rules of the bundled catalog, bound to the bundled checks. -/
structure FromBundled (rules : List Rule) : Prop where
  ids : (rules.map (·.id)).Perm Registry.bundled.ids
  known : ∀ r ∈ rules, Scoped r
  worded : ∀ r ∈ rules, Worded r
  bound : ∀ r ∈ rules, Bundled r
  notInherited : ∀ r ∈ rules, r.id ∈ unconditional → r.inherited = false

/-- The bundled catalog loads with the bundled checks. -/
theorem fromBundled_load (path : Path) :
    ∃ catalog, ofDocument path Registry.bundledRuleChecks bundledDocument = .ok catalog ∧
      FromBundled catalog.rules := by
  have ids : Registry.bundledRuleChecks.ids = Registry.bundled.ids := List.map_map ..
  obtain ⟨catalog, loaded, perm, known⟩ := bundled_load ids path
  obtain ⟨_, _, read, _, made, ⟨-, ofGroups, ofRules⟩, rfl⟩ := made_iff_ofDocument.1 loaded
  have entries : entriesOf bundledDocument = .ok (Bundled.groups, rules) := by with_unfolding_all rfl
  obtain ⟨rfl, rfl⟩ := Prod.mk.inj (Except.ok.inj (entries.symm.trans read))
  obtain rfl := Except.ok.inj (groups_made.symm.trans ofGroups)
  have written (r : Rule) (hr : r ∈ (assemble path scopedGroups made).rules) :
      ∃ entry ∈ rules, (∃ id, Row entry id) ∧ OfEntry scopedGroups Registry.bundledRuleChecks entry r := by
    obtain ⟨entry, he, ofEntry⟩ := exists_of_mem_mapM ofRules (List.mem_mergeSort.1 hr)
    have each : List.Forall₂ (fun e id => (∃ id, Row e id) ∧ Row e id) rules Registry.bundled.ids :=
      rules_rows.imp fun _ id row => ⟨⟨id, row⟩, row⟩
    exact ⟨entry, he, ((List.forall₂_and_left _ _).1 each).1 entry he, ruleOf_eq_ok_iff.1 ofEntry⟩
  refine ⟨_, loaded, perm, known, fun r hr => ?_, Audit.bundled_of_ofDocument loaded, fun r hr mem => ?_⟩
  · obtain ⟨entry, -, ⟨_, row⟩, ofEntry⟩ := written r hr
    exact row.worded ofEntry
  -- The entry of the rule has its id, and none of these entries leaves a rule to the base class.
  · obtain ⟨entry, he, ⟨_, row⟩, ofEntry⟩ := written r hr
    have consistent := List.all_eq_true.1 rules_consistent entry he
    obtain ⟨v, held, id⟩ := ofEntry.id
    obtain ⟨text, rfl⟩ : ∃ text, v = .text text := by
      cases row <;> exact ⟨_, Option.some.inj (held.symm.trans rule_id)⟩
    obtain rfl : text = r.id := id.symm
    rw [leavesToBase, held] at consistent
    rw [ofEntry.inherited]
    simpa [mem] using consistent

namespace FromBundled

variable {rules : List Rule} {settings : Settings} {files : FileSet} {c : Classification}
  {s : Surroundings} {j : Journal} {r : Rule} {fs : List Finding} (h : FromBundled rules)
include h

theorem distinct : (rules.map (·.id)).Nodup := h.ids.nodup_iff.2 bundled_ids_nodup

theorem exists_rule {id : String} (mem : id ∈ Registry.bundled.ids) : ∃ r ∈ rules, r.id = id :=
  List.mem_map.1 (h.ids.mem_iff.2 mem)

theorem ready (hr : r ∈ rules) (c : Classification) : r.Ready c.facts where
  toExplained := (h.known r hr).explained c
  groupCondition := (h.known r hr).groupCondition ▸ (groupScope r.id).condition_acceptable
  condition := (h.known r hr).condition ▸ (ownScope r.id).condition_acceptable

/-- The rules run to the end on every module. -/
theorem start (settings : Settings) (files : FileSet) (c : Classification) (s : Surroundings)
    (j : Journal) :
    ∃ line fs j', line.source = .engine ∧
      (Audit.findings rules settings files c).start s j = (.ok fs, j') ∧
      Audit.Run settings files c s (Audit.inOrder rules) { j with log := j.log ++ [line] } fs j' :=
  Audit.findings_start (fun _ hr => h.ready hr c) settings files s j

theorem runs (settings : Settings) (files : FileSet) (c : Classification) (s : Surroundings) (j : Journal) :
    ∃ fs, ((Audit.findings rules settings files c).start s j).1 = .ok fs := by
  obtain ⟨_, fs, _, _, start, _⟩ := h.start settings files c s j
  exact ⟨fs, congrArg Prod.fst start⟩

theorem called (hr : r ∈ rules) (mem : r.id ∈ unconditional) (c : Classification) : Called c r := by
  obtain ⟨group, own⟩ := unconditional_scope mem
  refine (h.known r hr).called_iff.2 ⟨by rw [group]; rfl, by rw [own]; rfl, fun left => ?_⟩
  exact Bool.false_ne_true ((h.notInherited r hr mem).symm.trans left.1)

/-- The check of a rule is the bundled one of its id. -/
theorem check_eq {id : String} {check : Check} (hr : r ∈ rules) (same : r.id = id)
    (mem : (id, check) ∈ Registry.bundled) : r.check = check.toRuleCheck := by
  have distinct : Registry.bundledRuleChecks.ids.Nodup := by
    have ids : Registry.bundledRuleChecks.ids = Registry.bundled.ids := List.map_map ..
    exact ids ▸ bundled_ids_nodup
  have listed : (r.id, check.toRuleCheck) ∈ Registry.bundledRuleChecks :=
    same ▸ List.mem_map_of_mem (f := fun entry => (entry.1, entry.2.toRuleCheck)) mem
  exact Option.some.inj ((h.bound r hr).symm.trans (Registry.lookup_of_mem distinct listed))

/-- The finding on a rule of which the check is called is what the check comes to. -/
theorem finding_of_called (run : ((Audit.findings rules settings files c).start s j).1 = .ok fs)
    (hr : r ∈ rules) (called : Called c r) :
    concludedOf r ((r.check files settings).answer s) ∈ fs ∧
      ∀ f ∈ fs, f.ruleId = r.id → f = concludedOf r ((r.check files settings).answer s) := by
  rw [Audit.findings_fst h.bound] at run
  have here := Audit.found_of_called called ((r.check files settings).answer s)
  constructor
  · obtain ⟨f, mem, made⟩ := exists_mem_mapM run (List.mem_mergeSort.2 hr)
    exact Except.ok.inj (here.symm.trans made) ▸ mem
  · intro f mem id
    obtain ⟨r', hr', made⟩ := exists_of_mem_mapM run mem
    obtain rfl : r' = r := List.inj_on_of_nodup_map h.distinct (List.mem_mergeSort.1 hr') hr
      ((Audit.found_eq_ok made).1.symm.trans id)
    exact Except.ok.inj (made.symm.trans here)

/-- There is a finding on a rule that is checked on every connector, and it passes exactly if the check
says so. -/
theorem pass_iff {id : String} {check : Check} (mem : (id, check) ∈ Registry.bundled)
    (each : id ∈ unconditional)
    (run : ((Audit.findings rules settings files c).start s j).1 = .ok fs) :
    (∃ f ∈ fs, f.ruleId = id) ∧ ∀ f ∈ fs, f.ruleId = id →
      (f.severity = .pass ↔
        ((check files settings).answer s).toOption.map Verdict.severity = some (some .pass)) := by
  obtain ⟨r, hr, rfl⟩ := h.exists_rule (List.mem_map_of_mem mem)
  obtain ⟨here, unique⟩ := h.finding_of_called run hr (h.called hr each c)
  have concluded : (concludedOf r ((r.check files settings).answer s)).severity = .pass ↔
      ((check files settings).answer s).toOption.map Verdict.severity = some (some .pass) := by
    rw [h.check_eq hr rfl mem, Audit.toRuleCheck_answer]
    exact Audit.concluded_pass_iff r _
  exact ⟨⟨_, here, rfl⟩, fun f hf id => unique f hf id ▸ concluded⟩

end FromBundled

end Catalog.Bundled

end ModuleAudit
