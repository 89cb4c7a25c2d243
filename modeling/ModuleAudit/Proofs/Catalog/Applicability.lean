import ModuleAudit.Proofs.Catalog.Bundled
import ModuleAudit.Proofs.Connector.Classification
import ModuleAudit.Proofs.Connector.Delegation
import ModuleAudit.Proofs.Java.Mention

/-!
# Which bundled rules apply to a connector class

The text of a connector class decides which rules of the bundled catalog apply to its module: the
capability words that stand in the code (`Reads`, `Writes`), the superclass, and the kind of
destination.

* `Scoped.called_iff`, `Scoped.cases_step`: what becomes of a rule whose scope is known;
* `followsSource`: a complete run of rules with the scopes of the bundled catalog follows the text of
  the connector class (`FollowsSource`);
* `bundled_follows`: so does every run of the bundled catalog, and it always comes to its end.
-/

namespace ModuleAudit

open Java (StandsIn)

namespace Classification

/-- The class declares that it reads data. -/
def Reads (text : List Char) : Prop := StandsIn "REPLICATION_SOURCE".toList text

/-- The class declares that it writes data. -/
def Writes (text : List Char) : Prop :=
  StandsIn "REPLICATION_DESTINATION".toList text ∨ StandsIn "REVERSE_ETL_DESTINATION".toList text

theorem hasSource_iff (s : Java.Source) : (ofSource s).hasSource = true ↔ Reads s.text := by
  change s.mentions sourceCapabilities = true ↔ _
  rw [Java.Source.mentions_iff (by decide +kernel)]
  simp [sourceCapabilities, Reads]

theorem hasDestination_iff (s : Java.Source) : (ofSource s).hasDestination = true ↔ Writes s.text := by
  change s.mentions destinationCapabilities = true ↔ _
  rw [Java.Source.mentions_iff (by decide +kernel)]
  simp [destinationCapabilities, Writes]

/-- A connector is a destination of some kind exactly if it writes data. -/
theorem subtype_eq_none_iff (s : Java.Source) :
    (ofSource s).subtype = .none ↔ ¬ Writes s.text := by
  have kind : destinationSubtype s ≠ .none := by
    rw [destinationSubtype_eq]
    split <;> exact nofun
  rw [← hasDestination_iff]
  simp only [ofSource]
  split <;> simp_all

theorem delegation_of_superclass {s : Java.Source} (h : s.superclass = some "BaseJdbcConnector") :
    (ofSource s).delegation = .baseDelegated :=
  (delegates_iff s).2 ⟨_, List.mem_singleton_self _, h⟩

end Classification

namespace Catalog.Bundled

variable {settings : Settings} {files : FileSet} {c : Classification} {s : Surroundings}
  {rules : List Rule} {j j' : Journal} {fs : List Finding} {f : Finding} {r : Rule}

/-! ## Rules whose scope is known -/

theorem Scoped.group_evaluate (h : Scoped r) (c : Classification) :
    Condition.evaluate c.facts r.group.condition = .ok ((groupScope r.id).holds c) := by
  rw [h.groupCondition, Scope.evaluate_condition]

theorem Scoped.own_evaluate (h : Scoped r) (c : Classification) :
    Condition.evaluate c.facts r.condition = .ok ((ownScope r.id).holds c) := by
  rw [h.condition, Scope.evaluate_condition]

theorem Scoped.explained (h : Scoped r) (c : Classification) : r.Explained c.facts where
  group _ := ⟨_, h.groupSkip ▸ Scope.skipText_skip _ c⟩
  own _ _ := ⟨_, h.skip ▸ Scope.skipText_skip _ c⟩

theorem Scoped.called_iff (h : Scoped r) :
    Audit.Called c r ↔ (groupScope r.id).holds c = true ∧ (ownScope r.id).holds c = true ∧
      ¬ r.LeftToBase c := by
  have applies : r.Applies c.facts ↔
      (groupScope r.id).holds c = true ∧ (ownScope r.id).holds c = true := by
    rw [Rule.applies_iff, h.group_evaluate, h.own_evaluate, Except.ok.injEq, Except.ok.injEq]
  constructor
  · rintro ⟨here, base⟩
    exact ⟨(applies.1 here).1, (applies.1 here).2, base⟩
  · rintro ⟨group, own, base⟩
    exact ⟨applies.2 ⟨group, own⟩, base⟩

/-- A rule of a narrower scope is not inherited, so its check is called wherever it applies. -/
theorem Scoped.called_iff_narrow (h : Scoped r) (narrow : ownScope r.id ≠ .everywhere) :
    Audit.Called c r ↔ (groupScope r.id).holds c = true ∧ (ownScope r.id).holds c = true := by
  have base : ¬ r.LeftToBase c := fun base => narrow (h.inherited base.1)
  rw [h.called_iff, and_iff_left base]

/-- What becomes of a rule whose scope is known: the group leaves the connector out, or the rule does,
or a shared base class takes care of the rule, or its check is called. -/
theorem Scoped.cases_step (h : Scoped r) (step : Audit.Step settings files c s r j f j') :
    ((groupScope r.id).holds c = false ∧ f.severity = .skip ∧
      f.message = (groupScope r.id).message c) ∨
    ((groupScope r.id).holds c = true ∧ (ownScope r.id).holds c = false ∧ f.severity = .skip ∧
      f.message = (ownScope r.id).message c) ∨
    ((groupScope r.id).holds c = true ∧ r.LeftToBase c ∧ f.severity = .pass ∧
      f.message = "inherited from base") ∨
    Audit.Called c r := by
  have group {b : Bool} (evaluated : Condition.evaluate c.facts r.group.condition = .ok b) :
      (groupScope r.id).holds c = b := Except.ok.inj ((h.group_evaluate c).symm.trans evaluated)
  have own {b : Bool} (evaluated : Condition.evaluate c.facts r.condition = .ok b) :
      (ownScope r.id).holds c = b := Except.ok.inj ((h.own_evaluate c).symm.trans evaluated)
  cases step with
  | groupFails fails message tells =>
    have told := h.groupSkip ▸ Scope.skipText_skip (groupScope r.id) c
    have reason := Except.ok.inj (message.symm.trans told)
    exact .inl ⟨group fails, tells.severity, tells.message.trans reason⟩
  | ownFails holds fails message tells =>
    have told := h.skip ▸ Scope.skipText_skip (ownScope r.id) c
    have reason := Except.ok.inj (message.symm.trans told)
    exact .inr (.inl ⟨group holds, own fails, tells.severity, tells.message.trans reason⟩)
  | inherited applies base tells =>
    exact .inr (.inr (.inl ⟨group applies.group, base, tells.severity, tells.message⟩))
  | called applies base => exact .inr (.inr (.inr ⟨applies, base⟩))

/-- A rule that is left to the base class passes as inherited, or its group leaves the connector out. -/
theorem Scoped.step_leftToBase (h : Scoped r) (left : r.LeftToBase c)
    (step : Audit.Step settings files c s r j f j') :
    (f.severity = .pass ∧ f.message = "inherited from base") ∨
    (Condition.evaluate c.facts r.group.condition = .ok false ∧ f.severity = .skip ∧
      Rule.skipText c.facts r.group.skip = .ok f.message) := by
  rcases h.cases_step step with
    ⟨out, skip, message⟩ | ⟨-, out, -⟩ | ⟨-, -, pass, message⟩ | called
  · refine .inr ⟨out ▸ h.group_evaluate c, skip, ?_⟩
    rw [h.groupSkip, Scope.skipText_skip, message]
  · rw [h.inherited left.1] at out
    cases out
  · exact .inl ⟨pass, message⟩
  · exact absurd left called.base

/-! ## Rules by their numbers -/

section Numbered

variable {digits digits' : List Char} {id : String}

theorem Numbered.agree (h : Numbered digits id) (h' : Numbered digits' id)
    (short : digits.length ≤ digits'.length) : digits <+: digits' := by
  have both := List.prefix_of_prefix_length_le h h' (by simpa using short)
  exact (List.prefix_append_right_inj _).1 both

theorem Numbered.shorten (h : Numbered digits' id) (front : digits <+: digits') : Numbered digits id :=
  ((List.prefix_append_right_inj _).2 front).trans h

theorem groupScope_reading (h : Numbered ['2'] id) : groupScope id = .reading := by
  have other : ¬ Numbered ['1'] id := fun h' => absurd (h.agree h' le_rfl) (by decide)
  rw [groupScope, family, if_neg other, if_pos h]

theorem groupScope_writing (h : Numbered ['3'] id) : groupScope id = .writing := by
  have other : ¬ Numbered ['1'] id := fun h' => absurd (h.agree h' le_rfl) (by decide)
  have other' : ¬ Numbered ['2'] id := fun h' => absurd (h.agree h' le_rfl) (by decide)
  rw [groupScope, family, if_neg other, if_neg other', if_pos h]

theorem ownScope_warehouse (h : Numbered ['3', '1'] id) : ownScope id = .warehouse := if_pos h

theorem ownScope_activation (h : Numbered ['3', '2'] id) : ownScope id = .activation := by
  have other : ¬ Numbered ['3', '1'] id := fun h' => absurd (h.agree h' le_rfl) (by decide)
  rw [ownScope, if_neg other, if_pos h]

end Numbered

/-! ## Families of rules -/

/-- The checks of the rules with these numbers are called. -/
def CalledAll (c : Classification) (rules : List Rule) (digits : List Char) : Prop :=
  ∀ r ∈ rules, Numbered digits r.id → Audit.Called c r

/-- No check of the rules with these numbers is called, and their findings say why. -/
structure SkippedAll (c : Classification) (rules : List Rule) (fs : List Finding) (digits : List Char)
    (reason : String) : Prop where
  uncalled : ∀ r ∈ rules, Numbered digits r.id → ¬ Audit.Called c r
  told : ∀ f ∈ fs, Numbered digits f.ruleId → f.severity = .skip ∧ f.message = reason

/-- What a run of the bundled catalog owes to the text of the connector class. -/
structure FollowsSource (primary : Java.Source) (c : Classification) (rules : List Rule)
    (fs : List Finding) : Prop where
  reading : ¬ Classification.Reads primary.text →
    SkippedAll c rules fs ['2'] ("not applicable — " ++ c.purpose)
  writing : ¬ Classification.Writes primary.text →
    SkippedAll c rules fs ['3'] ("not applicable — " ++ c.purpose)
  /-- The kind of a destination decides between two families of rules. -/
  kind : Classification.Writes primary.text →
    (c.subtype = .warehouse ∧ CalledAll c rules ['3', '1'] ∧
      SkippedAll c rules fs ['3', '2'] "not applicable — warehouse destination") ∨
    (c.subtype = .activation ∧ CalledAll c rules ['3', '2'] ∧
      SkippedAll c rules fs ['3', '1'] "not applicable — activation destination")
  noKind : c.subtype = .none ↔ ¬ Classification.Writes primary.text
  /-- One of the two rules on descriptor methods is for connectors with a shared base class. -/
  descriptors : Classification.Reads primary.text →
    ∀ r ∈ rules, ∀ r' ∈ rules, r.id = "CHK-209" → r'.id = "CHK-218" →
      (Audit.Called c r ↔ ¬ Audit.Called c r')
  inherited : primary.superclass = some "BaseJdbcConnector" → ∀ r ∈ rules, r.inherited = true →
    ¬ Audit.Called c r ∧ ∀ f ∈ fs, f.ruleId = r.id →
      (f.severity = .pass ∧ f.message = "inherited from base") ∨
      (Condition.evaluate c.facts r.group.condition = .ok false ∧ f.severity = .skip ∧
        Rule.skipText c.facts r.group.skip = .ok f.message)

/-- The group of a rule leaves a connector out, or the rule does in its group, and this is the reason
that is given. -/
inductive LeftOut (c : Classification) (id reason : String) : Prop
  | byGroup (out : (groupScope id).holds c = false) (told : (groupScope id).message c = reason)
  | byRule (group : (groupScope id).holds c = true) (out : (ownScope id).holds c = false)
      (told : (ownScope id).message c = reason)

theorem LeftOut.not_called {reason : String} (h : LeftOut c r.id reason) (known : Scoped r) :
    ¬ Audit.Called c r := by
  intro called
  obtain ⟨group, own, -⟩ := known.called_iff.1 called
  cases h with
  | byGroup out => exact nomatch out.symm.trans group
  | byRule _ out => exact nomatch out.symm.trans own

theorem LeftOut.skipped {reason : String} (h : LeftOut c r.id reason) (known : Scoped r)
    (step : Audit.Step settings files c s r j f j') : f.severity = .skip ∧ f.message = reason := by
  cases h with
  | byGroup out told =>
    rcases known.cases_step step with ⟨-, skip, message⟩ | ⟨group, -⟩ | ⟨group, -⟩ | called
    · exact ⟨skip, message.trans told⟩
    · exact nomatch out.symm.trans group
    · exact nomatch out.symm.trans group
    · exact nomatch out.symm.trans (known.called_iff.1 called).1
  | byRule group out told =>
    rcases known.cases_step step with ⟨out', -⟩ | ⟨-, -, skip, message⟩ | ⟨-, base, -⟩ | called
    · exact nomatch out'.symm.trans group
    · exact ⟨skip, message.trans told⟩
    · rw [known.inherited base.1] at out
      exact nomatch out
    · exact nomatch out.symm.trans (known.called_iff.1 called).2.1

section Families

variable (known : ∀ r ∈ rules, Scoped r) (complete : Audit.Complete settings files c s rules j fs j')
  {digits : List Char} {reason : String}

include known complete in
theorem skippedAll_of_leftOut (out : ∀ id, Numbered digits id → LeftOut c id reason) :
    SkippedAll c rules fs digits reason where
  uncalled := fun r hr numbered => (out r.id numbered).not_called (known r hr)
  told := fun f hf numbered => by
    obtain ⟨r, hr, same, _, _, step⟩ := complete.exists_step hf
    exact (out r.id (same ▸ numbered)).skipped (known r hr) step

include known complete in
theorem skippedAll_of_group (scope : Scope) (group : ∀ id, Numbered digits id → groupScope id = scope)
    (out : scope.holds c = false) : SkippedAll c rules fs digits (scope.message c) :=
  skippedAll_of_leftOut known complete fun id numbered =>
    .byGroup (by rw [group id numbered, out]) (by rw [group id numbered])

include known complete in
theorem skippedAll_of_own (scope : Scope)
    (group : ∀ id, Numbered digits id → (groupScope id).holds c = true)
    (own : ∀ id, Numbered digits id → ownScope id = scope) (out : scope.holds c = false) :
    SkippedAll c rules fs digits (scope.message c) :=
  skippedAll_of_leftOut known complete fun id numbered =>
    .byRule (group id numbered) (by rw [own id numbered, out]) (by rw [own id numbered])

include known in
theorem calledAll_of_holds (scope : Scope) (narrow : scope ≠ .everywhere)
    (group : ∀ id, Numbered digits id → (groupScope id).holds c = true)
    (own : ∀ id, Numbered digits id → ownScope id = scope) (holds : scope.holds c = true) :
    CalledAll c rules digits := by
  intro r hr numbered
  have own := own r.id numbered
  exact ((known r hr).called_iff_narrow (own ▸ narrow)).2 ⟨group r.id numbered, own ▸ holds⟩

include known complete in
/-- Among the rules for destinations, the kind decides which of two families is called. -/
theorem families_of_kind (writes : c.hasDestination = true) (named : c.subtype ≠ .none) :
    (c.subtype = .warehouse ∧ CalledAll c rules ['3', '1'] ∧
      SkippedAll c rules fs ['3', '2'] "not applicable — warehouse destination") ∨
    (c.subtype = .activation ∧ CalledAll c rules ['3', '2'] ∧
      SkippedAll c rules fs ['3', '1'] "not applicable — activation destination") := by
  have group {digits : List Char} (front : ['3'] <+: digits) (id : String)
      (numbered : Numbered digits id) : (groupScope id).holds c = true := by
    rw [groupScope_writing (numbered.shorten front)]
    exact writes
  cases kind : c.subtype with
  | none => exact absurd kind named
  | warehouse =>
    have holds : Scope.warehouse.holds c = true ∧ Scope.activation.holds c = false := by
      rw [Scope.holds, Scope.holds, kind]
      decide
    refine .inl ⟨rfl, ?_, ?_⟩
    · exact calledAll_of_holds known .warehouse (by decide) (group (by decide))
        (fun _ => ownScope_warehouse) holds.1
    · exact skippedAll_of_own known complete .activation (group (by decide))
        (fun _ => ownScope_activation) holds.2
  | activation =>
    have holds : Scope.activation.holds c = true ∧ Scope.warehouse.holds c = false := by
      rw [Scope.holds, Scope.holds, kind]
      decide
    refine .inr ⟨rfl, ?_, ?_⟩
    · exact calledAll_of_holds known .activation (by decide) (group (by decide))
        (fun _ => ownScope_activation) holds.1
    · exact skippedAll_of_own known complete .warehouse (group (by decide))
        (fun _ => ownScope_warehouse) holds.2

end Families

/-- Of the two rules on descriptor methods, one is called for every connector that reads data. -/
theorem descriptors_exclusive {r' : Rule} (known : Scoped r) (known' : Scoped r')
    (reads : c.hasSource = true) (id : r.id = "CHK-209") (id' : r'.id = "CHK-218") :
    Audit.Called c r ↔ ¬ Audit.Called c r' := by
  have scopes : groupScope "CHK-209" = .reading ∧ groupScope "CHK-218" = .reading ∧
      ownScope "CHK-209" = .standalone ∧ ownScope "CHK-218" = .baseDelegated := by decide +kernel
  obtain ⟨group, group', own, own'⟩ := scopes
  rw [← id] at group own
  rw [← id'] at group' own'
  have holds : Scope.reading.holds c = true := reads
  rw [known.called_iff_narrow (own ▸ by decide), known'.called_iff_narrow (own' ▸ by decide),
    group, group', own, own', holds]
  simp only [Scope.holds, true_and]
  cases c.delegation <;> decide

/-! ## The law -/

/-- A complete run of rules that have the scopes of the bundled catalog follows the text. -/
theorem followsSource {primary : Java.Source} (known : ∀ r ∈ rules, Scoped r)
    (complete : Audit.Complete settings files (.ofSource primary) s rules j fs j') :
    FollowsSource primary (.ofSource primary) rules fs := by
  have reads := Classification.hasSource_iff primary
  have writes := Classification.hasDestination_iff primary
  have noKind := Classification.subtype_eq_none_iff primary
  generalize c_eq : Classification.ofSource primary = c at *
  constructor
  case reading =>
    intro silent
    exact skippedAll_of_group known complete .reading (fun _ => groupScope_reading)
      (Bool.eq_false_iff.2 (mt reads.1 silent))
  case writing =>
    intro silent
    exact skippedAll_of_group known complete .writing (fun _ => groupScope_writing)
      (Bool.eq_false_iff.2 (mt writes.1 silent))
  case kind =>
    intro named
    exact families_of_kind known complete (writes.2 named) fun kind => noKind.1 kind named
  case noKind => exact noKind
  case descriptors =>
    intro named r hr r' hr' id id'
    exact descriptors_exclusive (known r hr) (known r' hr') (reads.2 named) id id'
  case inherited =>
    intro base r hr inherited
    have left : r.LeftToBase c := ⟨inherited, c_eq ▸ Classification.delegation_of_superclass base⟩
    refine ⟨fun called => called.base left, fun f hf same => ?_⟩
    obtain ⟨_, _, step⟩ := complete.step_of_ruleId hr hf same
    exact (known r hr).step_leftToBase left step

/-- The bundled catalog loads with any checks of its ids and has a rule for each of them. On every
module that is classified by its connector class, its rules run to the end, whatever the checks do,
and the run follows the text of the class. -/
theorem bundled_follows {checks : Registry RuleCheck} (ids : checks.ids = Registry.bundled.ids)
    (path : Path) :
    ∃ catalog, ofDocument path checks bundledDocument = .ok catalog ∧
      (catalog.rules.map (·.id)).Perm Registry.bundled.ids ∧
      ∀ settings files s j, let c := Classification.ofSource files.primary
        ∃ fs j', (Audit.findings catalog.rules settings files c).start s j = (.ok fs, j') ∧
          Audit.Complete settings files c s catalog.rules j fs j' ∧
          FollowsSource files.primary c catalog.rules fs := by
  obtain ⟨catalog, loaded, perm, known⟩ := bundled_load ids path
  refine ⟨catalog, loaded, perm, fun settings files s j => ?_⟩
  dsimp only
  have runs := loaded_runs_iff loaded settings files (.ofSource files.primary) s j
  obtain ⟨fs, j', start⟩ := runs.1.2 fun r hr => (known r hr).explained _
  have complete := runs.2 fs j' start
  exact ⟨fs, j', start, complete, followsSource known complete⟩

/-- A capability in a comment does not count. -/
theorem bundled_follows_writer :
    let files : FileSet := {
      module := ⟨⟨0, []⟩, "a"⟩
      primary := .ofText ⟨0, ["AConnector.java"]⟩
        "enum A \x7b REVERSE_ETL_DESTINATION \x7d // no REPLICATION_SOURCE".toList }
    let s : Surroundings := ⟨⟨.empty, ⟨0, []⟩⟩, fun _ => .notFound⟩
    let c := Classification.ofSource files.primary
    Registry.bundledRuleChecks.ids = Registry.bundled.ids ∧
    ∃ catalog,
      ofDocument ⟨0, ["catalog.yaml"]⟩ Registry.bundledRuleChecks bundledDocument = .ok catalog ∧
      ∃ fs j', (Audit.findings catalog.rules {} files c).start s {} = (.ok fs, j') ∧
        SkippedAll c catalog.rules fs ['2'] "not applicable — destination-only" ∧
        CalledAll c catalog.rules ['3', '1'] := by
  intro files s c
  have ids : Registry.bundledRuleChecks.ids = Registry.bundled.ids := by
    simp [Registry.bundledRuleChecks, Registry.ids, Function.comp_def]
  have kind : Classification.ofSource files.primary = ⟨.standalone, false, true, .warehouse, none⟩ := by
    decide +kernel
  have silent : ¬ Classification.Reads files.primary.text := by
    rw [← Classification.hasSource_iff, kind]
    decide
  have writes : Classification.Writes files.primary.text := by
    rw [← Classification.hasDestination_iff, kind]
  obtain ⟨catalog, loaded, -, follows⟩ := bundled_follows ids ⟨0, ["catalog.yaml"]⟩
  obtain ⟨fs, j', start, -, follows⟩ := follows {} files s {}
  refine ⟨ids, catalog, loaded, fs, j', start, ?_, ?_⟩
  · have purpose : "not applicable — " ++ (Classification.ofSource files.primary).purpose =
        "not applicable — destination-only" := by
      rw [kind]
      decide +kernel
    exact purpose ▸ follows.reading silent
  · rcases follows.kind writes with ⟨-, called, -⟩ | ⟨activation, -⟩
    · exact called
    · rw [kind] at activation
      cases activation

end Catalog.Bundled

end ModuleAudit
