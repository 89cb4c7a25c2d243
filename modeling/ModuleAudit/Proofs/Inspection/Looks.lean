import ModuleAudit.Command.Program
import ModuleAudit.Proofs.Checks.Steady

/-!
# Inspections that only look

An inspection that looks at the disk and logs, and does nothing else, runs no program
(`Inspect.Looks.journal_calls`), and its answer does not depend on what was done before
(`Inspect.Looks.isSteady`). All that a run does before its rules are evaluated is of this kind
(`Command.prepare_looks`), and so are all checks but the two that have programs run (`bundled_looks`).
-/

namespace ModuleAudit

namespace Inspect

/-- The inspection looks at the disk and logs, and has no program run. -/
inductive Looks : {α : Type} → Inspect α → Prop
  | pure {α : Type} (a : α) : Looks (Pure.pure a : Inspect α)
  | fault {α : Type} (f : Fault) : Looks (Inspect.fault f : Inspect α)
  | log (level : LogLevel) (source : LogSource) (message : String) :
      Looks (Inspect.log level source message)
  | read : Looks (MonadReader.read : Inspect Surroundings)
  | bind {α β : Type} {x : Inspect α} {f : α → Inspect β} (first : Looks x) (rest : ∀ a, Looks (f a)) :
      Looks (x >>= f)

namespace Looks

variable {α β : Type} {x : Inspect α}

theorem ofExcept (x : Except Fault α) : (Inspect.ofExcept x).Looks := by
  cases x with
  | ok a => exact .pure a
  | error e => exact .fault e

theorem disk (p : Path) (question : Disk → Path → Except AccessError Bool) :
    (Inspect.disk p question).Looks := Looks.read.bind fun s => by
  split
  · exact .pure _
  · exact .fault _

theorem hasDirectory (p : Path) : (Inspect.hasDirectory p).Looks := disk p _

theorem hasFile (p : Path) : (Inspect.hasFile p).Looks := disk p _

theorem isSteady (h : x.Looks) : x.IsSteady := by
  induction h with
  | pure a => exact isSteady_pure a
  | fault f => exact isSteady_fault f
  | log level source message => exact isSteady_log level source message
  | read => exact isSteady_read
  | bind first rest hx hf => exact hx.bind hf

/-- What only looks runs no program. -/
theorem journal_calls (h : x.Looks) (s : Surroundings) (j : Journal) :
    (x.start s j).2.calls = j.calls := by
  induction h generalizing j with
  | pure a => rfl
  | fault f => rfl
  | log level source message => rfl
  | read => rfl
  | @bind _ _ x f first rest hx hf =>
    rw [start_bind]
    have before := hx j
    generalize x.start s j = answer at before
    rcases answer with ⟨e | a, j'⟩
    · exact before
    · exact (hf a j').trans before

end Looks

variable {α β : Type} {x : Inspect α} {f : α → Inspect β} {s : Surroundings} {j : Journal}

/-- What only looks after a step runs no more programs. -/
theorem calls_bind_looks (h : ∀ a, (f a).Looks) :
    ((x >>= f).start s j).2.calls = (x.start s j).2.calls := by
  rw [start_bind]
  rcases x.start s j with ⟨e | a, j'⟩
  · rfl
  · exact (h a).journal_calls s j'

/-- After a look, what follows decides which programs are run. -/
theorem Looks.calls_bind (h : x.Looks) {a : α} (answer : x.answer s = .ok a) :
    ∃ j', j'.calls = j.calls ∧ (x >>= f).start s j = (f a).start s j' := by
  have calls := h.journal_calls s j
  have same := h.isSteady s j
  rw [start_bind]
  generalize x.start s j = step at calls same
  obtain ⟨_, j'⟩ := step
  obtain rfl := same.trans answer
  exact ⟨j', calls, rfl⟩

end Inspect

open Inspect (Looks)

/-! ## Before the rules are evaluated -/

theorem Catalog.load_looks (path : Path) (checks : Registry RuleCheck) : (load path checks).Looks := by
  refine Looks.read.bind fun s => ?_
  split
  · exact .fault _
  · exact .fault _
  · split
    · exact .fault _
    · split
      · exact .fault _
      · exact .fault _
      · split
        · exact .fault _
        · exact .pure _

theorem RootChoice.resolve_looks (choice : RootChoice) : choice.resolve.Looks := by
  refine Looks.read.bind fun s => (Looks.hasDirectory _).bind fun there => ?_
  split
  · exact (Looks.log _ _ _).bind fun _ => .pure _
  · exact .fault _

theorem RootChoice.module_looks (choice : RootChoice) (name : String) : (choice.module name).Looks := by
  unfold RootChoice.module
  split
  · exact choice.resolve_looks.bind fun root => Looks.read.bind fun s => .pure _
  · exact .fault _

namespace FileSet

theorem findPrimary_looks (directory : Path) : (findPrimary directory).Looks := by
  refine (Looks.hasDirectory _).bind fun there => ?_
  split
  · refine Looks.read.bind fun s => ?_
    split
    · exact .pure _
    · exact .pure _
    · exact (Looks.log _ _ _).bind fun _ => .pure _
  · exact .pure _

theorem findIntegrationTest_looks (directory : Path) : (findIntegrationTest directory).Looks := by
  refine (Looks.hasDirectory _).bind fun there => ?_
  split
  · exact Looks.read.bind fun s => .pure _
  · exact .pure _

theorem locate_looks (m : Module) : (locate m).Looks := by
  refine (Looks.hasDirectory _).bind fun there => ?_
  split
  · exact .fault _
  · refine (findPrimary_looks _).bind fun primary => ?_
    split
    · exact .fault _
    · refine (Looks.log _ _ _).bind fun _ => Looks.read.bind fun s => (Looks.log _ _ _).bind fun _ => ?_
      refine (findIntegrationTest_looks _).bind fun test => ?_
      dsimp only
      split
      · exact (Looks.log _ _ _).bind fun _ => .pure _
      · exact (Looks.pure _).bind fun _ => .pure _

end FileSet

namespace Command

theorem catalogOf_looks (path : Path) (r : Request) : (catalogOf path r).Looks := by
  unfold catalogOf
  split
  · exact Catalog.load_looks _ _
  · exact .ofExcept _

theorem prepare_looks (path : Path) (choice : RootChoice) (r : Request) : (prepare path choice r).Looks :=
  (catalogOf_looks path r).bind fun _ => (choice.module_looks _).bind fun _ =>
    (FileSet.locate_looks _).bind fun _ => .pure _

end Command

/-! ## Checks -/

/-- The check only looks. -/
def Check.Looks (c : Check) : Prop := ∀ files settings, (c files settings).Looks

theorem Check.Looks.ofFiles (v : FileSet → Verdict) : (Check.ofFiles v).Looks := fun _ _ => .pure _

namespace Packaging

theorem readPom_looks (f : TextFile) : (readPom f).Looks := by
  unfold readPom
  split
  · exact .pure _
  · exact (Looks.log _ _ _).bind fun _ => .pure _

theorem readRegistration_looks (f : FileSet) : (readRegistration f).Looks := by
  unfold readRegistration
  split
  · exact .pure _
  · exact (readPom_looks _).bind fun _ => .pure _

theorem ofManifest_looks (check : Pom → Verdict) : (ofManifest check).Looks := fun f _ => by
  unfold ofManifest
  split
  · exact .pure _
  · refine (readPom_looks _).bind fun pom => ?_
    cases pom <;> exact .pure _

theorem parentRegistration_looks : parentRegistration.Looks := fun f _ =>
  (readRegistration_looks f).bind fun registered => by split <;> exact .pure _

end Packaging

namespace Naming

theorem firstIcon_looks (directory : Path) (icons : List String) : (firstIcon directory icons).Looks := by
  induction icons with
  | nil => exact .pure _
  | cons icon icons ih =>
    refine (Looks.hasFile _).bind fun there => ?_
    split
    · exact .pure _
    · exact ih

theorem connectorIcon_looks : connectorIcon.Looks := fun f settings => by
  unfold connectorIcon
  split
  · exact .pure _
  · refine (Looks.ofExcept _).bind fun directory => (Looks.hasDirectory _).bind fun there => ?_
    split
    · refine (firstIcon_looks _ _).bind fun icon => ?_
      split <;> exact .pure _
    · exact .pure _

end Naming

/-- The bundled checks that may have a program run. -/
def programChecks : Registry Check := [
  ("CHK-104", Packaging.buildArtifacts),
  ("CHK-402", Packaging.reactorBuild)]

/-- All other bundled checks only look. -/
theorem bundled_looks : ∀ entry ∈ Registry.bundled,
    entry ∈ programChecks ∨ entry.1 ∉ programChecks.ids ∧ entry.2.Looks := by
  simp only [Registry.bundled, List.forall_mem_cons, List.not_mem_nil, false_imp_iff, implies_true,
    and_true]
  and_intros
  all_goals first
    | (left; simp [programChecks]; done)
    | exact .inr ⟨by decide, .ofFiles _⟩
    | exact .inr ⟨by decide, Packaging.ofManifest_looks _⟩
    | exact .inr ⟨by decide, Packaging.parentRegistration_looks⟩
    | exact .inr ⟨by decide, Naming.connectorIcon_looks⟩

end ModuleAudit
