import Mathlib.Logic.Basic
import ModuleAudit.Checks.Registry

/-!
# Checks that ask and look no further

An inspection asks (`Inspect.Asks`) if all that it does is to ask whether a directory or a file is
there, to have a program run, and to log. Every check of a bundled rule does no more
(`bundled_asks`).

So it is steady (`bundled_isSteady`): its answer does not depend on what was asked and logged before it
(`Inspect.IsSteady`), and is put together of the answers of its parts (`Inspect.answer_bind`). Only
the build check looks at whether the build is to be checked (`bundled_ignoresBuild`).
-/

namespace ModuleAudit

namespace Inspect

variable {α β : Type}

/-- The inspection sees nothing of its surroundings but the answers to its questions. -/
inductive Asks : {α : Type} → Inspect α → Prop
  | pure {α : Type} (a : α) : Asks (Pure.pure a : Inspect α)
  | fault {α : Type} (f : Fault) : Asks (Inspect.fault f : Inspect α)
  | log (level : LogLevel) (source : LogSource) (message : String) :
      Asks (Inspect.log level source message)
  | call (c : Call) : Asks (Inspect.call c)
  | hasDirectory (p : Path) : Asks (Inspect.hasDirectory p)
  | hasFile (p : Path) : Asks (Inspect.hasFile p)
  | bind {α β : Type} {x : Inspect α} {f : α → Inspect β} (first : Asks x) (rest : ∀ a, Asks (f a)) :
      Asks (x >>= f)

theorem Asks.ofExcept (x : Except Fault α) : (Inspect.ofExcept x).Asks := by
  cases x with
  | ok a => exact .pure a
  | error e => exact .fault e

/-! ## Steady inspections -/

/-- The answer of an inspection with which a journal begins. -/
def answer (x : Inspect α) (s : Surroundings) : Except Fault α := (x.start s).1

/-- The answer does not depend on what was asked and logged before. -/
def IsSteady (x : Inspect α) : Prop := ∀ s j, (x.start s j).1 = x.answer s

theorem isSteady_pure (a : α) : (pure a : Inspect α).IsSteady := fun _ _ => rfl

theorem isSteady_fault (f : Fault) : (fault f : Inspect α).IsSteady := fun _ _ => rfl

theorem isSteady_log (level : LogLevel) (source : LogSource) (message : String) :
    (log level source message).IsSteady := fun _ _ => rfl

theorem isSteady_call (c : Call) : (call c).IsSteady := fun _ _ => rfl

theorem isSteady_read : (read : Inspect Surroundings).IsSteady := fun _ _ => rfl

/-- The answer after a step, if what follows is steady. -/
theorem start_bind_answer {x : Inspect α} {f : α → Inspect β} (hf : ∀ a, (f a).IsSteady)
    (s : Surroundings) (j : Journal) :
    ((x >>= f).start s j).1 = (x.start s j).1 >>= fun a => (f a).answer s := by
  rw [start_bind]
  rcases x.start s j with ⟨e | a, j'⟩
  · rfl
  · exact hf a s j'

theorem IsSteady.bind {x : Inspect α} {f : α → Inspect β} (hx : x.IsSteady)
    (hf : ∀ a, (f a).IsSteady) : (x >>= f).IsSteady := fun s j => by
  rw [answer, start_bind_answer hf, start_bind_answer hf, hx s j, hx s {}]

theorem answer_bind (x : Inspect α) {f : α → Inspect β} (hf : ∀ a, (f a).IsSteady)
    (s : Surroundings) : (x >>= f).answer s = x.answer s >>= fun a => (f a).answer s :=
  start_bind_answer hf s {}

theorem isSteady_disk (p : Path) (question : Disk → Path → Except AccessError Bool) :
    (disk p question).IsSteady := isSteady_read.bind fun s => by
  split
  · exact isSteady_pure _
  · exact isSteady_fault _

/-- What asks and looks no further does not look back. -/
theorem Asks.isSteady {x : Inspect α} (h : x.Asks) : x.IsSteady := by
  induction h with
  | pure a => exact isSteady_pure a
  | fault f => exact isSteady_fault f
  | log level source message => exact isSteady_log level source message
  | call c => exact isSteady_call c
  | hasDirectory p => exact isSteady_disk p _
  | hasFile p => exact isSteady_disk p _
  | bind first rest hx hf => exact hx.bind hf

theorem isSteady_mapM {f : α → Inspect β} {as : List α} (h : ∀ a ∈ as, (f a).IsSteady) :
    (as.mapM f).IsSteady := by
  induction as with
  | nil => exact isSteady_pure _
  | cons a as ih =>
    obtain ⟨first, others⟩ := List.forall_mem_cons.1 h
    rw [List.mapM_cons]
    exact first.bind fun _ => (ih others).bind fun _ => isSteady_pure _

/-- The answers of steady inspections in a row. -/
theorem answer_mapM {f : α → Inspect β} {as : List α} (h : ∀ a ∈ as, (f a).IsSteady)
    (s : Surroundings) : (as.mapM f).answer s = as.mapM fun a => (f a).answer s := by
  induction as with
  | nil => rfl
  | cons a as ih =>
    obtain ⟨-, others⟩ := List.forall_mem_cons.1 h
    have last (b : β) (bs : List β) : (pure (b :: bs) : Inspect (List β)).IsSteady := isSteady_pure _
    rw [List.mapM_cons, List.mapM_cons,
      answer_bind _ fun b => (isSteady_mapM others).bind (last b), ← ih others]
    exact bind_congr fun b => answer_bind _ (last b) s

end Inspect

open Inspect (Asks isSteady_pure)

/-! ## Programs -/

theorem trackedPaths_asks (root : Path) (relative : String) : (trackedPaths root relative).Asks :=
  (Asks.call _).bind fun result => by
  cases result with
  | faulty f => exact .fault f
  | finished code output errors =>
    dsimp only
    split
    · split <;> exact .pure _
    · exact .pure _
  | _ => exact .pure _

theorem compileModule_asks (root : Path) (modulePath command : String) (timeout : Option Binary64) :
    (compileModule root modulePath command timeout).Asks := by
  refine (Asks.log _ _ _).bind fun _ => (Asks.call _).bind fun result => ?_
  dsimp only
  cases TimeLimit.impose ⟨timeout⟩ result with
  | faulty f => exact .fault f
  | finished code output errors =>
    dsimp only
    split <;> exact .pure _
  | _ => exact .pure _

theorem compileModule_isSteady (root : Path) (modulePath command : String)
    (timeout : Option Binary64) : (compileModule root modulePath command timeout).IsSteady :=
  (compileModule_asks root modulePath command timeout).isSteady

/-! ## Checks -/

/-- The verdict of the check does not depend on what was asked and logged before. -/
def Check.IsSteady (c : Check) : Prop := ∀ files settings, (c files settings).IsSteady

/-- The check sees nothing but the files and the answers to its questions. -/
def Check.Asks (c : Check) : Prop := ∀ files settings, (c files settings).Asks

theorem Check.Asks.ofFiles (v : FileSet → Verdict) : (Check.ofFiles v).Asks := fun _ _ => .pure _

open Check.Asks (ofFiles)

namespace Packaging

theorem readPom_asks (f : TextFile) : (readPom f).Asks := by
  unfold readPom
  split
  · exact .pure _
  · exact (Asks.log _ _ _).bind fun _ => .pure _

theorem readPom_answer (f : TextFile) (s : Surroundings) :
    (readPom f).answer s = .ok (Pom.parse f.text).toOption := by
  unfold readPom
  cases Pom.parse f.text with
  | ok pom => rfl
  | error e => rfl

theorem readRegistration_asks (f : FileSet) : (readRegistration f).Asks := by
  unfold readRegistration
  split
  · exact .pure _
  · exact (readPom_asks _).bind fun _ => .pure _

/-- Whether the module is registered is told by the parent pom alone. -/
theorem readRegistration_answer (f : FileSet) (s : Surroundings) :
    (readRegistration f).answer s = .ok (registered? f) := by
  unfold readRegistration registered?
  cases f.parentManifest with
  | none => rfl
  | some parent =>
    dsimp only
    rw [Inspect.answer_bind _ fun _ => isSteady_pure _, readPom_answer]
    rfl

theorem ofManifest_asks (check : Pom → Verdict) : (ofManifest check).Asks := fun f _ => by
  unfold ofManifest
  split
  · exact .pure _
  · refine (readPom_asks _).bind fun pom => ?_
    cases pom <;> exact .pure _

theorem buildArtifacts_asks : buildArtifacts.Asks := fun f settings => by
  refine (Asks.hasDirectory _).bind fun there => ?_
  split
  · refine (trackedPaths_asks _ _).bind fun tracked => ?_
    split <;> exact .pure _
  · exact .pure _

theorem parentRegistration_asks : parentRegistration.Asks := fun f _ =>
  (readRegistration_asks f).bind fun registered => by split <;> exact .pure _

/-- How the registration is judged is told by the parent pom alone. -/
theorem parentRegistration_severity (f : FileSet) (settings : Settings) (s : Surroundings) :
    ((parentRegistration f settings).answer s).toOption.map Verdict.severity =
      some (match registered? f with
        | none => some .warn
        | some true => some .pass
        | some false => none) := by
  unfold parentRegistration
  rw [Inspect.answer_bind _ fun registered => by split <;> exact isSteady_pure _, readRegistration_answer]
  rcases registered? f with _ | _ | _ <;> rfl

theorem reactorBuild_asks : reactorBuild.Asks := fun f settings => by
  unfold reactorBuild
  split
  · refine (readRegistration_asks f).bind fun registered => ?_
    split
    · refine (compileModule_asks _ _ _ _).bind fun built => ?_
      split
      · exact .pure _
      · exact (Asks.log _ _ _).bind fun _ => .pure _
    · exact .pure _
  · exact .pure _

end Packaging

namespace Naming

theorem firstIcon_asks (directory : Path) (icons : List String) : (firstIcon directory icons).Asks := by
  induction icons with
  | nil => exact .pure _
  | cons icon icons ih =>
    refine (Asks.hasFile _).bind fun there => ?_
    split
    · exact .pure _
    · exact ih

theorem connectorIcon_asks : connectorIcon.Asks := fun f settings => by
  unfold connectorIcon
  split
  · exact .pure _
  · refine (Asks.ofExcept _).bind fun directory => (Asks.hasDirectory _).bind fun there => ?_
    split
    · refine (firstIcon_asks _ _).bind fun icon => ?_
      split <;> exact .pure _
    · exact .pure _

end Naming

/-- The checks of the bundled rules see nothing of the surroundings but the answers to their questions. -/
theorem bundled_asks : ∀ entry ∈ Registry.bundled, entry.2.Asks := by
  simp only [Registry.bundled, List.forall_mem_cons, List.not_mem_nil, false_imp_iff, implies_true,
    and_true]
  exact ⟨
    ofFiles _, ofFiles _, Packaging.ofManifest_asks _, Packaging.buildArtifacts_asks,
    ofFiles _, ofFiles _, ofFiles _, Naming.connectorIcon_asks, ofFiles _, ofFiles _, ofFiles _,
    ofFiles _, ofFiles _, ofFiles _, ofFiles _, ofFiles _, ofFiles _, ofFiles _, ofFiles _,
    ofFiles _, ofFiles _, ofFiles _, ofFiles _, ofFiles _, ofFiles _, ofFiles _, ofFiles _,
    ofFiles _, ofFiles _, ofFiles _, ofFiles _, ofFiles _, ofFiles _, ofFiles _, ofFiles _,
    ofFiles _, ofFiles _, ofFiles _, ofFiles _, ofFiles _, ofFiles _, ofFiles _, ofFiles _,
    ofFiles _, ofFiles _, ofFiles _, ofFiles _, ofFiles _, ofFiles _, ofFiles _, ofFiles _,
    Packaging.parentRegistration_asks, Packaging.reactorBuild_asks,
    Packaging.ofManifest_asks _, Packaging.ofManifest_asks _, ofFiles _, ofFiles _,
    ofFiles _, ofFiles _⟩

/-- The checks of the bundled rules are steady. -/
theorem bundled_isSteady : ∀ entry ∈ Registry.bundled, entry.2.IsSteady :=
  fun entry he files settings => (bundled_asks entry he files settings).isSteady

theorem bundled_ids_nodup : Registry.bundled.ids.Nodup := by
  simp [Registry.bundled, Registry.ids]

/-- What runs under the id of a bundled rule is a bundled check. -/
theorem bundledRuleChecks_lookup {id : String} {check : RuleCheck}
    (h : Registry.bundledRuleChecks.lookup id = some check) :
    ∃ entry ∈ Registry.bundled, entry.1 = id ∧ entry.2.toRuleCheck = check := by
  obtain ⟨before, after, e, -⟩ := List.lookup_eq_some_iff.1 h
  have mem : (id, check) ∈ Registry.bundledRuleChecks := e ▸ List.mem_append_right _ List.mem_cons_self
  obtain ⟨entry, he, same⟩ := List.mem_map.1 mem
  exact ⟨entry, he, congrArg (·.1) same, congrArg (·.2) same⟩

/-- The check under the id of the build check is that one. -/
theorem bundled_build : ∀ entry ∈ Registry.bundled,
    entry.1 = "CHK-402" → entry.2 = Packaging.reactorBuild := by
  simp [Registry.bundled]

/-- No other check looks at whether the build is to be checked. -/
theorem bundled_ignoresBuild : ∀ entry ∈ Registry.bundled, entry.1 ≠ "CHK-402" →
    ∀ files settings build, entry.2 files { settings with buildCheck := build } =
      entry.2 files settings := by
  simp only [Registry.bundled, List.forall_mem_cons, List.not_mem_nil, false_imp_iff, implies_true,
    and_true]
  -- Most checks do not read the settings at all; the build check is left out by its id.
  and_intros
  all_goals first
    | exact fun _ _ _ _ => rfl
    | exact fun other => absurd rfl other

end ModuleAudit
