import ModuleAudit.Proofs.Checks.Steady
import ModuleAudit.Proofs.Checks.Unnoticed
import ModuleAudit.Proofs.Disk.PathOrder

/-!
# Checks of a module that is moved

Two modules are moved copies of each other (`FileSet.Moved`) if they have one name and the same files
with the same texts, wherever these are. Where a Java file is goes unnoticed
(`Source.unnoticed_unplaced`), and so does where a pom is; the other checks ask their surroundings
about places that belong to the module (`Module.SameAnswers`).

`bundled_moved`: on modules that are moved copies of each other, in surroundings that answer alike, the
checks of the bundled rules come to the same verdicts. Only the verdicts on the icon and on the parent
pom name a place; of these two the severity is the same.
-/

namespace ModuleAudit

open ModuleAudit.Java (Source)

/-! ## Inspections with the same answer -/

namespace Inspect

variable {α β : Type} {s s' : Surroundings}

/-- Two inspections come to the same answer, each in its own surroundings, whatever was asked before. -/
def SameAnswer (s s' : Surroundings) (x y : Inspect α) : Prop :=
  ∀ j j', (x.start s j).1 = (y.start s' j').1

namespace SameAnswer

variable {x y : Inspect α}

theorem pure (a : α) : SameAnswer s s' (Pure.pure a) (Pure.pure a) := fun _ _ => rfl

theorem fault (f : Fault) : SameAnswer s s' (Inspect.fault f : Inspect α) (Inspect.fault f) :=
  fun _ _ => rfl

theorem log (level level' : LogLevel) (source source' : LogSource) (message message' : String) :
    SameAnswer s s' (Inspect.log level source message) (Inspect.log level' source' message') :=
  fun _ _ => rfl

theorem call {c c' : Call} (h : s.run c = s'.run c') :
    SameAnswer s s' (Inspect.call c) (Inspect.call c') := fun _ _ => congrArg Except.ok h

theorem hasDirectory {p p' : Path} {there : Bool} (h : s.disk.hasDirectory p = .ok there)
    (h' : s'.disk.hasDirectory p' = .ok there) :
    SameAnswer s s' (Inspect.hasDirectory p) (Inspect.hasDirectory p') := fun j j' => by
  rw [start_hasDirectory, start_hasDirectory, h, h']

theorem bind {f g : α → Inspect β} (first : SameAnswer s s' x y)
    (rest : ∀ a, SameAnswer s s' (f a) (g a)) : SameAnswer s s' (x >>= f) (y >>= g) := fun j j' => by
  have same := first j j'
  rw [start_bind, start_bind]
  generalize x.start s j = a, y.start s' j' = b at same
  obtain ⟨a, k⟩ := a
  obtain ⟨b, k'⟩ := b
  obtain rfl : a = b := same
  cases a with
  | error e => rfl
  | ok a => exact rest a k k'

theorem answer (h : SameAnswer s s' x y) : x.answer s = y.answer s' := h {} {}

end SameAnswer

end Inspect

open Inspect (SameAnswer)

/-! ## Moved copies -/

/-- The file with its name for a path. -/
def Java.Source.unplaced (s : Source) : Source := { s with path := ⟨0, [s.name]⟩ }

/-- Nothing that is asked of a file tells where it is. -/
theorem Java.Source.unnoticed_unplaced : Source.Unnoticed unplaced where
  name _ := rfl
  code _ := rfl
  bare _ := rfl
  methods _ := rfl
  lineOf _ _ := rfl

/-- The text of a file that might be anywhere. -/
def TextFile.unplaced (f : TextFile) : TextFile := ⟨⟨0, []⟩, f.text⟩

namespace FileSet

/-- The files of a module that might be anywhere. -/
def unplaced (f : FileSet) : FileSet where
  module := ⟨⟨0, []⟩, f.module.name⟩
  primary := f.primary.unplaced
  helpers := f.helpers.map Source.unplaced
  integrationTest := f.integrationTest.map Source.unplaced
  manifest := f.manifest.map TextFile.unplaced
  resource := f.resource.map TextFile.unplaced
  parentManifest := f.parentManifest.map TextFile.unplaced

/-- The modules have one name, and the same files with the same texts, wherever these are. -/
structure Moved (f g : FileSet) : Prop where
  unplaced_eq : f.unplaced = g.unplaced

/-- The Java files of a module, and nothing else of it. -/
def javaOnly (f : FileSet) : FileSet where
  module := ⟨⟨0, []⟩, ""⟩
  primary := f.primary
  helpers := f.helpers
  integrationTest := f.integrationTest

variable {f g : FileSet}

theorem Moved.of_parts (name : f.module.name = g.module.name)
    (primary : f.primary.unplaced = g.primary.unplaced)
    (helpers : f.helpers.map Source.unplaced = g.helpers.map Source.unplaced)
    (integrationTest : f.integrationTest.map Source.unplaced = g.integrationTest.map Source.unplaced)
    (manifest : f.manifest.map TextFile.unplaced = g.manifest.map TextFile.unplaced)
    (resource : f.resource.map TextFile.unplaced = g.resource.map TextFile.unplaced)
    (parentManifest : f.parentManifest.map TextFile.unplaced = g.parentManifest.map TextFile.unplaced) :
    f.Moved g :=
  ⟨by rw [unplaced, unplaced, name, primary, helpers, integrationTest, manifest, resource,
    parentManifest]⟩

/-- What does not depend on where files are is the same for a moved copy. -/
theorem Moved.congr {α : Type} (h : f.Moved g) {v : FileSet → α} (same : ∀ f : FileSet, v f.unplaced = v f) :
    v f = v g := by
  rw [← same f, h.unplaced_eq, same g]

end FileSet

variable {f g : FileSet} {s s' : Surroundings} {settings : Settings}

/-! ## Checks of files -/

namespace Check

/-- The check concludes the same wherever files are, and asks nothing of its surroundings. -/
def IgnoresPlaces (c : Check) : Prop :=
  ∀ f settings s s', SameAnswer s s' (c f.unplaced settings) (c f settings)

theorem IgnoresPlaces.moved {c : Check} (ignores : c.IgnoresPlaces) (h : f.Moved g)
    (settings : Settings) :
    (c f settings).answer s = (c g settings).answer s' := by
  rw [← (ignores f settings s s).answer, h.unplaced_eq, (ignores g settings s s').answer]

/-- The check looks at nothing but Java files. -/
def ReadsJava (c : Check) : Prop := ∃ v, c = ofFiles v ∧ ∀ f : FileSet, v f = v f.javaOnly

theorem ReadsJava.ofFiles {v : FileSet → Verdict} (java : ∀ f : FileSet, v f = v f.javaOnly) :
    (Check.ofFiles v).ReadsJava := ⟨v, rfl, java⟩

theorem ReadsJava.ignoresPlaces {c : Check} (reads : c.ReadsJava)
    (overlooks : c.Overlooks Source.unplaced) : c.IgnoresPlaces := by
  obtain ⟨v, rfl, java⟩ := reads
  intro f settings s s' j j'
  have changed : v (f.map Source.unplaced) = v f :=
    Except.ok.inj (congrArg (Inspect.answer · s) (overlooks f settings))
  refine congrArg Except.ok ?_
  rw [← changed, java (f.map _), java f.unplaced]
  rfl

end Check

namespace Packaging

theorem versionDescriptor_ignoresPlaces : versionDescriptor.IgnoresPlaces := fun f _ _ _ _ _ => by
  obtain ⟨_, _, _, _, _, _ | _, _⟩ := f <;> rfl

theorem moduleManifest_ignoresPlaces : moduleManifest.IgnoresPlaces := fun f _ _ _ _ _ => by
  obtain ⟨_, _, _, _, _ | _, _, _⟩ := f <;> rfl

theorem readPom_unplaced (file : TextFile) : SameAnswer s s' (readPom file.unplaced) (readPom file) := by
  unfold readPom TextFile.unplaced
  dsimp only
  split
  · exact .pure _
  · exact (SameAnswer.log _ _ _ _ _ _).bind fun _ => .pure _

theorem ofManifest_ignoresPlaces (check : Pom → Verdict) : (ofManifest check).IgnoresPlaces :=
    fun f _ s s' => by
  obtain ⟨_, _, _, _, _ | manifest, _, _⟩ := f
  · exact .pure _
  · refine (readPom_unplaced manifest).bind fun pom => ?_
    cases pom <;> exact .pure _

theorem registered?_unplaced (f : FileSet) : registered? f.unplaced = registered? f := by
  obtain ⟨_, _, _, _, _, _, _ | _⟩ := f <;> rfl

theorem readRegistration_moved (h : f.Moved g) :
    SameAnswer s s' (readRegistration f) (readRegistration g) := fun j j' => by
  rw [(readRegistration_asks f).isSteady, (readRegistration_asks g).isSteady, readRegistration_answer,
    readRegistration_answer, h.congr registered?_unplaced]

end Packaging

/-! ## Checks that ask -/

/-- Where the icons are that go with a checkout. -/
def Module.icons (m : Module) : Path := m.root.parent.below ["supaflow-www", "public", "connectors"]

/-- The surroundings answer alike to what checks ask about a module: whether it has been built, whether
there are icons and which, and what other programs say when they run in the checkout. -/
structure Module.SameAnswers (s s' : Surroundings) (m m' : Module) : Prop where
  target : ∃ there, s.disk.hasDirectory (m.directory.child "target") = .ok there ∧
    s'.disk.hasDirectory (m'.directory.child "target") = .ok there
  icons : ∃ there, s.disk.hasDirectory m.icons = .ok there ∧ s'.disk.hasDirectory m'.icons = .ok there
  icon : s.disk.hasDirectory m.icons = .ok true → ∀ icon : String, '/' ∉ icon.toList →
    (s.disk.hasFile (m.icons.child (icon ++ ".svg"))).toOption =
      (s'.disk.hasFile (m'.icons.child (icon ++ ".svg"))).toOption
  run : ∀ args timeout, s.run ⟨args, m.root, timeout⟩ = s'.run ⟨args, m'.root, timeout⟩

theorem FileSet.Moved.relativeDir (h : f.Moved g) : f.module.relativeDir = g.module.relativeDir :=
  h.congr (v := fun f => f.module.relativeDir) fun _ => rfl

namespace Packaging

variable (moved : f.Moved g) (alike : Module.SameAnswers s s' f.module g.module)
include alike

theorem trackedPaths_moved (relative : String) :
    SameAnswer s s' (trackedPaths f.module.root relative) (trackedPaths g.module.root relative) :=
  (SameAnswer.call (alike.run _ _)).bind fun result => by
    cases result with
    | faulty fault => exact .fault fault
    | finished code output errors =>
      dsimp only
      split
      · split <;> exact .pure _
      · exact .pure _
    | _ => exact .pure _

theorem compileModule_moved (modulePath command : String) (timeout : Option Binary64) :
    SameAnswer s s' (compileModule f.module.root modulePath command timeout)
      (compileModule g.module.root modulePath command timeout) := by
  refine (SameAnswer.log _ _ _ _ _ _).bind fun _ => ?_
  refine (SameAnswer.call (alike.run _ _)).bind fun result => ?_
  dsimp only
  cases TimeLimit.impose ⟨timeout⟩ result with
  | faulty fault => exact .fault fault
  | finished code output errors =>
    dsimp only
    split <;> exact .pure _
  | _ => exact .pure _

include moved

theorem buildArtifacts_moved (settings : Settings) :
    SameAnswer s s' (buildArtifacts f settings) (buildArtifacts g settings) := by
  obtain ⟨there, here, here'⟩ := alike.target
  unfold buildArtifacts
  rw [moved.relativeDir]
  refine (SameAnswer.hasDirectory here here').bind fun there => ?_
  split
  · refine (trackedPaths_moved alike _).bind fun tracked => ?_
    split <;> exact .pure _
  · exact .pure _

theorem reactorBuild_moved (settings : Settings) :
    SameAnswer s s' (reactorBuild f settings) (reactorBuild g settings) := by
  unfold reactorBuild
  rw [moved.relativeDir]
  split
  · refine (readRegistration_moved moved).bind fun registered => ?_
    split
    · refine (compileModule_moved alike _ _ _).bind fun built => ?_
      split
      · exact .pure _
      · exact (SameAnswer.log _ _ _ _ _ _).bind fun _ => .pure _
    · exact .pure _
  · exact .pure _

end Packaging

/-! ## Checks that name a place -/

/-- Both verdicts have the same severity, or there is no verdict on either side. -/
def SameSeverity (x y : Except Fault Verdict) : Prop :=
  x.toOption.map Verdict.severity = y.toOption.map Verdict.severity

theorem Packaging.parentRegistration_moved (moved : f.Moved g) (settings : Settings) :
    SameSeverity ((parentRegistration f settings).answer s) ((parentRegistration g settings).answer s') := by
  rw [SameSeverity, parentRegistration_severity, parentRegistration_severity,
    moved.congr registered?_unplaced]

namespace Naming

/-- An icon of the connector is looked for in the directory of icons, and not anywhere else. -/
def PlainIcons (f : FileSet) : Prop :=
  ∀ name, f.primary.returnedString "getName" = some name →
    ∀ icon ∈ iconCandidates name, '/' ∉ icon.toList

theorem toOption_bind {ε α β : Type} (x : Except ε α) (f : α → Except ε β) :
    (x >>= f).toOption = x.toOption.bind fun a => (f a).toOption := by cases x <;> rfl

theorem toOption_hasFile (p : Path) (s : Surroundings) :
    ((Inspect.hasFile p).answer s).toOption = (s.disk.hasFile p).toOption := by
  rw [Inspect.answer, Inspect.hasFile, Inspect.start_disk]
  cases s.disk.hasFile p <;> rfl

theorem toOption_firstIcon (directory : Path) (icon : String) (icons : List String) (s : Surroundings) :
    ((firstIcon directory (icon :: icons)).answer s).toOption =
      (s.disk.hasFile (directory.child icon)).toOption.bind fun there =>
        if there then some (some icon) else ((firstIcon directory icons).answer s).toOption := by
  rw [firstIcon, Inspect.answer_bind _ fun there => by
    split
    · exact Inspect.isSteady_pure _
    · exact (firstIcon_asks directory icons).isSteady, toOption_bind, toOption_hasFile]
  refine congrArg _ (funext fun there => ?_)
  cases there <;> rfl

/-- The same icon is found first if the same ones are there. -/
theorem firstIcon_moved {directory directory' : Path} {icons : List String}
    (same : ∀ icon ∈ icons, (s.disk.hasFile (directory.child icon)).toOption =
      (s'.disk.hasFile (directory'.child icon)).toOption) :
    ((firstIcon directory icons).answer s).toOption =
      ((firstIcon directory' icons).answer s').toOption := by
  induction icons with
  | nil => rfl
  | cons icon icons ih =>
    obtain ⟨first, others⟩ := List.forall_mem_cons.1 same
    rw [toOption_firstIcon, toOption_firstIcon, first, ih others]

theorem iconDirectory_eq (beside : settings.icons = .besideCheckout) (m : Module) :
    settings.iconDirectory m.root = .ok m.icons := by
  rw [Settings.iconDirectory, beside]
  dsimp only
  rw [Path.child_eq (by decide +kernel) (by decide) (by decide),
    Path.child_eq (by decide +kernel) (by decide) (by decide),
    Path.child_eq (by decide +kernel) (by decide) (by decide)]
  simp only [Path.below_below, Module.icons, List.cons_append, List.nil_append]

/-- The severity of the verdict on the icon of a connector with a name. -/
theorem connectorIcon_severity {name : String} {there : Bool}
    (beside : settings.icons = .besideCheckout)
    (shown : (f.primary.returnedString "getName").filter (!·.isEmpty) = some name)
    (directory : s.disk.hasDirectory f.module.icons = .ok there) :
    ((connectorIcon f settings).answer s).toOption.map Verdict.severity =
      if there then
        ((firstIcon f.module.icons ((iconCandidates name).map (· ++ ".svg"))).answer s).toOption.map
          fun icon => if icon.isSome then some .pass else none
      else some (some .skip) := by
  unfold connectorIcon
  rw [shown, iconDirectory_eq beside]
  dsimp only
  rw [Inspect.answer, Inspect.start_bind, Inspect.start_ofExcept]
  dsimp only
  rw [Inspect.start_bind, Inspect.start_hasDirectory, directory]
  cases there with
  | false => rfl
  | true =>
    dsimp only
    rw [if_pos rfl, if_pos rfl, Inspect.start_bind, Inspect.answer]
    rcases (firstIcon f.module.icons _).start s {} with ⟨e | _ | icon, j⟩ <;> rfl

theorem connectorIcon_moved (moved : f.Moved g) (alike : Module.SameAnswers s s' f.module g.module)
    (beside : settings.icons = .besideCheckout) (plain : PlainIcons f) :
    SameSeverity ((connectorIcon f settings).answer s) ((connectorIcon g settings).answer s') := by
  have display : f.primary.returnedString "getName" = g.primary.returnedString "getName" :=
    moved.congr (v := fun f => f.primary.returnedString "getName") fun _ => rfl
  cases shown : (f.primary.returnedString "getName").filter (!·.isEmpty) with
  | none =>
    unfold connectorIcon
    rw [← display, shown]
    rfl
  | some name =>
    obtain ⟨there, here, here'⟩ := alike.icons
    rw [SameSeverity, connectorIcon_severity beside shown here,
      connectorIcon_severity beside (display ▸ shown) here']
    cases there with
    | false => rfl
    | true =>
      have named := plain name (Option.filter_eq_some_iff.1 shown).1
      rw [if_pos rfl, if_pos rfl, firstIcon_moved (List.forall_mem_map.2 fun icon h =>
        alike.icon here icon (named icon h))]

end Naming

/-! ## All checks -/

/-- The two verdicts that the check of an id gives are the same; those that name a place have the same
severity. -/
structure SameVerdict (id : String) (x y : Except Fault Verdict) : Prop where
  severity : SameSeverity x y
  verdict : id ≠ "CHK-108" → id ≠ "CHK-401" → x = y

theorem SameVerdict.of_eq {id : String} {x y : Except Fault Verdict} (h : x = y) :
    SameVerdict id x y := ⟨by rw [SameSeverity, h], fun _ _ => h⟩

/-- The checks that look at more than Java files. -/
def beyondJava : Registry Check := [
  ("CHK-101", Packaging.versionDescriptor),
  ("CHK-102", Packaging.moduleManifest),
  ("CHK-103", Packaging.shadePlugin),
  ("CHK-104", Packaging.buildArtifacts),
  ("CHK-108", Naming.connectorIcon),
  ("CHK-401", Packaging.parentRegistration),
  ("CHK-402", Packaging.reactorBuild),
  ("CHK-403", Packaging.managedVersions),
  ("CHK-404", Packaging.internalVersions)]

theorem bundled_readsJava : ∀ entry ∈ Registry.bundled, entry ∈ beyondJava ∨ entry.2.ReadsJava := by
  simp only [Registry.bundled, List.forall_mem_cons, List.not_mem_nil, false_imp_iff, implies_true,
    and_true]
  and_intros
  all_goals first
    | (left; simp [beyondJava]; done)
    | exact .inr (.ofFiles fun _ => rfl)

/-- The check of a bundled rule comes to the same verdict on a module and on a moved copy of it, if the
surroundings of both answer alike. -/
theorem bundled_moved (moved : f.Moved g) (alike : Module.SameAnswers s s' f.module g.module)
    (beside : settings.icons = .besideCheckout) (plain : Naming.PlainIcons f) :
    ∀ entry ∈ Registry.bundled,
      SameVerdict entry.1 ((entry.2 f settings).answer s) ((entry.2 g settings).answer s') := by
  intro entry he
  rcases bundled_readsJava entry he with beyond | reads
  · simp only [beyondJava, List.mem_cons, List.not_mem_nil, or_false] at beyond
    rcases beyond with rfl | rfl | rfl | rfl | rfl | rfl | rfl | rfl | rfl
    · exact .of_eq (Packaging.versionDescriptor_ignoresPlaces.moved moved settings)
    · exact .of_eq (Packaging.moduleManifest_ignoresPlaces.moved moved settings)
    · exact .of_eq ((Packaging.ofManifest_ignoresPlaces _).moved moved settings)
    · exact .of_eq (Packaging.buildArtifacts_moved moved alike settings).answer
    · exact ⟨Naming.connectorIcon_moved moved alike beside plain, fun other => absurd rfl other⟩
    · exact ⟨Packaging.parentRegistration_moved moved settings, fun _ other => absurd rfl other⟩
    · exact .of_eq (Packaging.reactorBuild_moved moved alike settings).answer
    · exact .of_eq ((Packaging.ofManifest_ignoresPlaces _).moved moved settings)
    · exact .of_eq ((Packaging.ofManifest_ignoresPlaces _).moved moved settings)
  · have overlooks := bundled_overlooks Source.unnoticed_unplaced entry he
    exact .of_eq ((reads.ignoresPlaces overlooks).moved moved settings)

end ModuleAudit
