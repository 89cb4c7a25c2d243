import ModuleAudit.Proofs.Checks.Moved
import ModuleAudit.Proofs.Connector.Location

/-!
# A module in another checkout

Two checkouts with the same content hold the same module (`Module.Relocated`). All that belongs to the
module lies at the end of the same way in both (`Relocated.sameAt`), as long as paths and names can be
written down (`Module.HasRoom`). So the search for its files ends alike (`FileSet.locate_relocated`): the
module is refused in both, or its files in one are a moved copy of its files in the other, with the
connector class at the end of the same way from the module's directory (`FileSet.Located`).
-/

namespace ModuleAudit

open ModuleAudit.Disk (SameAt SameFile)
open ModuleAudit.Java (Source)

namespace Module

/-- The path of the checkout leaves room for those of the module, the name of the module can be part of
a name, and the paths of its files can be written down. -/
structure HasRoom (d : Disk) (m : Module) : Prop where
  root : m.root.size + 512 ≤ Disk.longestPath
  name : m.name.utf8ByteSize ≤ 236
  files : ∀ file ∈ d.filesBelow m.directory, file.1.size ≤ Disk.longestPath

/-- The names from the checkout to the directory of a module. -/
def way (m : Module) : List String := ["connectors", "supaflow-connector-" ++ m.name]

theorem size_directoryName (m : Module) :
    ("supaflow-connector-" ++ m.name).utf8ByteSize = 19 + m.name.utf8ByteSize := by
  have front : "supaflow-connector-".utf8ByteSize = 19 := by decide +kernel
  rw [String.utf8ByteSize_append, front]

theorem sizeOfNames_way (m : Module) : Path.sizeOfNames m.way = 31 + m.name.utf8ByteSize := by
  have front : "connectors".utf8ByteSize = 10 := by decide +kernel
  rw [way, Path.sizeOfNames, Path.sizeOfNames, Path.sizeOfNames, size_directoryName, front]
  omega

theorem down_way (m : Module) : ".." ∉ m.way := by
  intro mem
  rw [way, List.mem_cons, List.mem_singleton] at mem
  rcases mem with e | e
  · exact absurd e (by decide)
  · have size := congrArg String.utf8ByteSize e
    rw [size_directoryName, show "..".utf8ByteSize = 2 by decide] at size
    omega

variable {d d' : Disk} {m m' : Module}

theorem HasRoom.fits (room : m.HasRoom d) : ∀ name ∈ m.way, name.utf8ByteSize ≤ Disk.longestName := by
  have name := room.name
  rw [way, List.forall_mem_cons, List.forall_mem_singleton, size_directoryName, Disk.longestName]
  exact ⟨by decide +kernel, by omega⟩

theorem HasRoom.short (room : m.HasRoom d) {way : List String} (short : Path.sizeOfNames way ≤ 245) :
    (m.root.below (m.way ++ way)).size ≤ Disk.longestPath := by
  have root := room.root
  have name := room.name
  have size := Path.size_below_le m.root (m.way ++ way)
  rw [Path.sizeOfNames_append, sizeOfNames_way] at size
  omega

/-- The same module in two checkouts that have the same content. -/
structure Relocated (d d' : Disk) (m m' : Module) : Prop where
  name : m.name = m'.name
  plain : '/' ∉ m.name.toList
  proper : d.top.IsProper
  proper' : d'.top.IsProper
  found : ∃ t, d.follow m.root = .ok t
  content : d.SameAt d' m.root m'.root
  room : m.HasRoom d
  room' : m'.HasRoom d'

namespace Relocated

variable (h : Relocated d d' m m')
include h

theorem symm : Relocated d' d m' m where
  name := h.name.symm
  plain := h.name ▸ h.plain
  proper := h.proper'
  proper' := h.proper
  found := by
    obtain ⟨t, found⟩ := h.found
    have content := h.content
    rcases found' : d'.follow m'.root with _ | u <;> rw [SameAt, found, found'] at content
    · cases content
    · exact ⟨u, rfl⟩
  content := h.content.symm
  room := h.room'
  room' := h.room

theorem way_eq : m.way = m'.way := by rw [way, way, h.name]

theorem directory_eq : m.directory = m.root.below m.way := Module.directory_eq h.plain

variable {way : List String}

/-- What belongs to the module lies at the end of the same way from the checkouts. -/
theorem below_eq (way : List String) : m.directory.below way = m.root.below (m.way ++ way) ∧
    m'.directory.below way = m'.root.below (m.way ++ way) := by
  rw [h.directory_eq, h.symm.directory_eq, h.way_eq, Path.below_below, Path.below_below]
  exact ⟨rfl, rfl⟩

theorem name_below (way : List String) :
    (m.directory.below way).name = (m'.directory.below way).name := by
  have some : m.way ++ way ≠ [] := nofun
  rw [(h.below_eq way).1, (h.below_eq way).2, Path.name_below some, Path.name_below some]

/-- The same texts lie there, if the paths can be written down. -/
theorem sameAt_of_short (down : ".." ∉ way) (short : (m.directory.below way).size ≤ Disk.longestPath)
    (short' : (m'.directory.below way).size ≤ Disk.longestPath) :
    d.SameAt d' (m.directory.below way) (m'.directory.below way) := by
  obtain ⟨_, found⟩ := h.found
  rw [(h.below_eq way).1] at short ⊢
  rw [(h.below_eq way).2] at short' ⊢
  exact h.content.below found (by simp [down, m.down_way]) short short'

theorem short (short : Path.sizeOfNames way ≤ 245) :
    (m.directory.below way).size ≤ Disk.longestPath := by
  rw [(h.below_eq way).1]
  exact h.room.short short

theorem sameAt (down : ".." ∉ way) (short : Path.sizeOfNames way ≤ 245) :
    d.SameAt d' (m.directory.below way) (m'.directory.below way) :=
  h.sameAt_of_short down (h.short short) (h.symm.short short)

/-- It can be told what lies there. -/
theorem told (down : ".." ∉ way) (fits : ∀ name ∈ way, name.utf8ByteSize ≤ Disk.longestName)
    (short : Path.sizeOfNames way ≤ 245) : d.follow (m.directory.below way) ≠ .error .nameTooLong := by
  obtain ⟨_, found⟩ := h.found
  rw [(h.below_eq way).1]
  exact Disk.follow_fits found (by simp [down, m.down_way])
    (List.forall_mem_append.2 ⟨h.room.fits, fits⟩) (h.room.short short)

theorem fits : FileSet.Fits d m where
  directory := by simpa using h.told (List.not_mem_nil : ".." ∉ []) nofun (by decide +kernel)
  source := by
    rw [FileSet.sourceDirectory_eq]
    exact h.told (by decide) (by decide +kernel) (by decide +kernel)
  test := by
    rw [FileSet.testDirectory_eq]
    exact h.told (by decide) (by decide +kernel) (by decide +kernel)
  files := h.room.files

end Relocated

end Module

namespace FileSet

open ModuleAudit.Module (Relocated)

variable {d d' : Disk} {m m' : Module} {s s' : Surroundings}

/-! ## Files with the same texts -/

section SameFile

variable {p q : Path} (top : p.name = q.name)
include top

theorem source_unplaced {a b : Path × List UInt8} (h : SameFile p q a b) :
    (sourceOf a).unplaced = (sourceOf b).unplaced := by
  have placed (file : Path × List UInt8) : (sourceOf file).unplaced =
    .ofText ⟨0, [file.1.name]⟩ (Disk.textOf file.2) := rfl
  rw [placed, placed, h.name top, h.text]

theorem sources_unplaced {l l' : List (Path × List UInt8)} (h : List.Forall₂ (SameFile p q) l l') :
    (l.map sourceOf).map Source.unplaced = (l'.map sourceOf).map Source.unplaced := by
  rw [List.map_map, List.map_map, ← List.forall₂_eq_eq_eq, List.forall₂_map_left_iff,
    List.forall₂_map_right_iff]
  exact h.imp fun _ _ => source_unplaced top

theorem source?_unplaced {o o' : Option (Path × List UInt8)} (h : Option.Rel (SameFile p q) o o') :
    (o.map sourceOf).map Source.unplaced = (o'.map sourceOf).map Source.unplaced := by
  cases h with
  | none => rfl
  | some file => exact congrArg some (source_unplaced top file)

variable (same : d.SameAt d' p q) (proper : d.top.IsProper) (proper' : d'.top.IsProper)
include same proper proper'

theorem filesWith_same (ending : String) :
    List.Forall₂ (SameFile p q) (filesWith d p ending) (filesWith d' q ending) := by
  refine List.rel_filter (fun a b file => ?_) (same.filesBelow proper proper')
  simp only [hasEnding, file.name top]

theorem first_same (ending : String) :
    Option.Rel (SameFile p q) (first d p ending) (first d' q ending) := by
  have files := filesWith_same top same proper proper' ending
  rw [first, first, same.hasDirectory]
  generalize filesWith d p ending = l, filesWith d' q ending = l' at files
  split
  · cases files with
    | nil => exact .none
    | cons file _ => exact .some file
  · exact .none

end SameFile

/-- The same text lies in both places, if any. -/
theorem readOptional_unplaced {p q : Path} (same : d.SameAt d' p q) :
    (readOptional d p).map TextFile.unplaced = (readOptional d' q).map TextFile.unplaced := by
  have text := congrArg (Option.map fun text => TextFile.mk ⟨0, []⟩ text) same.textAt?
  rw [Disk.textAt?, Disk.textAt?, Option.map_map, Option.map_map] at text
  rw [readOptional, readOptional, Option.map_map, Option.map_map]
  exact text

/-! ## The files of the module -/

/-- The files in the directory of a file lie at the end of the same ways, if the file does. -/
theorem package_same (h : Relocated d d' m m') {a b : Path × List UInt8}
    (file : SameFile m.directory m'.directory a b) (some : a.1 ≠ m.directory)
    (short : a.1.size ≤ Disk.longestPath) (short' : b.1.size ≤ Disk.longestPath) (ending : String) :
    List.Forall₂ (SameFile m.directory m'.directory) (filesWith d a.1.parent ending)
      (filesWith d' b.1.parent ending) := by
  obtain ⟨way, names, here, there⟩ := file.way
  rw [here] at some short
  rw [there] at short'
  have some : way ≠ [] := fun e => some (by rw [e, Path.below_nil])
  have empty : "" ∉ way := fun mem => absurd (names "" mem) (by decide +kernel)
  have package : ∀ name ∈ way.dropLast, isName name = true := fun name mem =>
    names name (List.dropLast_subset _ mem)
  have down : ".." ∉ way.dropLast := fun mem => Disk.isName_down (package _ mem) rfl
  rw [here, there, Path.parent_below some, Path.parent_below some]
  have same := h.sameAt_of_short down ((Path.size_below_dropLast_le _ empty).trans short)
    ((Path.size_below_dropLast_le _ empty).trans short')
  exact (filesWith_same (h.name_below _) same h.proper h.proper' ending).imp fun _ _ file =>
    file.above package

theorem test_same (h : Relocated d d' m m') :
    ((first d (testDirectory m) "ConnectorIT.java").map sourceOf).map Source.unplaced =
      ((first d' (testDirectory m') "ConnectorIT.java").map sourceOf).map Source.unplaced := by
  rw [testDirectory_eq, testDirectory_eq]
  have top := h.name_below ["src", "test"]
  exact source?_unplaced top
    (first_same top (h.sameAt (by decide) (by decide +kernel)) h.proper h.proper' _)

theorem manifest_same (h : Relocated d d' m m') :
    (readOptional d (m.directory.child "pom.xml")).map TextFile.unplaced =
      (readOptional d' (m'.directory.child "pom.xml")).map TextFile.unplaced := by
  have entry (p : Path) : p.child "pom.xml" = p.below ["pom.xml"] := rfl
  rw [entry, entry]
  exact readOptional_unplaced (h.sameAt (by decide) (by decide +kernel))

theorem resource_same (h : Relocated d d' m m') :
    (readOptional d (m.directory.child "src/main/resources/version.properties")).map TextFile.unplaced =
      (readOptional d' (m'.directory.child "src/main/resources/version.properties")).map
        TextFile.unplaced := by
  have spelled : Path.ofString "src/main/resources/version.properties" =
    ⟨0, ["src", "main", "resources", "version.properties"]⟩ := by decide +kernel
  have entry (p : Path) : p.child "src/main/resources/version.properties" =
      p.below ["src", "main", "resources", "version.properties"] := by
    rw [Path.child, spelled]
    rfl
  rw [entry, entry]
  exact readOptional_unplaced (h.sameAt (by decide) (by decide +kernel))

theorem parentManifest_same (h : Relocated d d' m m') :
    (readOptional d (m.root.child "pom.xml")).map TextFile.unplaced =
      (readOptional d' (m'.root.child "pom.xml")).map TextFile.unplaced := by
  have entry (p : Path) : p.child "pom.xml" = p.below ["pom.xml"] := rfl
  have short {d : Disk} {m : Module} (room : m.HasRoom d) :
      (m.root.below ["pom.xml"]).size ≤ Disk.longestPath := by
    have root := room.root
    have size := Path.size_below_le m.root ["pom.xml"]
    have name : Path.sizeOfNames ["pom.xml"] = 8 := by decide +kernel
    omega
  obtain ⟨_, found⟩ := h.found
  rw [entry, entry]
  exact readOptional_unplaced (h.content.below found (by decide) (short h.room) (short h.room'))

/-- Around the same connector class lie the same files. -/
theorem around_moved (h : Relocated d d' m m') {a b : Path × List UInt8}
    (file : SameFile m.directory m'.directory a b) (some : a.1 ≠ m.directory)
    (short : a.1.size ≤ Disk.longestPath) (short' : b.1.size ≤ Disk.longestPath) :
    (around d m a (first d (testDirectory m) "ConnectorIT.java")).Moved
      (around d' m' b (first d' (testDirectory m') "ConnectorIT.java")) := by
  have top : m.directory.name = m'.directory.name := by simpa using h.name_below []
  have helpers : List.Forall₂ (SameFile m.directory m'.directory) (helpersOf d a) (helpersOf d' b) := by
    refine List.rel_filter (fun x y other => ?_) (package_same h file some short short' ".java")
    obtain ⟨v, -, ha, hb⟩ := file.way
    obtain ⟨w, -, hx, hy⟩ := other.way
    simp only [bne_iff_ne, ha, hb, hx, hy, ne_eq, Path.below_inj]
  rw [around, around]
  refine .of_parts h.name ?_ ?_ ?_ ?_ ?_ ?_ <;> dsimp only
  · exact source_unplaced top file
  · exact sources_unplaced top helpers
  · exact test_same h
  · exact manifest_same h
  · exact resource_same h
  · exact parentManifest_same h

/-- The connector class of a module in two checkouts. -/
theorem primary_same (h : Relocated d d' m m') :
    Option.Rel (SameFile (sourceDirectory m) (sourceDirectory m'))
      (first d (sourceDirectory m) "Connector.java") (first d' (sourceDirectory m') "Connector.java") := by
  rw [sourceDirectory_eq, sourceDirectory_eq]
  exact first_same (h.name_below _) (h.sameAt (by decide) (by decide +kernel)) h.proper h.proper' _

/-- A file that is found has a path that can be written down. -/
theorem short_of_first (h : Relocated d d' m m') {a : Path × List UInt8}
    (found : first d (sourceDirectory m) "Connector.java" = some a) : a.1.size ≤ Disk.longestPath := by
  have search := isFirst_source h.proper h.fits
  rw [found] at search
  exact (Disk.follow_eq_ok.1 (Disk.read_eq_ok.1 search.here.read)).2.1

/-- The connector class lies in its module. -/
theorem primary_below {a b : Path × List UInt8}
    (file : SameFile (sourceDirectory m) (sourceDirectory m') a b) :
    SameFile m.directory m'.directory a b ∧ a.1 ≠ m.directory := by
  rw [sourceDirectory_eq, sourceDirectory_eq] at file
  refine ⟨file.above (by decide +kernel), fun e => ?_⟩
  obtain ⟨way, -, here, -⟩ := file.way
  rw [Path.below_below] at here
  have none := Path.below_inj.1 ((here.symm.trans e).trans (Path.below_nil m.directory).symm)
  exact nomatch none

/-- The files of a module were found in two checkouts. -/
structure Located (m m' : Module) (f g : FileSet) : Prop where
  module : f.module = m
  module' : g.module = m'
  moved : f.Moved g
  way : ∃ way, f.primary.path = m.directory.below way ∧ g.primary.path = m'.directory.below way

/-- The search for the files of a module in two checkouts with the same content is refused in both, or
finds moved copies of the same files. -/
theorem locate_relocated (h : Relocated s.disk s'.disk m m') (j j' : Journal) :
    (∃ cause cause', ((locate m).start s j).1 = .error (.invocation cause) ∧
      ((locate m').start s' j').1 = .error (.invocation cause')) ∨
    ∃ f g, ((locate m).start s j).1 = .ok f ∧ ((locate m').start s' j').1 = .ok g ∧
      Located m m' f g := by
  have fits := h.fits
  have fits' := h.symm.fits
  have directory : s.disk.hasDirectory m.directory = s'.disk.hasDirectory m'.directory := by
    simpa using (h.sameAt (List.not_mem_nil : ".." ∉ []) (by decide +kernel)).hasDirectory
  rw [locate_answer fits.directory fits.source fits.test,
    locate_answer fits'.directory fits'.source fits'.test, directory]
  have search := primary_same h
  by_cases there : s'.disk.hasDirectory m'.directory = .ok true
  · rw [if_pos there, if_pos there]
    rcases found : first s.disk (sourceDirectory m) "Connector.java" with _ | a <;>
      rcases found' : first s'.disk (sourceDirectory m') "Connector.java" with _ | b <;>
      rw [found, found'] at search
    · exact .inl ⟨_, _, rfl, rfl⟩
    · exact nomatch search
    · exact nomatch search
    · cases search with
      | some file =>
        obtain ⟨file, some⟩ := primary_below file
        obtain ⟨way, -, here, there⟩ := file.way
        have moved := around_moved h file some (short_of_first h found) (short_of_first h.symm found')
        exact .inr ⟨_, _, rfl, rfl, rfl, rfl, moved, way, here, there⟩
  · rw [if_neg there, if_neg there]
    exact .inl ⟨_, _, rfl, rfl⟩

end FileSet

/-! ## What checks ask about the module -/

namespace Module

variable {d d' : Disk} {m m' : Module} {s s' : Surroundings} {t : FileTree}

/-- The icons of a checkout lie no further from the root than its modules may. -/
theorem HasRoom.icons (room : m.HasRoom d) (parent : m.root.parent.size ≤ m.root.size) :
    m.icons.size + 256 ≤ Disk.longestPath := by
  have root := room.root
  have size := Path.size_below_le m.root.parent ["supaflow-www", "public", "connectors"]
  have names : Path.sizeOfNames ["supaflow-www", "public", "connectors"] = 31 := by decide +kernel
  rw [Module.icons]
  omega

/-- Whether there are icons can be told. -/
theorem HasRoom.icons_told (room : m.HasRoom d) (proper : d.top.IsProper) (down : ".." ∉ m.root.parts)
    (found : d.follow m.root = .ok t) : d.follow m.icons ≠ .error .nameTooLong := by
  obtain ⟨⟨_, parent⟩, size⟩ := Disk.follow_parent proper down found
  refine Disk.follow_fits parent (by decide) (by decide +kernel) ?_
  exact (Nat.le_add_right _ _).trans (room.icons size)

/-- The same icons can be found in two places with the same content. -/
theorem hasFile_icon {p q : Path} {entries : List (String × FileTree)} {icon : String}
    (same : d.SameAt d' p q) (found : d.follow p = .ok (.directory entries))
    (room : p.size + 256 ≤ Disk.longestPath) (room' : q.size + 256 ≤ Disk.longestPath)
    (plain : '/' ∉ icon.toList) :
    (d.hasFile (p.child (icon ++ ".svg"))).toOption = (d'.hasFile (q.child (icon ++ ".svg"))).toOption := by
  have ending : ".svg".utf8ByteSize = 4 := by decide +kernel
  have size : (icon ++ ".svg").utf8ByteSize = icon.utf8ByteSize + 4 := by
    rw [String.utf8ByteSize_append, ending]
  have differs {s : String} (short : s.utf8ByteSize < 4) : icon ++ ".svg" ≠ s := by
    rintro rfl
    omega
  have single : '/' ∉ (icon ++ ".svg").toList := by
    rw [String.toList_append, List.mem_append, not_or]
    exact ⟨plain, by decide +kernel⟩
  rw [Path.child_eq single (differs (by decide)) (differs (by decide)),
    Path.child_eq single (differs (by decide)) (differs (by decide))]
  by_cases long : (icon ++ ".svg").utf8ByteSize > Disk.longestName
  · obtain ⟨entries', found'⟩ := Disk.hasDirectory_eq_true.1
      (same.hasDirectory.symm.trans (Disk.hasDirectory_eq_true.2 ⟨entries, found⟩))
    rw [Disk.hasFile_long found long, Disk.hasFile_long found' long]
  · have short {r : Path} (room : r.size + 256 ≤ Disk.longestPath) :
        (r.below [icon ++ ".svg"]).size ≤ Disk.longestPath := by
      have below := Path.size_below_le r [icon ++ ".svg"]
      rw [Path.sizeOfNames, Path.sizeOfNames] at below
      rw [Disk.longestName] at long
      omega
    have down : ".." ∉ [icon ++ ".svg"] := by
      rw [List.mem_singleton]
      exact (differs (by decide)).symm
    rw [(same.below found down (short room) (short room')).hasFile]

theorem Relocated.sameAnswers (h : Relocated s.disk s'.disk m m') (down : ".." ∉ m.root.parts)
    (down' : ".." ∉ m'.root.parts) (icons : s.disk.contentAt? m.icons = s'.disk.contentAt? m'.icons)
    (run : ∀ args timeout, s.run ⟨args, m.root, timeout⟩ = s'.run ⟨args, m'.root, timeout⟩) :
    SameAnswers s s' m m' := by
  have entry (p : Path) : p.child "target" = p.below ["target"] :=
    Path.child_eq (by decide +kernel) (by decide) (by decide) p
  have built := h.told (show ".." ∉ ["target"] by decide) (by decide +kernel) (by decide +kernel)
  have same := h.sameAt (show ".." ∉ ["target"] by decide) (by decide +kernel)
  obtain ⟨_, found⟩ := h.found
  obtain ⟨_, found'⟩ := h.symm.found
  have told := h.room.icons_told h.proper down found
  have told' := h.room'.icons_told h.proper' down' found'
  constructor
  case target =>
    obtain ⟨there, answer⟩ := Disk.hasDirectory_eq_ok built
    rw [entry, entry, ← same.hasDirectory]
    exact ⟨there, answer, answer⟩
  case icons => exact Disk.hasDirectory_of_contentAt? icons told told'
  case icon =>
    intro there icon plain
    obtain ⟨entries, here⟩ := Disk.hasDirectory_eq_true.1 there
    have parent := (Disk.follow_parent h.proper down found).2
    have parent' := (Disk.follow_parent h.proper' down' found').2
    exact hasFile_icon (.of_contentAt? icons here) here (h.room.icons parent) (h.room'.icons parent') plain
  case run => exact run

end Module

end ModuleAudit
