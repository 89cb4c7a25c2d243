import ModuleAudit.Connector.Location
import ModuleAudit.Proofs.Disk.Access

/-!
# Which files a module has

`FileSet.locate` is tied to what lies where on the disk, whatever the depth and the shape of the tree.
A file lies below a directory if it can be read at a path that leads down from there
(`FileSet.LiesBelow`); of several the first in path order counts (`FileSet.IsFirst`).

* `locate_start`: what `locate` does, search by search;
* `locate_answer`: the answer, by what the searches of the three directories find;
* `locate_texts`: what `locate` does depends on the texts that the disk holds and where they lie, and
  on nothing else of the tree;
* `locate_finds`: a module is refused exactly if its directory is missing or no connector class lies
  below its sources, and otherwise its files are the ones that are meant (`FileSet.IsLocated`); listing
  directories in another order changes nothing. This holds unless a path is too long
  (`FileSet.Fits`): then the search ends with a fault that is not about the module
  (`long_name_is_no_invocation`).
-/

namespace ModuleAudit

theorem Module.toList_relativeDir (m : Module) :
    m.relativeDir.toList =
      "connectors".toList ++ '/' :: ("supaflow-connector-".toList ++ m.name.toList) := by
  have spelled : "connectors/supaflow-connector-".toList =
      "connectors".toList ++ '/' :: "supaflow-connector-".toList := by decide +kernel
  unfold Module.relativeDir
  rw [String.toList_append, spelled, List.append_assoc, List.cons_append]

/-- The directory of a module whose name has no slash. -/
theorem Module.directory_eq {m : Module} (h : '/' ∉ m.name.toList) :
    m.directory = m.root.below ["connectors", "supaflow-connector-" ++ m.name] := by
  have single : '/' ∉ "supaflow-connector-".toList ++ m.name.toList := by
    rw [List.mem_append, not_or]
    exact ⟨by decide +kernel, h⟩
  have parts : Path.names m.relativeDir.toList = ["connectors", "supaflow-connector-" ++ m.name] := by
    rw [toList_relativeDir, Path.names_append (by decide +kernel) (by decide +kernel) (by decide +kernel),
      Path.names_of_not_mem single (by simp) (by simp), ← String.toList_append, String.ofList_toList,
      String.ofList_toList]
  have leading : m.relativeDir.toList.takeWhile (· == '/') = [] := by
    rw [toList_relativeDir]
    rfl
  rw [Module.directory, Path.child, Path.ofString, parts, leading]
  rfl

namespace FileSet

open Inspect (start_hasDirectory start_read)

/-- A file below a directory whose name has an ending. -/
structure LiesBelow (d : Disk) (directory : Path) (ending : String) (file : Path × List UInt8) :
    Prop where
  below : file.1.IsBelow directory
  read : d.read file.1 = .ok file.2
  ending : hasEnding ending file.1 = true

/-- The first of some files in path order, or nothing if there is none. -/
inductive IsFirst (files : Path × List UInt8 → Prop) : Option (Path × List UInt8) → Prop
  | nothing (absent : ∀ file, ¬ files file) : IsFirst files none
  | least {file : Path × List UInt8} (here : files file)
      (first : ∀ other, files other → file.1.le other.1 = true) : IsFirst files (some file)

/-- What is known of an optional file: its text, if there is a file to read. -/
structure IsText (d : Disk) (p : Path) (found : Option TextFile) : Prop where
  found_iff : ∀ file, found = some file ↔ ∃ bytes, d.read p = .ok bytes ∧ file = ⟨p, Disk.textOf bytes⟩

/-- The files of a module as they lie on the disk. -/
structure IsLocated (d : Disk) (m : Module) (f : FileSet) : Prop where
  module : f.module = m
  primary : ∃ file, f.primary = sourceOf file ∧
    IsFirst (LiesBelow d (sourceDirectory m) "Connector.java") (some file)
  helpers : ∃ files : List (Path × List UInt8), f.helpers = files.map sourceOf ∧
    files.Pairwise (fun a b => a.1.Before b.1) ∧
    ∀ file, file ∈ files ↔ LiesBelow d f.primary.path.parent ".java" file ∧ file.1 ≠ f.primary.path
  integrationTest : ∃ file : Option (Path × List UInt8), f.integrationTest = file.map sourceOf ∧
    IsFirst (LiesBelow d (testDirectory m) "ConnectorIT.java") file
  manifest : IsText d (m.directory.child "pom.xml") f.manifest
  resource : IsText d (m.directory.child "src/main/resources/version.properties") f.resource
  parentManifest : IsText d (m.root.child "pom.xml") f.parentManifest

/-- The directories that are searched can be asked about, and the files in the module can be read. -/
structure Fits (d : Disk) (m : Module) : Prop where
  directory : d.follow m.directory ≠ .error .nameTooLong
  source : d.follow (sourceDirectory m) ≠ .error .nameTooLong
  test : d.follow (testDirectory m) ≠ .error .nameTooLong
  files : ∀ file ∈ d.filesBelow m.directory, file.1.size ≤ Disk.longestPath

variable {d : Disk} {q : Path} {m : Module} {s : Surroundings} {j : Journal}

theorem sourceDirectory_eq (m : Module) :
    sourceDirectory m = m.directory.below ["src", "main", "java", "io", "supaflow", "connector"] := rfl

theorem testDirectory_eq (m : Module) : testDirectory m = m.directory.below ["src", "test"] := rfl

/-! ## Searching a directory -/

theorem LiesBelow.directory (proper : d.top.IsProper) {ending : String} {file : Path × List UInt8}
    (h : LiesBelow d q ending file) : d.hasDirectory q = .ok true :=
  Disk.hasDirectory_of_below proper h.below h.read

theorem mem_filesWith_iff (proper : d.top.IsProper) (directory : d.hasDirectory q = .ok true)
    (short : ∀ file ∈ d.filesBelow q, file.1.size ≤ Disk.longestPath) {ending : String}
    {file : Path × List UInt8} : file ∈ filesWith d q ending ↔ LiesBelow d q ending file := by
  rw [filesWith, List.mem_filter, Disk.mem_filesBelow_iff proper directory short]
  exact ⟨fun h => ⟨h.1.1, h.1.2, h.2⟩, fun h => ⟨⟨h.below, h.read⟩, h.ending⟩⟩

theorem pairwise_filesWith (proper : d.top.IsProper) (q : Path) (ending : String) :
    (filesWith d q ending).Pairwise fun a b => a.1.Before b.1 :=
  (Disk.pairwise_filesBelow proper q).filter _

theorem IsFirst.here {files : Path × List UInt8 → Prop} {file : Path × List UInt8} :
    IsFirst files (some file) → files file
  | .least here _ => here

theorem IsFirst.absent {files : Path × List UInt8 → Prop} :
    IsFirst files none → ∀ file, ¬ files file
  | .nothing absent => absent

theorem isFirst_head? {files : Path × List UInt8 → Prop} {l : List (Path × List UInt8)}
    (order : l.Pairwise fun a b => a.1.Before b.1) (mem : ∀ file, file ∈ l ↔ files file) :
    IsFirst files l.head? := by
  cases l with
  | nil => exact .nothing fun file hfile => List.not_mem_nil ((mem file).2 hfile)
  | cons first rest =>
    refine .least ((mem first).1 List.mem_cons_self) fun other h => ?_
    rcases List.mem_cons.1 ((mem other).2 h) with rfl | later
    · exact Path.le_refl _
    · exact ((List.pairwise_cons.1 order).1 other later).1

/-- The first file below a directory whose name has an ending, if the directory is there. -/
@[irreducible] def first (d : Disk) (directory : Path) (ending : String) : Option (Path × List UInt8) :=
  if d.hasDirectory directory = .ok true then (filesWith d directory ending).head? else none

theorem isFirst_first (proper : d.top.IsProper)
    (short : ∀ file ∈ d.filesBelow q, file.1.size ≤ Disk.longestPath) (ending : String) :
    IsFirst (LiesBelow d q ending) (first d q ending) := by
  rw [first]
  split
  next directory =>
    exact isFirst_head? (pairwise_filesWith proper q ending) fun _ =>
      mem_filesWith_iff proper directory short
  next missing => exact .nothing fun file h => missing (h.directory proper)

/-! ## The answer -/

/-- Whether a directory is there cannot be asked of a path that is too long. -/
theorem start_hasDirectory_bind {α : Type} (long : s.disk.follow q = .error .nameTooLong)
    (next : Bool → Inspect α) (j : Journal) :
    (Inspect.hasDirectory q >>= next).start s j = (.error (.access q .nameTooLong), j) := by
  rw [Inspect.start_bind, start_hasDirectory, Disk.hasDirectory, Disk.ask, long]

theorem findPrimary_start (h : s.disk.follow q ≠ .error .nameTooLong) (j : Journal) :
    ∃ j', (findPrimary q).start s j = (.ok (first s.disk q "Connector.java"), j') := by
  obtain ⟨b, hb⟩ := Disk.hasDirectory_eq_ok h
  rw [findPrimary, Inspect.start_bind, start_hasDirectory, first, hb]
  cases b with
  | false => exact ⟨j, rfl⟩
  | true =>
    dsimp only
    rw [if_pos rfl, if_pos rfl, Inspect.start_bind, start_read]
    dsimp only
    rcases filesWith s.disk q "Connector.java" with _ | ⟨file, _ | ⟨next, others⟩⟩
    · exact ⟨j, rfl⟩
    · exact ⟨j, rfl⟩
    · exact ⟨_, rfl⟩

theorem findIntegrationTest_start (h : s.disk.follow q ≠ .error .nameTooLong) (j : Journal) :
    ∃ j', (findIntegrationTest q).start s j = (.ok (first s.disk q "ConnectorIT.java"), j') := by
  obtain ⟨b, hb⟩ := Disk.hasDirectory_eq_ok h
  rw [findIntegrationTest, Inspect.start_bind, start_hasDirectory, first, hb]
  cases b <;> exact ⟨j, rfl⟩

/-- The other Java files around a connector class. -/
def helpersOf (d : Disk) (primary : Path × List UInt8) : List (Path × List UInt8) :=
  (filesWith d primary.1.parent ".java").filter (·.1 != primary.1)

/-- The files of a module, given its connector class and its integration test. -/
def around (d : Disk) (m : Module) (primary : Path × List UInt8) (test : Option (Path × List UInt8)) :
    FileSet where
  module := m
  primary := sourceOf primary
  helpers := (helpersOf d primary).map sourceOf
  integrationTest := test.map sourceOf
  manifest := readOptional d (m.directory.child "pom.xml")
  resource := readOptional d (m.directory.child "src/main/resources/version.properties")
  parentManifest := readOptional d (m.root.child "pom.xml")

/-- What is logged of a connector class that was found. -/
def primaryLines (d : Disk) (primary : Path × List UInt8) : List LogLine := [
  ⟨.info, .fileSearch, "primary file: " ++ primary.1.toString⟩,
  ⟨.debug, .fileSearch,
    s!"{(helpersOf d primary).length} helper file(s) under {primary.1.parent.toString}"⟩]

/-- What is logged of the search for the integration test. -/
def testLines (m : Module) (test : Option (Path × List UInt8)) : List LogLine :=
  if test.isNone then
    [⟨.info, .fileSearch, "no integration test file under " ++ (testDirectory m).toString⟩]
  else []

/-- The module's directory is asked for, then the connector class is searched for, then the integration
test. Each may end the search. -/
theorem locate_start (m : Module) (s : Surroundings) (j : Journal) :
    (locate m).start s j =
      match s.disk.hasDirectory m.directory with
      | .error e => (.error (.access m.directory e), j)
      | .ok false => (.error (.invocation (.moduleMissing m.directory)), j)
      | .ok true =>
        match (findPrimary (sourceDirectory m)).start s j with
        | (.error e, j) => (.error e, j)
        | (.ok none, j) => (.error (.invocation (.sourceMissing (sourceDirectory m))), j)
        | (.ok (some primary), j) =>
          match (findIntegrationTest (testDirectory m)).start s
              { j with log := j.log ++ primaryLines s.disk primary } with
          | (.error e, j) => (.error e, j)
          | (.ok test, j) =>
            (.ok (around s.disk m primary test), { j with log := j.log ++ testLines m test }) := by
  rw [locate, Inspect.start_bind, start_hasDirectory]
  rcases s.disk.hasDirectory m.directory with e | _ | _
  · rfl
  · rfl
  dsimp only
  rw [if_neg (show ¬ (!true) = true by decide), Inspect.start_bind]
  rcases (findPrimary (sourceDirectory m)).start s j with ⟨e | _ | primary, j⟩
  · rfl
  · rfl
  dsimp only
  rw [Inspect.start_bind, Inspect.start_log]
  dsimp only
  rw [Inspect.start_bind, start_read]
  dsimp only
  rw [Inspect.start_bind, Inspect.start_log, List.append_assoc]
  dsimp only
  simp only [primaryLines, helpersOf, List.cons_append, List.nil_append]
  rw [Inspect.start_bind]
  generalize (findIntegrationTest (testDirectory m)).start s _ = tested
  rcases tested with ⟨e | _ | file, j⟩
  · rfl
  · rfl
  · simp [testLines, around, helpersOf]

/-- What is found of a module, by what the searches find. -/
theorem locate_answer (directory : s.disk.follow m.directory ≠ .error .nameTooLong)
    (source : s.disk.follow (sourceDirectory m) ≠ .error .nameTooLong)
    (test : s.disk.follow (testDirectory m) ≠ .error .nameTooLong) (j : Journal) :
    ((locate m).start s j).1 =
      if s.disk.hasDirectory m.directory = .ok true then
        match first s.disk (sourceDirectory m) "Connector.java" with
        | none => .error (.invocation (.sourceMissing (sourceDirectory m)))
        | some primary => .ok (around s.disk m primary (first s.disk (testDirectory m) "ConnectorIT.java"))
      else .error (.invocation (.moduleMissing m.directory)) := by
  rw [locate_start]
  obtain ⟨b, hb⟩ := Disk.hasDirectory_eq_ok directory
  rw [hb]
  cases b with
  | false => rfl
  | true =>
    obtain ⟨j, searched⟩ := findPrimary_start source j
    rw [if_pos rfl]
    dsimp only
    rw [searched]
    rcases first s.disk (sourceDirectory m) "Connector.java" with _ | primary
    · rfl
    · obtain ⟨j, tested⟩ := findIntegrationTest_start test
        { j with log := j.log ++ primaryLines s.disk primary }
      dsimp only
      rw [tested]

/-- A question about a directory cannot be answered, because a name or the path is too long. -/
def IsTooLong (d : Disk) (e : Fault) : Prop :=
  ∃ p, e = .access p .nameTooLong ∧ d.follow p = .error .nameTooLong

/-- A search ends without an answer only for a path that is too long. -/
theorem findPrimary_fault {e : Fault} (h : ((findPrimary q).start s j).1 = .error e) :
    IsTooLong s.disk e := by
  by_cases long : s.disk.follow q = .error .nameTooLong
  · rw [findPrimary, start_hasDirectory_bind long] at h
    exact ⟨q, (Except.error.inj h).symm, long⟩
  · obtain ⟨_, ok⟩ := findPrimary_start long j
    exact nomatch h.symm.trans (congrArg Prod.fst ok)

theorem findIntegrationTest_fault {e : Fault} (h : ((findIntegrationTest q).start s j).1 = .error e) :
    IsTooLong s.disk e := by
  by_cases long : s.disk.follow q = .error .nameTooLong
  · rw [findIntegrationTest, start_hasDirectory_bind long] at h
    exact ⟨q, (Except.error.inj h).symm, long⟩
  · obtain ⟨_, ok⟩ := findIntegrationTest_start long j
    exact nomatch h.symm.trans (congrArg Prod.fst ok)

/-- Besides a module that is refused, only a path that is too long leaves the search without an
answer. -/
theorem locate_fault {e : Fault} (h : ((locate m).start s j).1 = .error e) :
    (∃ cause, e = .invocation cause) ∨ IsTooLong s.disk e := by
  rw [locate_start] at h
  rcases there : s.disk.hasDirectory m.directory with cause | _ | _ <;> rw [there] at h
  · obtain ⟨rfl, long⟩ := Disk.hasDirectory_eq_error there
    exact .inr ⟨m.directory, (Except.error.inj h).symm, long⟩
  · exact .inl ⟨_, (Except.error.inj h).symm⟩
  dsimp only at h
  rcases searched : (findPrimary (sourceDirectory m)).start s j with ⟨e' | _ | primary, j'⟩ <;>
    rw [searched] at h
  · obtain rfl : e' = e := Except.error.inj h
    exact .inr (findPrimary_fault (congrArg Prod.fst searched))
  · exact .inl ⟨_, (Except.error.inj h).symm⟩
  dsimp only at h
  rcases tested : (findIntegrationTest (testDirectory m)).start s
    { j' with log := j'.log ++ primaryLines s.disk primary } with ⟨e' | test, j''⟩ <;> rw [tested] at h
  · obtain rfl : e' = e := Except.error.inj h
    exact .inr (findIntegrationTest_fault (congrArg Prod.fst tested))
  · exact nomatch h

/-! ## What the answer depends on -/

/-- A file with its text. -/
def withText (file : Path × List UInt8) : Path × List Char := (file.1, Disk.textOf file.2)

theorem filter_withText (p : Path → Bool) {l l' : List (Path × List UInt8)}
    (h : l.map withText = l'.map withText) :
    (l.filter fun file => p file.1).map withText = (l'.filter fun file => p file.1).map withText := by
  have step (l : List (Path × List UInt8)) : (l.filter fun file => p file.1).map withText =
      (l.map withText).filter fun file => p file.1 := by
    rw [List.filter_map]
    rfl
  rw [step, step, h]

theorem withText_inj {a b : Path × List UInt8} :
    withText a = withText b ↔ a.1 = b.1 ∧ Disk.textOf a.2 = Disk.textOf b.2 := Prod.mk_inj

theorem sourceOf_eq (file : Path × List UInt8) :
    sourceOf file = .ofText (withText file).1 (withText file).2 := rfl

theorem map_sourceOf {l l' : List (Path × List UInt8)} (h : l.map withText = l'.map withText) :
    l.map sourceOf = l'.map sourceOf := by
  have sources := congrArg (List.map fun file => Java.Source.ofText file.1 file.2) h
  rw [List.map_map, List.map_map] at sources
  exact sources

theorem map_sourceOf? {o o' : Option (Path × List UInt8)} (h : o.map withText = o'.map withText) :
    o.map sourceOf = o'.map sourceOf := by
  have sources := congrArg (Option.map fun file => Java.Source.ofText file.1 file.2) h
  rw [Option.map_map, Option.map_map] at sources
  exact sources

section Texts

variable {d' : Disk} {s' : Surroundings}

theorem filesWith_texts (h : d.SameTexts d') (q : Path) (ending : String) :
    (filesWith d q ending).map withText = (filesWith d' q ending).map withText := by
  have below : (d.filesBelow q).map withText = (d'.filesBelow q).map withText := h.textsBelow q
  exact filter_withText (hasEnding ending) below

theorem readOptional_texts (h : d.SameTexts d') (p : Path) : readOptional d p = readOptional d' p := by
  have text := congrArg (Option.map fun text => TextFile.mk p text) (h.textAt? p)
  rw [Disk.textAt?, Disk.textAt?, Option.map_map, Option.map_map] at text
  exact text

/-- Both searches end with the same journal and with files of the same path and text. -/
structure SameFound (x y : Except Fault (Option (Path × List UInt8)) × Journal) : Prop where
  journal : x.2 = y.2
  found : x.1.map (Option.map withText) = y.1.map (Option.map withText)

theorem findPrimary_texts (h : s.disk.SameTexts s'.disk) (q : Path) (j : Journal) :
    SameFound ((findPrimary q).start s j) ((findPrimary q).start s' j) := by
  rw [findPrimary, Inspect.start_bind, Inspect.start_bind, start_hasDirectory, start_hasDirectory,
    h.hasDirectory]
  rcases s'.disk.hasDirectory q with e | _ | _
  · exact ⟨rfl, rfl⟩
  · exact ⟨rfl, rfl⟩
  · dsimp only
    rw [if_pos rfl, Inspect.start_bind, Inspect.start_bind, start_read, start_read]
    dsimp only
    have files := filesWith_texts h q "Connector.java"
    generalize filesWith s.disk q "Connector.java" = l,
      filesWith s'.disk q "Connector.java" = l' at files
    cases l with
    | nil =>
      obtain rfl : l' = [] := by simpa using files.symm
      exact ⟨rfl, rfl⟩
    | cons a l =>
      obtain ⟨a', l', rfl, here, rest⟩ := List.map_eq_cons_iff.1 files.symm
      have path := (withText_inj.1 here).1
      have found := congrArg (fun x => (Except.ok (some x) : Except Fault _)) here.symm
      cases l with
      | nil =>
        obtain rfl : l' = [] := by simpa using rest
        exact ⟨rfl, found⟩
      | cons b l =>
        obtain ⟨b', l', rfl, -, rest⟩ := List.map_eq_cons_iff.1 rest
        have count : l'.length = l.length := by
          simpa only [List.length_map] using congrArg List.length rest
        dsimp only
        rw [Inspect.start_bind, Inspect.start_bind, Inspect.start_log, Inspect.start_log, path,
          List.length_cons, List.length_cons, count]
        exact ⟨rfl, found⟩

theorem findIntegrationTest_texts (h : s.disk.SameTexts s'.disk) (q : Path) (j : Journal) :
    SameFound ((findIntegrationTest q).start s j) ((findIntegrationTest q).start s' j) := by
  rw [findIntegrationTest, Inspect.start_bind, Inspect.start_bind, start_hasDirectory,
    start_hasDirectory, h.hasDirectory]
  rcases s'.disk.hasDirectory q with e | _ | _
  · exact ⟨rfl, rfl⟩
  · exact ⟨rfl, rfl⟩
  · have files := congrArg List.head? (filesWith_texts h q "ConnectorIT.java")
    rw [List.head?_map, List.head?_map] at files
    exact ⟨rfl, congrArg Except.ok files⟩

theorem SameFound.eq_ok_or_error {x y : Except Fault (Option (Path × List UInt8)) × Journal}
    (h : SameFound x y) : (∃ e j, x = (.error e, j) ∧ y = (.error e, j)) ∨
      ∃ file file' j, x = (.ok file, j) ∧ y = (.ok file', j) ∧ file.map withText = file'.map withText := by
  obtain ⟨x, j⟩ := x
  obtain ⟨y, j'⟩ := y
  obtain ⟨journal, found⟩ := h
  obtain rfl : j = j' := journal
  rcases x with e | file <;> rcases y with e' | file'
  · obtain rfl : e = e' := Except.error.inj found
    exact .inl ⟨e, j, rfl, rfl⟩
  · exact nomatch found
  · exact nomatch found
  · exact .inr ⟨file, file', j, rfl, rfl, Except.ok.inj found⟩

section Around

variable {a b : Path × List UInt8} {test test' : Option (Path × List UInt8)}

theorem helpersOf_texts (h : d.SameTexts d') (same : withText a = withText b) :
    (helpersOf d a).map withText = (helpersOf d' b).map withText := by
  rw [helpersOf, helpersOf, (withText_inj.1 same).1]
  exact filter_withText (· != b.1) (filesWith_texts h _ _)

theorem primaryLines_texts (h : d.SameTexts d') (same : withText a = withText b) :
    primaryLines d a = primaryLines d' b := by
  have count := congrArg List.length (helpersOf_texts h same)
  rw [List.length_map, List.length_map] at count
  rw [primaryLines, primaryLines, count, (withText_inj.1 same).1]

theorem testLines_texts (same : test.map withText = test'.map withText) :
    testLines m test = testLines m test' := by
  have absent : test.isNone = test'.isNone := by simpa using congrArg Option.isNone same
  rw [testLines, testLines, absent]

theorem around_texts (h : d.SameTexts d') (same : withText a = withText b)
    (tests : test.map withText = test'.map withText) : around d m a test = around d' m b test' := by
  rw [around, around, sourceOf_eq a, sourceOf_eq b, same, map_sourceOf (helpersOf_texts h same),
    map_sourceOf? tests, readOptional_texts h, readOptional_texts h, readOptional_texts h]

end Around

/-- What is found of a module, and what is logged on the way, depends on the texts that the disk holds
and where they lie, and on nothing else of the tree. -/
theorem locate_texts (h : s.disk.SameTexts s'.disk) (m : Module) (j : Journal) :
    (locate m).start s j = (locate m).start s' j := by
  rw [locate_start, locate_start, h.hasDirectory]
  rcases s'.disk.hasDirectory m.directory with e | _ | _
  · rfl
  · rfl
  dsimp only
  obtain ⟨e, j, x, y⟩ | ⟨primary, primary', j, x, y, found⟩ :=
    (findPrimary_texts h (sourceDirectory m) j).eq_ok_or_error
  · rw [x, y]
  rw [x, y]
  cases primary with
  | none =>
    obtain rfl : primary' = none := by simpa using found.symm
    rfl
  | some file =>
    obtain ⟨file', rfl, same⟩ := Option.map_eq_some_iff.1 found.symm
    dsimp only
    rw [primaryLines_texts h same.symm]
    obtain ⟨e, j, x, y⟩ | ⟨test, test', j, x, y, tests⟩ :=
      (findIntegrationTest_texts h (testDirectory m) _).eq_ok_or_error
    · rw [x, y]
    · rw [x, y]
      dsimp only
      rw [around_texts h same.symm tests, testLines_texts tests]

end Texts

/-! ## The files that are meant -/

/-- The files below a directory of the module have paths that can be written down. -/
theorem Fits.short (fits : Fits d m) (proper : d.top.IsProper) {way : List String} (down : ".." ∉ way) :
    ∀ file ∈ d.filesBelow (m.directory.below way), file.1.size ≤ Disk.longestPath := by
  rcases found : d.follow (m.directory.below way) with e | u
  · rw [Disk.filesBelow_of_error found]
    exact fun _ => nofun
  · exact fun file h => fits.files file (Disk.filesBelow_subset proper down found h)

theorem isFirst_source (proper : d.top.IsProper) (fits : Fits d m) :
    IsFirst (LiesBelow d (sourceDirectory m) "Connector.java")
      (first d (sourceDirectory m) "Connector.java") := by
  refine isFirst_first proper ?_ "Connector.java"
  rw [sourceDirectory_eq]
  exact fits.short proper (by decide)

theorem isFirst_test (proper : d.top.IsProper) (fits : Fits d m) :
    IsFirst (LiesBelow d (testDirectory m) "ConnectorIT.java")
      (first d (testDirectory m) "ConnectorIT.java") := by
  refine isFirst_first proper ?_ "ConnectorIT.java"
  rw [testDirectory_eq]
  exact fits.short proper (by decide)

/-- The directory of the connector class is below the module's directory. -/
theorem short_package (proper : d.top.IsProper) (fits : Fits d m) {p : Path}
    (below : p.IsBelow (sourceDirectory m)) :
    ∀ file ∈ d.filesBelow p.parent, file.1.size ≤ Disk.longestPath := by
  obtain ⟨way, some, down, rfl⟩ := below
  rw [Path.parent_below some, sourceDirectory_eq, Path.below_below]
  refine fits.short proper ?_
  rw [List.mem_append, not_or]
  exact ⟨by decide, fun up => down (List.dropLast_subset _ up)⟩

theorem isText_readOptional (d : Disk) (p : Path) : IsText d p (readOptional d p) := by
  refine ⟨fun file => ?_⟩
  rw [readOptional]
  cases d.read p with
  | error e => simp [Except.toOption]
  | ok bytes => simp [Except.toOption, eq_comm]

theorem isLocated_around (proper : d.top.IsProper) (fits : Fits d m) {primary : Path × List UInt8}
    (h : IsFirst (LiesBelow d (sourceDirectory m) "Connector.java") (some primary)) :
    IsLocated d m (around d m primary (first d (testDirectory m) "ConnectorIT.java")) := by
  have here := h.here
  have directory := Disk.hasDirectory_of_below proper here.below.parent here.read
  have short := short_package proper fits here.below
  rw [around]
  constructor <;> dsimp only
  case primary => exact ⟨primary, rfl, h⟩
  case helpers =>
    refine ⟨_, rfl, (pairwise_filesWith proper _ _).filter _, fun file => ?_⟩
    rw [helpersOf, List.mem_filter, mem_filesWith_iff proper directory short, bne_iff_ne, sourceOf,
      Java.Source.ofText]
  case integrationTest => exact ⟨_, rfl, isFirst_test proper fits⟩
  case manifest => exact isText_readOptional d _
  case resource => exact isText_readOptional d _
  case parentManifest => exact isText_readOptional d _

/-- A module without a directory, or without a connector class below its sources. -/
def IsMissing (d : Disk) (m : Module) : Prop :=
  (¬ ∃ entries, d.follow m.directory = .ok (.directory entries)) ∨
    ∀ file, ¬ LiesBelow d (sourceDirectory m) "Connector.java" file

/-- A module is refused exactly if its directory is no directory or no connector class lies below its
sources, and otherwise its files are those that are meant, unless a path is too long: that is the only
other way to end without an answer. The order in which directories are listed does not matter. -/
theorem locate_finds (proper : s.disk.top.IsProper) (m : Module) (j : Journal) :
    (Fits s.disk m →
      ((∃ cause, ((locate m).start s j).1 = .error (.invocation cause)) ↔ IsMissing s.disk m) ∧
        (¬ IsMissing s.disk m → ∃ f, ((locate m).start s j).1 = .ok f ∧ IsLocated s.disk m f)) ∧
      (∀ e, ((locate m).start s j).1 = .error e →
        (∃ cause, e = .invocation cause) ∨ IsTooLong s.disk e) ∧
      ∀ top, s.disk.top.Relisted top →
        (locate m).start { s with disk := { s.disk with top } } j = (locate m).start s j := by
  refine ⟨fun fits => ?_, fun e => locate_fault, fun top relisted => ?_⟩
  · have search := isFirst_source proper fits
    rw [locate_answer fits.directory fits.source fits.test j]
    by_cases directory : s.disk.hasDirectory m.directory = .ok true
    · rw [if_pos directory]
      cases found : first s.disk (sourceDirectory m) "Connector.java" with
      | none =>
        have missing : IsMissing s.disk m := .inr (found ▸ search).absent
        exact ⟨⟨fun _ => missing, fun _ => ⟨_, rfl⟩⟩, fun h => absurd missing h⟩
      | some primary =>
        rw [found] at search
        have there : ¬ IsMissing s.disk m := fun missing => missing.elim
          (fun none => none (Disk.hasDirectory_eq_true.1 directory)) (fun none => none _ search.here)
        exact ⟨⟨fun ⟨_, h⟩ => (nomatch h), fun h => absurd h there⟩,
          fun _ => ⟨_, rfl, isLocated_around proper fits search⟩⟩
    · have missing : IsMissing s.disk m := .inl (mt Disk.hasDirectory_eq_true.2 directory)
      rw [if_neg directory]
      exact ⟨⟨fun _ => missing, fun _ => ⟨_, rfl⟩⟩, fun h => absurd missing h⟩
  · have same : s.disk.SameTexts { s.disk with top } :=
      ⟨rfl, relisted.texts proper, proper, relisted.proper proper⟩
    exact (locate_texts same m j).symm

/-- A module whose directory has too long a name is not refused: asking for the directory is a fault. -/
theorem locate_long (long : s.disk.follow m.directory = .error .nameTooLong) (j : Journal) :
    ((locate m).start s j).1 = .error (.access m.directory .nameTooLong) := by
  rw [locate, start_hasDirectory_bind long]

/-- A checkout with one module, whose sources are in a tree. -/
def checkout (directory : String) (sources : FileTree) : FileTree :=
  .under ["connectors", directory]
    (.under ["src", "main", "java", "io", "supaflow", "connector"] sources)

/-- A module with a connector class in each of two packages, one of which is listed out of order. -/
theorem locate_finds_first :
    let sources : FileTree := .directory [
      ("a-b", .directory [("AlphaConnector.java", .file [])]),
      ("a", .directory [("ZuluConnector.java", .file []), ("notes.txt", .file [])])]
    let s : Surroundings := ⟨⟨checkout "supaflow-connector-x" sources, ⟨1, []⟩⟩, fun _ => .notFound⟩
    let m : Module := ⟨⟨1, []⟩, "x"⟩
    Fits s.disk m ∧ ¬ IsMissing s.disk m ∧
      ∃ f, ((locate m).start s {}).1 = .ok f ∧ IsLocated s.disk m f := by
  intro sources s m
  have proper : s.disk.top.IsProper := by decide +kernel
  have there : m.directory = ⟨1, ["connectors", "supaflow-connector-x"]⟩ := by decide +kernel
  have found : s.disk.follow ⟨1, ["connectors", "supaflow-connector-x"]⟩ =
      .ok (.under ["src", "main", "java", "io", "supaflow", "connector"] sources) :=
    Disk.follow_under _ _ (by decide +kernel) (by decide +kernel)
  have fits : Fits s.disk m := by
    constructor
    case directory =>
      exact Disk.follow_ne (show s.disk.hasDirectory m.directory = .ok true by decide +kernel)
    case source =>
      exact Disk.follow_ne (show s.disk.hasDirectory (sourceDirectory m) = .ok true by decide +kernel)
    case test =>
      exact Disk.follow_ne (show s.disk.hasDirectory (testDirectory m) = .ok false by decide +kernel)
    case files =>
      rw [there]
      exact (Disk.forall_filesBelow found fun p => p.size ≤ Disk.longestPath).2 (by decide +kernel)
  have zulu : LiesBelow s.disk (sourceDirectory m) "Connector.java"
      ((sourceDirectory m).below ["a", "ZuluConnector.java"], []) :=
    ⟨⟨_, by decide, by decide, rfl⟩, by decide +kernel, by decide +kernel⟩
  have present : ¬ IsMissing s.disk m := by
    rintro (none | none)
    · exact none (Disk.hasDirectory_eq_true.1 (by decide +kernel))
    · exact none _ zulu
  exact ⟨fits, present, ((locate_finds proper m {}).1 fits).2 present⟩

/-- The name of a directory may be too long to ask about it: then the module is not refused, although
nothing lies at its directory. -/
theorem long_name_is_no_invocation :
    let s : Surroundings := ⟨⟨.under ["connectors"] .empty, ⟨1, []⟩⟩, fun _ => .notFound⟩
    let m : Module := ⟨⟨1, []⟩, String.ofList (List.replicate 300 'a')⟩
    s.disk.top.IsProper ∧ IsMissing s.disk m ∧
      ((locate m).start s {}).1 = .error (.access m.directory .nameTooLong) := by
  intro s m
  have letters (c : Char) (h : c ≠ 'a') : c ∉ m.name.toList := by
    rw [String.toList_ofList, List.mem_replicate]
    exact fun mem => h mem.2
  have path : m.directory = (Path.mk 1 ["connectors"]).below ["supaflow-connector-" ++ m.name] :=
    Module.directory_eq (letters _ (by decide))
  have plain : '\x00' ∉ ("supaflow-connector-" ++ m.name).toList := by
    rw [String.toList_append, List.mem_append, not_or]
    exact ⟨by decide +kernel, letters _ (by decide)⟩
  have long : s.disk.follow m.directory = .error .nameTooLong := by
    rw [path]
    exact Disk.follow_long (Disk.follow_under _ _ (by decide +kernel) (by decide +kernel))
      (by decide +kernel) plain (by decide +kernel)
  refine ⟨by decide +kernel, .inl ?_, ?_⟩
  · rw [long]
    exact nofun
  · exact locate_long long {}

end FileSet

end ModuleAudit
