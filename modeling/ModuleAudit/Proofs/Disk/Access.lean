import Mathlib.Data.List.Forall2
import ModuleAudit.Proofs.Disk.Content

/-!
# What lies where on a disk

A path that goes on from a directory without leading back up leads to what the directory's tree holds
there (`Disk.follow_below`), so the files that are listed below a directory are those that can be read
at a path below it (`Disk.mem_filesBelow_iff`), as long as their paths can be written down.

If the same texts lie at two paths (`Disk.SameAt`), questions about the paths have the same answers and the
same files are listed, with ways of their own from each (`SameAt.filesBelow`). That goes for all paths
of two disks that hold the same texts at the same places (`Disk.SameTexts`), and for paths that go on
alike from two places with the same texts (`SameAt.below`).
-/

namespace ModuleAudit

/-- A path leads from another one down to a place below it. -/
def Path.IsBelow (p q : Path) : Prop := ∃ way, way ≠ [] ∧ ".." ∉ way ∧ p = q.below way

/-- A path below another one is below the directory that its last name is in. -/
theorem Path.IsBelow.parent {p q : Path} (h : p.IsBelow q) : p.IsBelow p.parent := by
  obtain ⟨way, some, down, rfl⟩ := h
  refine ⟨[way.getLast some], nofun, ?_, ?_⟩
  · rw [List.mem_singleton]
    exact fun e => down (e ▸ List.getLast_mem some)
  · rw [Path.parent_below some, Path.below_below, List.dropLast_append_getLast]

namespace Disk

variable {d e : Disk} {p q : Path} {t u : FileTree} {way : List String} {bytes : List UInt8}
  {above above' : List FileTree}

/-! ## Going on from a place -/

@[simp] theorem followFrom_nil : followFrom above t [] = .ok t := rfl

theorem followFrom_file (name : String) (way : List String) :
    followFrom above (.file bytes) (name :: way) = .error .notDirectory := rfl

/-- One step down. -/
theorem followFrom_cons {name : String} (down : name ≠ "..") (above : List FileTree) (t : FileTree)
    (way : List String) :
    followFrom above t (name :: way) =
      match t with
      | .file _ => .error .notDirectory
      | .directory _ =>
        if name.utf8ByteSize > longestName then .error .nameTooLong
        else
          match t.entry? name with
          | none => .error .missing
          | some next => followFrom (t :: above) next way := by
  cases t with
  | file => rfl
  | directory entries => exact if_neg (mt beq_iff_eq.1 down)

theorem followFrom_cons_eq_ok {name : String} (down : name ≠ "..") :
    followFrom above t (name :: way) = .ok u ↔
      ¬ name.utf8ByteSize > longestName ∧
        ∃ next, t.entry? name = some next ∧ followFrom (t :: above) next way = .ok u := by
  rw [followFrom_cons down]
  cases t with
  | file => simp [ FileTree.entry?]
  | directory entries =>
    dsimp only
    split
    next long => simp [long]
    next fits => split <;> simp_all

theorem isName_down {name : String} (h : isName name = true) : name ≠ ".." := by
  rintro rfl
  revert h
  decide +kernel

theorem isName_short {name : String} (h : isName name = true) :
    ¬ name.utf8ByteSize > longestName := by
  simp only [isName, Bool.and_eq_true, decide_eq_true_eq] at h
  exact Nat.not_lt.2 h.2

/-- Where names lead, if they lead anywhere. -/
theorem followFrom_names (above : List FileTree) (t : FileTree)
    (names : ∀ name ∈ way, isName name = true) :
    (∀ u, t.at? way = some u → followFrom above t way = .ok u) ∧
      (t.at? way = none → ∃ e, e ≠ .nameTooLong ∧ followFrom above t way = .error e) := by
  induction way generalizing above t with
  | nil => simp
  | cons name way ih =>
    obtain ⟨first, others⟩ := List.forall_mem_cons.1 names
    rw [FileTree.at?_cons, followFrom_cons (isName_down first)]
    cases t with
    | file content => exact ⟨nofun, fun _ => ⟨.notDirectory, nofun, rfl⟩⟩
    | directory entries =>
      dsimp only
      rw [if_neg (isName_short first)]
      cases FileTree.entry? (.directory entries) name with
      | none => exact ⟨nofun, fun _ => ⟨.missing, nofun, rfl⟩⟩
      | some next => exact ih _ next others

/-- A way that does not lead back up ends at what the tree holds there. -/
theorem at?_of_followFrom (down : ".." ∉ way) (h : followFrom above t way = .ok u) :
    t.at? way = some u := by
  induction way generalizing above t with
  | nil => simpa using h
  | cons name way ih =>
    rw [List.mem_cons, not_or] at down
    obtain ⟨-, next, found, h⟩ := (followFrom_cons_eq_ok (Ne.symm down.1)).1 h
    rw [FileTree.at?_cons, found]
    exact ih down.2 h

/-- A step up, which leads nowhere from the top. -/
theorem followFrom_up (above : List FileTree) (entries : List (String × FileTree)) (way : List String) :
    followFrom above (.directory entries) (".." :: way) =
      followFrom above.tail (above.headD (.directory entries)) way := by
  cases above <;> rfl

theorem followFrom_append {v : List String} (h : followFrom above t v = .ok u) :
    ∃ above', ∀ w, followFrom above t (v ++ w) = followFrom above' u w := by
  induction v generalizing above t with
  | nil =>
    obtain rfl : t = u := by simpa using h
    exact ⟨above, fun _ => rfl⟩
  | cons name v ih =>
    by_cases up : name = ".."
    · subst up
      cases t with
      | file content => exact nomatch h
      | directory entries =>
        rw [followFrom_up] at h
        obtain ⟨above', go⟩ := ih h
        exact ⟨above', fun w => by rw [List.cons_append, followFrom_up, go]⟩
    · obtain ⟨fits, next, found, h⟩ := (followFrom_cons_eq_ok up).1 h
      obtain ⟨above', go⟩ := ih h
      refine ⟨above', fun w => ?_⟩
      cases t with
      | file content => exact nomatch found
      | directory entries =>
        rw [List.cons_append, followFrom_cons up]
        dsimp only
        rw [if_neg fits, found]
        exact go w

/-- A way that leads somewhere does so from each place on it. -/
theorem followFrom_of_append {v : List String} (h : followFrom above t (v ++ way) = .ok u) :
    ∃ above' x, followFrom above t v = .ok x ∧ followFrom above' x way = .ok u := by
  induction v generalizing above t with
  | nil => exact ⟨above, t, rfl, h⟩
  | cons name v ih =>
    rw [List.cons_append] at h
    by_cases up : name = ".."
    · subst up
      cases t with
      | file content => exact nomatch h
      | directory entries =>
        rw [followFrom_up] at h ⊢
        exact ih h
    · obtain ⟨fits, next, found, h⟩ := (followFrom_cons_eq_ok up).1 h
      obtain ⟨above', x, go, rest⟩ := ih h
      exact ⟨above', x, (followFrom_cons_eq_ok up).2 ⟨fits, next, found, go⟩, rest⟩

theorem followFrom_proper (habove : ∀ a ∈ above, a.IsProper) (ht : t.IsProper)
    (h : followFrom above t way = .ok u) : u.IsProper := by
  induction way generalizing above t with
  | nil =>
    obtain rfl : t = u := by simpa using h
    exact ht
  | cons name way ih =>
    by_cases up : name = ".."
    · subst up
      cases t with
      | file content => exact nomatch h
      | directory entries =>
        rw [followFrom_up] at h
        cases above with
        | nil => exact ih (List.forall_mem_nil _) ht h
        | cons last above =>
          obtain ⟨hlast, habove⟩ := List.forall_mem_cons.1 habove
          exact ih habove hlast h
    · obtain ⟨-, next, found, h⟩ := (followFrom_cons_eq_ok up).1 h
      exact ih (List.forall_mem_cons.2 ⟨ht, habove⟩) (ht.entry found).2 h

/-! ## Paths below a directory -/

/-- A path that can be written down leads where its names lead. -/
theorem follow_eq (null : '\x00' ∉ p.toString.toList) (short : p.size ≤ longestPath) :
    d.follow p = followFrom [] d.top (d.absolute p).parts := by
  rw [follow]
  simp only [List.contains_iff_mem]
  rw [if_neg null]
  exact if_neg (Nat.not_lt.2 short)

theorem follow_null (null : '\x00' ∈ p.toString.toList) : d.follow p = .error .nullCharacter := by
  rw [follow]
  simp only [List.contains_iff_mem]
  exact if_pos null

theorem follow_oversize (null : '\x00' ∉ p.toString.toList) (long : ¬ p.size ≤ longestPath) :
    d.follow p = .error .nameTooLong := by
  rw [follow]
  simp only [List.contains_iff_mem]
  rw [if_neg null]
  exact if_pos (Nat.not_le.1 long)

/-- A path leads somewhere if it can be written down and its names lead there. -/
theorem follow_eq_ok :
    d.follow p = .ok t ↔
      '\x00' ∉ p.toString.toList ∧ p.size ≤ longestPath ∧
        followFrom [] d.top (d.absolute p).parts = .ok t := by
  refine ⟨fun h => ?_, fun ⟨null, short, h⟩ => (follow_eq null short).trans h⟩
  by_cases null : '\x00' ∈ p.toString.toList
  · exact nomatch (follow_null null).symm.trans h
  · by_cases short : p.size ≤ longestPath
    · exact ⟨null, short, (follow_eq null short).symm.trans h⟩
    · exact nomatch (follow_oversize null short).symm.trans h

theorem parts_absolute_below (d : Disk) (p : Path) (way : List String) :
    (d.absolute (p.below way)).parts = (d.absolute p).parts ++ way := by
  rw [absolute, absolute, Path.join, Path.join, Path.isAbsolute_below]
  cases p.isAbsolute with
  | true => rfl
  | false => exact (List.append_assoc ..).symm

theorem follow_proper (h : d.top.IsProper) (found : d.follow p = .ok t) : t.IsProper :=
  followFrom_proper (List.forall_mem_nil _) h (follow_eq_ok.1 found).2.2

/-- A null character in a path below a place is one of the way from there. -/
theorem null_mem_below (found : d.follow q = .ok t) (way : List String) :
    '\x00' ∈ (q.below way).toString.toList ↔ ∃ name ∈ way, '\x00' ∈ name.toList := by
  have plain := (follow_eq_ok.1 found).1
  rw [Path.null_mem_toString] at plain ⊢
  constructor
  · rintro ⟨name, mem, null⟩
    rcases List.mem_append.1 mem with mem | mem
    · exact absurd ⟨name, mem, null⟩ plain
    · exact ⟨name, mem, null⟩
  · rintro ⟨name, mem, null⟩
    exact ⟨name, List.mem_append_right _ mem, null⟩

theorem isName_plain {name : String} (h : isName name = true) : '\x00' ∉ name.toList := by
  intro null
  simp [isName, null] at h

/-- What lies below a place is what its tree holds. -/
theorem follow_below (found : d.follow q = .ok t) (names : ∀ name ∈ way, isName name = true)
    (short : (q.below way).size ≤ longestPath) :
    (∀ u, t.at? way = some u → d.follow (q.below way) = .ok u) ∧
      (t.at? way = none → ∃ e, e ≠ .nameTooLong ∧ d.follow (q.below way) = .error e) := by
  have null : '\x00' ∉ (q.below way).toString.toList := fun null =>
    have ⟨name, mem, null⟩ := (null_mem_below found way).1 null
    isName_plain (names name mem) null
  obtain ⟨above, go⟩ := followFrom_append (follow_eq_ok.1 found).2.2
  have same : d.follow (q.below way) = followFrom above t way := by
    rw [follow_eq null short, parts_absolute_below, go]
  rw [same]
  exact followFrom_names above t names

/-- A name that is too long is not looked up, although the path may be short enough. -/
theorem follow_long {entries : List (String × FileTree)} {name : String}
    (found : d.follow q = .ok (.directory entries)) (long : name.utf8ByteSize > longestName)
    (null : '\x00' ∉ name.toList) (short : (q.below [name]).size ≤ longestPath) :
    d.follow (q.below [name]) = .error .nameTooLong := by
  obtain ⟨above, go⟩ := followFrom_append (follow_eq_ok.1 found).2.2
  have plain : '\x00' ∉ (q.below [name]).toString.toList := by
    simpa [null_mem_below found] using null
  have down : name ≠ ".." := by
    rintro rfl
    exact absurd long (by decide)
  rw [follow_eq plain short, parts_absolute_below, go, followFrom_cons down]
  exact if_pos long

/-- Where a tree lies at the end of a way from the root. -/
theorem follow_under (current : Path) (t : FileTree) (names : ∀ name ∈ way, isName name = true)
    (short : (Path.mk 1 way).size ≤ longestPath) :
    (Disk.mk (.under way t) current).follow ⟨1, way⟩ = .ok t := by
  have root : (Disk.mk (.under way t) current).follow ⟨1, []⟩ = .ok (.under way t) :=
    follow_eq_ok.2 ⟨by decide +kernel, by decide +kernel, rfl⟩
  exact (follow_below root names short).1 t (FileTree.at?_under way t)

/-- A name or a path that is too long is the only reason to leave open what lies at a path. -/
theorem follow_fits (found : d.follow q = .ok t) (down : ".." ∉ way)
    (fits : ∀ name ∈ way, name.utf8ByteSize ≤ longestName) (short : (q.below way).size ≤ longestPath) :
    d.follow (q.below way) ≠ .error .nameTooLong := by
  by_cases null : '\x00' ∈ (q.below way).toString.toList
  · rw [follow_null null]
    exact nofun
  · obtain ⟨above, go⟩ := followFrom_append (follow_eq_ok.1 found).2.2
    rw [follow_eq null short, parts_absolute_below, go]
    clear go null short found
    induction way generalizing above t with
    | nil => exact nofun
    | cons name way ih =>
      rw [List.mem_cons, not_or] at down
      obtain ⟨first, others⟩ := List.forall_mem_cons.1 fits
      rw [followFrom_cons (Ne.symm down.1)]
      cases t with
      | file content => exact nofun
      | directory entries =>
        dsimp only
        rw [if_neg (Nat.not_lt.2 first)]
        cases FileTree.entry? (.directory entries) name with
        | none => exact nofun
        | some next => exact ih down.2 others _

theorem at?_of_follow (found : d.follow q = .ok t) (down : ".." ∉ way)
    (h : d.follow (q.below way) = .ok u) : t.at? way = some u := by
  obtain ⟨above, go⟩ := followFrom_append (follow_eq_ok.1 found).2.2
  have path := (follow_eq_ok.1 h).2.2
  rw [parts_absolute_below, go] at path
  exact at?_of_followFrom down path

/-- What can be reached below a path lies in the tree that the path leads to. -/
theorem follow_of_below (h : d.top.IsProper) (down : ".." ∉ way)
    (found : d.follow (q.below way) = .ok u) : ∃ t, d.follow q = .ok t ∧ t.at? way = some u := by
  obtain ⟨null, short, path⟩ := follow_eq_ok.1 found
  rw [parts_absolute_below] at path
  obtain ⟨above, t, first, rest⟩ := followFrom_of_append path
  have lies := at?_of_followFrom down rest
  have names := ((followFrom_proper (List.forall_mem_nil _) h first).at? lies).1
  refine ⟨t, follow_eq_ok.2 ⟨fun mem => null ?_, ?_, first⟩, lies⟩
  · rw [Path.null_mem_toString] at mem ⊢
    obtain ⟨name, hname, isNull⟩ := mem
    exact ⟨name, List.mem_append_left _ hname, isNull⟩
  · refine (Path.size_le_size_below q fun empty => ?_).trans short
    exact absurd (names "" empty) (by decide +kernel)

/-- The directory that the last name of a path is in is there, and its path is no longer. -/
theorem follow_parent (h : d.top.IsProper) (down : ".." ∉ p.parts) (found : d.follow p = .ok t) :
    (∃ u, d.follow p.parent = .ok u) ∧ p.parent.size ≤ p.size := by
  rcases List.eq_nil_or_concat' p.parts with none | ⟨front, last, parts⟩
  · have same : p.parent = p := by
      obtain ⟨slashes, parts⟩ := p
      obtain rfl : parts = [] := none
      rfl
    rw [same]
    exact ⟨⟨t, found⟩, Nat.le_refl _⟩
  · have split : p = p.parent.below [last] := by
      obtain ⟨slashes, _⟩ := p
      obtain rfl := parts
      rw [Path.parent, Path.below, List.dropLast_concat]
    rw [parts, List.mem_append, not_or] at down
    rw [split] at found
    obtain ⟨u, top, lies⟩ := follow_of_below h down.2 found
    refine ⟨⟨u, top⟩, ?_⟩
    have name := ((follow_proper h top).at? lies).1
    rw [split, Path.parent_below (by simp), List.dropLast_singleton, Path.below_nil]
    exact Path.size_le_size_below _ fun empty => absurd (name _ empty) (by decide +kernel)

theorem read_eq_ok : d.read p = .ok bytes ↔ d.follow p = .ok (.file bytes) := by
  rw [read]
  rcases d.follow p with cause | _ | _ <;> simp

section Questions

variable {question : FileTree → Bool}

theorem ask_ok (h : d.follow p = .ok t) : d.ask p question = .ok (question t) := by rw [ask, h]

theorem ask_error {cause : AccessError} (h : d.follow p = .error cause) :
    d.ask p question = if cause = .nameTooLong then .error .nameTooLong else .ok false := by
  rw [ask, h]
  cases cause <;> rfl

end Questions

theorem hasDirectory_eq_true : d.hasDirectory p = .ok true ↔ ∃ entries, d.follow p = .ok (.directory entries) := by
  rw [hasDirectory]
  rcases found : d.follow p with cause | _ | _
  · rw [ask_error found]
    cases cause <;> simp
  · simp [ask_ok found, FileTree.isDirectory]
  · simp [ask_ok found, FileTree.isDirectory]

/-- Whether there is a file with a name that is too long cannot be told, unless no file has such a name. -/
theorem hasFile_long {entries : List (String × FileTree)} {name : String}
    (found : d.follow q = .ok (.directory entries)) (long : name.utf8ByteSize > longestName) :
    d.hasFile (q.below [name]) =
      if '\x00' ∈ name.toList then .ok false else .error .nameTooLong := by
  rw [hasFile]
  by_cases null : '\x00' ∈ name.toList
  · have spoilt : '\x00' ∈ (q.below [name]).toString.toList := by
      simpa [null_mem_below found] using null
    rw [ask_error (follow_null spoilt), if_pos null]
    rfl
  · rw [if_neg null]
    by_cases short : (q.below [name]).size ≤ longestPath
    · rw [ask_error (follow_long found long null short), if_pos rfl]
    · rw [ask_error (follow_oversize (by simpa [null_mem_below found] using null) short), if_pos rfl]

/-- The question whether a directory is there has an answer, unless a name or the path is too long. -/
theorem hasDirectory_eq_ok (h : d.follow p ≠ .error .nameTooLong) : ∃ b, d.hasDirectory p = .ok b := by
  rcases found : d.follow p with cause | t
  · have short : cause ≠ .nameTooLong := by
      rintro rfl
      exact h found
    exact ⟨false, by rw [hasDirectory, ask_error found, if_neg short]⟩
  · exact ⟨_, ask_ok found⟩

theorem follow_ne {b : Bool} (h : d.hasDirectory p = .ok b) : d.follow p ≠ .error .nameTooLong := by
  intro long
  rw [hasDirectory, ask_error long, if_pos rfl] at h
  cases h

theorem hasDirectory_eq_error {cause : AccessError} (h : d.hasDirectory p = .error cause) :
    cause = .nameTooLong ∧ d.follow p = .error .nameTooLong := by
  rcases found : d.follow p with cause' | t
  · rw [hasDirectory, ask_error found] at h
    by_cases long : cause' = .nameTooLong
    · rw [if_pos long] at h
      exact ⟨(Except.error.inj h).symm, congrArg _ long⟩
    · rw [if_neg long] at h
      cases h
  · rw [hasDirectory, ask_ok found] at h
    cases h

/-- What a file is below is a directory. -/
theorem hasDirectory_of_below (h : d.top.IsProper) (below : p.IsBelow q) (read : d.read p = .ok bytes) :
    d.hasDirectory q = .ok true := by
  obtain ⟨way, some, down, rfl⟩ := below
  obtain ⟨t, found, lies⟩ := follow_of_below h down (read_eq_ok.1 read)
  obtain ⟨name, way, rfl⟩ := List.exists_cons_of_ne_nil some
  cases t with
  | file content => exact nomatch lies
  | directory entries => exact hasDirectory_eq_true.2 ⟨entries, found⟩

/-! ## Files below a directory -/

/-- The files below a place, by the listing of its tree. -/
theorem filesBelow_eq (found : d.follow q = .ok t) :
    d.filesBelow q = t.listing.map fun file => (q.below file.1, file.2) := by
  rw [filesBelow, found, FileTree.listing]
  exact (List.map_mergeSort fun a _ b _ => (Path.below_le_below q a.1 b.1).symm).symm

theorem filesBelow_of_error {cause : AccessError} (h : d.follow q = .error cause) :
    d.filesBelow q = [] := by rw [filesBelow, h]

/-- What holds of the paths of all files below a place. -/
theorem forall_filesBelow (found : d.follow q = .ok t) (holds : Path → Prop) :
    (∀ file ∈ d.filesBelow q, holds file.1) ↔ ∀ file ∈ t.files, holds (q.below file.1) := by
  rw [filesBelow_eq found, List.forall_mem_map, FileTree.listing]
  simp only [List.mem_mergeSort]

/-- The files below a directory are among those below any directory above it. -/
theorem filesBelow_subset (h : d.top.IsProper) (down : ".." ∉ way)
    (found : d.follow (q.below way) = .ok u) : d.filesBelow (q.below way) ⊆ d.filesBelow q := by
  obtain ⟨t, top, lies⟩ := follow_of_below h down found
  have proper := follow_proper h top
  rw [filesBelow_eq found, filesBelow_eq top]
  intro file mem
  obtain ⟨⟨v, bytes⟩, listed, rfl⟩ := List.mem_map.1 mem
  rw [FileTree.mem_listing_iff (proper.at? lies).2] at listed
  refine List.mem_map.2 ⟨(way ++ v, bytes), ?_, by rw [Path.below_below]⟩
  rw [FileTree.mem_listing_iff proper, FileTree.at?_append, lies]
  exact listed

/-- The files below a directory come in path order, each of them once. -/
theorem pairwise_filesBelow (h : d.top.IsProper) (q : Path) :
    (d.filesBelow q).Pairwise fun a b => a.1.Before b.1 := by
  rcases found : d.follow q with cause | t
  · rw [filesBelow_of_error found]
    exact .nil
  · rw [filesBelow_eq found]
    refine List.pairwise_map.2 ((FileTree.pairwise_listing (follow_proper h found)).imp ?_)
    rintro a b ⟨le, ne⟩
    exact ⟨(Path.below_le_below q a.1 b.1).trans le, fun same => ne (Path.below_inj.1 same)⟩

/-- The files that are listed below a directory are those that can be read at a path below it. -/
theorem mem_filesBelow_iff (h : d.top.IsProper) (directory : d.hasDirectory q = .ok true)
    (short : ∀ file ∈ d.filesBelow q, file.1.size ≤ longestPath) :
    (p, bytes) ∈ d.filesBelow q ↔ p.IsBelow q ∧ d.read p = .ok bytes := by
  obtain ⟨entries, found⟩ := hasDirectory_eq_true.1 directory
  have proper := follow_proper h found
  have mem : (p, bytes) ∈ d.filesBelow q ↔
      ∃ way, p = q.below way ∧ (FileTree.directory entries).at? way = some (.file bytes) := by
    simp only [filesBelow_eq found, List.mem_map, Prod.mk.injEq, Prod.exists,
      FileTree.mem_listing_iff proper]
    constructor
    · rintro ⟨way, _, lies, rfl, rfl⟩
      exact ⟨way, rfl, lies⟩
    · rintro ⟨way, rfl, lies⟩
      exact ⟨way, _, lies, rfl, rfl⟩
  constructor
  · intro listed
    obtain ⟨way, rfl, lies⟩ := mem.1 listed
    have names := (proper.at? lies).1
    refine ⟨⟨way, ?_, fun up => isName_down (names _ up) rfl, rfl⟩, read_eq_ok.2 ?_⟩
    · rintro rfl
      exact nomatch lies
    · exact (follow_below found names (short _ listed)).1 _ lies
  · rintro ⟨⟨way, -, down, rfl⟩, read⟩
    exact mem.2 ⟨way, rfl, at?_of_follow found down (read_eq_ok.1 read)⟩

end Disk

/-! ## Disks with the same texts -/

namespace FileTree

variable {t u : FileTree}

theorem texts_entry (h : t.texts = u.texts) (name : String) :
    ( t.entry? name).map texts = ( u.entry? name).map texts := by
  have step way := congrFun h (name :: way)
  simp only [texts_cons] at step
  generalize t.entry? name = x, u.entry? name = y at step
  rcases x with _ | v <;> rcases y with _ | w
  · rfl
  · exact nomatch step []
  · exact nomatch step []
  · exact congrArg some (funext step)

theorem isDirectory_eq (t : FileTree) : t.isDirectory = (t.texts [] == some none) := by
  cases t <;> rfl

theorem isDirectory_congr (h : t.texts = u.texts) : t.isDirectory = u.isDirectory := by
  rw [isDirectory_eq, h, ← isDirectory_eq]

end FileTree

namespace Disk

variable {d e : Disk} {p q : Path} {t u : FileTree} {way : List String}

theorem followFrom_texts {above above' : List FileTree} (way : List String)
    (habove : above.map FileTree.texts = above'.map FileTree.texts) (ht : t.texts = u.texts) :
    (followFrom above t way).map FileTree.texts = (followFrom above' u way).map FileTree.texts := by
  induction way generalizing above above' t u with
  | nil => exact congrArg Except.ok ht
  | cons name way ih =>
    have kind := FileTree.isDirectory_congr ht
    cases t with
    | file => cases u with
      | file => rw [followFrom_file, followFrom_file]
      | directory => exact nomatch kind
    | directory => cases u with
      | file => exact nomatch kind
      | directory =>
        by_cases up : name = ".."
        · subst up
          rw [followFrom_up, followFrom_up]
          cases above with
          | nil =>
            obtain rfl : above' = [] := by simpa using habove.symm
            exact ih rfl ht
          | cons last above => cases above' with
            | nil => exact nomatch habove
            | cons last' above' =>
              obtain ⟨hlast, habove⟩ := List.cons.inj habove
              exact ih habove hlast
        · rw [followFrom_cons up, followFrom_cons up]
          dsimp only
          split
          · rfl
          · have entry := FileTree.texts_entry ht name
            generalize FileTree.entry? (.directory _) name = x at entry ⊢
            generalize FileTree.entry? (.directory _) name = y at entry ⊢
            rcases x with _ | v <;> rcases y with _ | w
            · rfl
            · exact nomatch entry
            · exact nomatch entry
            · exact ih (congrArg₂ List.cons ht habove) (Option.some.inj entry)

/-- What lies above a place does not matter for a way that does not lead back up. -/
theorem followFrom_above (down : ".." ∉ way) (above above' : List FileTree) (t : FileTree) :
    followFrom above t way = followFrom above' t way := by
  induction way generalizing above above' t with
  | nil => rw [followFrom_nil, followFrom_nil]
  | cons name way ih =>
    rw [List.mem_cons, not_or] at down
    rw [followFrom_cons (Ne.symm down.1), followFrom_cons (Ne.symm down.1)]
    cases t with
    | file content => rfl
    | directory entries =>
      dsimp only
      cases FileTree.entry? (.directory entries) name with
      | none => rfl
      | some next =>
        dsimp only
        rw [ih down.2 (_ :: above) (_ :: above')]

/-- The text of the file at a path. -/
def textAt? (d : Disk) (p : Path) : Option (List Char) := (d.read p).toOption.map textOf

/-- The files below the directory at a path, with their texts. -/
def textsBelow (d : Disk) (p : Path) : List (Path × List Char) :=
  (d.filesBelow p).map fun file => (file.1, textOf file.2)

/-! ### The same texts at two places -/

/-- The same texts lie at a path on one disk and at a path on another one, or the same fault keeps both
from being followed. -/
def SameAt (d e : Disk) (p q : Path) : Prop :=
  (d.follow p).map FileTree.texts = (e.follow q).map FileTree.texts

/-- What lies at a path, if anything: for each way from there nothing, a directory or a file with a text. -/
def contentAt? (d : Disk) (p : Path) : Option (List String → Option (Option (List Char))) :=
  (d.follow p).toOption.map FileTree.texts

/-- Where there is something, the same content is the same texts. -/
theorem SameAt.of_contentAt? (same : d.contentAt? p = e.contentAt? q) (found : d.follow p = .ok t) :
    d.SameAt e p q := by
  rw [contentAt?, contentAt?, found] at same
  rw [SameAt, found]
  generalize e.follow q = there at same
  rcases there with _ | u
  · exact nomatch same
  · exact congrArg Except.ok (Option.some.inj same)

/-- Two files lie at the end of one way, each from a path of its own, and have the same text. -/
structure SameFile (p q : Path) (a b : Path × List UInt8) : Prop where
  way : ∃ way, (∀ name ∈ way, isName name = true) ∧ a.1 = p.below way ∧ b.1 = q.below way
  text : textOf a.2 = textOf b.2

theorem SameFile.name {a b : Path × List UInt8} (h : SameFile p q a b) (top : p.name = q.name) :
    a.1.name = b.1.name := by
  obtain ⟨way, -, here, there⟩ := h.way
  rw [here, there]
  rcases eq_or_ne way [] with rfl | some
  · simpa using top
  · rw [Path.name_below some, Path.name_below some]

/-- The way may start further up. -/
theorem SameFile.above {a b : Path × List UInt8} {v : List String}
    (h : SameFile (p.below v) (q.below v) a b) (names : ∀ name ∈ v, isName name = true) :
    SameFile p q a b := by
  obtain ⟨way, down, here, there⟩ := h.way
  rw [Path.below_below] at here there
  exact ⟨⟨v ++ way, List.forall_mem_append.2 ⟨names, down⟩, here, there⟩, h.text⟩

/-- Paths that go on alike from places with the same texts lead to the same texts. -/
theorem SameAt.below (same : d.SameAt e p q) (found : d.follow p = .ok t) (down : ".." ∉ way)
    (short : (p.below way).size ≤ longestPath) (short' : (q.below way).size ≤ longestPath) :
    d.SameAt e (p.below way) (q.below way) := by
  obtain ⟨u, found', texts⟩ : ∃ u, e.follow q = .ok u ∧ t.texts = u.texts := by
    rcases found' : e.follow q with _ | u <;> rw [SameAt, found, found'] at same
    · exact nomatch same
    · exact ⟨u, rfl, Except.ok.inj same⟩
  rw [SameAt]
  by_cases null : ∃ name ∈ way, '\x00' ∈ name.toList
  · rw [follow_null ((null_mem_below found way).2 null), follow_null ((null_mem_below found' way).2 null)]
  · rw [follow_eq (mt (null_mem_below found way).1 null) short,
      follow_eq (mt (null_mem_below found' way).1 null) short', parts_absolute_below,
      parts_absolute_below]
    obtain ⟨above, go⟩ := followFrom_append (follow_eq_ok.1 found).2.2
    obtain ⟨above', go'⟩ := followFrom_append (follow_eq_ok.1 found').2.2
    rw [go, go', followFrom_above down above [], followFrom_above down above' []]
    exact followFrom_texts way rfl texts

theorem hasDirectory_of_error {cause : AccessError} (h : d.follow p = .error cause)
    (told : cause ≠ .nameTooLong) : d.hasDirectory p = .ok false := by
  rw [hasDirectory, ask_error h]
  cases cause <;> first | rfl | exact absurd rfl told

namespace SameAt

variable (h : d.SameAt e p q)
include h

/-- An answer that depends on the texts is the same at both places. -/
theorem ask {question : FileTree → Bool} (hq : ∀ {t u : FileTree}, t.texts = u.texts → question t = question u) :
    d.ask p question = e.ask q question := by
  rw [SameAt] at h
  rw [Disk.ask, Disk.ask]
  generalize d.follow p = x, e.follow q = y at h
  rcases x with a | t <;> rcases y with b | u
  · obtain rfl : a = b := Except.error.inj h
    rfl
  · exact nomatch h
  · exact nomatch h
  · exact congrArg Except.ok (hq (Except.ok.inj h))

theorem hasDirectory : d.hasDirectory p = e.hasDirectory q := h.ask FileTree.isDirectory_congr

theorem hasFile : d.hasFile p = e.hasFile q :=
  h.ask fun same => congrArg (!·) (FileTree.isDirectory_congr same)

theorem textAt? : d.textAt? p = e.textAt? q := by
  rw [SameAt] at h
  rw [Disk.textAt?, Disk.textAt?, read, read]
  generalize d.follow p = x, e.follow q = y at h
  rcases x with a | t <;> rcases y with b | u
  · rfl
  · exact nomatch h
  · exact nomatch h
  · have same := congrFun (Except.ok.inj h) []
    cases t <;> cases u <;> simp_all [FileTree.texts, FileTree.text?, Except.toOption]

/-- The same files lie at the end of the same ways, and are listed in the same order. -/
theorem filesBelow (proper : d.top.IsProper) (proper' : e.top.IsProper) :
    List.Forall₂ (SameFile p q) (d.filesBelow p) (e.filesBelow q) := by
  rw [SameAt] at h
  rcases hd : d.follow p with a | t <;> rcases he : e.follow q with b | u <;> rw [hd, he] at h
  · rw [filesBelow_of_error hd, filesBelow_of_error he]
    exact .nil
  · exact nomatch h
  · exact nomatch h
  · have same := FileTree.listing_texts (follow_proper proper hd) (follow_proper proper' he)
      (Except.ok.inj h)
    rw [← List.forall₂_eq_eq_eq, List.forall₂_map_left_iff, List.forall₂_map_right_iff] at same
    have names : ∀ file ∈ t.listing, ∀ name ∈ file.1, isName name = true := fun file mem =>
      have found := follow_proper proper hd
      (found.at? ((FileTree.mem_listing_iff found).1 mem)).1
    rw [filesBelow_eq hd, filesBelow_eq he, List.forall₂_map_left_iff, List.forall₂_map_right_iff]
    refine ((List.forall₂_and_left _ _).2 ⟨names, same⟩).imp fun a b ⟨names, e⟩ => ?_
    obtain ⟨way, text⟩ := Prod.mk.inj e
    exact ⟨⟨a.1, names, rfl, congrArg q.below way.symm⟩, text⟩

end SameAt

/-- Where it can be told whether there is a directory, the same content gives the same answer. -/
theorem hasDirectory_of_contentAt? (same : d.contentAt? p = e.contentAt? q)
    (told : d.follow p ≠ .error .nameTooLong) (told' : e.follow q ≠ .error .nameTooLong) :
    ∃ there, d.hasDirectory p = .ok there ∧ e.hasDirectory q = .ok there := by
  rcases here : d.follow p with cause | t
  · rcases there : e.follow q with cause' | u
    · exact ⟨false, hasDirectory_of_error here fun e => told (e ▸ here),
        hasDirectory_of_error there fun e => told' (e ▸ there)⟩
    · rw [contentAt?, contentAt?, here, there] at same
      exact nomatch same
  · obtain ⟨b, answer⟩ := hasDirectory_eq_ok told
    exact ⟨b, answer, (SameAt.of_contentAt? same here).hasDirectory ▸ answer⟩

/-! ### The same texts everywhere -/

/-- The disks start relative paths at the same place, and hold the same texts at the same places. -/
structure SameTexts (d e : Disk) : Prop where
  current : d.current = e.current
  texts : d.top.texts = e.top.texts
  proper : d.top.IsProper
  proper' : e.top.IsProper

namespace SameTexts

variable (h : d.SameTexts e) (p : Path)
include h

theorem sameAt : d.SameAt e p p := by
  have path : d.absolute p = e.absolute p := by rw [absolute, absolute, h.current]
  simp only [SameAt, follow, path]
  split
  · rfl
  · split
    · rfl
    · exact followFrom_texts _ rfl h.texts

theorem hasDirectory : d.hasDirectory p = e.hasDirectory p := (h.sameAt p).hasDirectory

theorem hasFile : d.hasFile p = e.hasFile p := (h.sameAt p).hasFile

theorem textAt? : d.textAt? p = e.textAt? p := (h.sameAt p).textAt?

theorem textsBelow : d.textsBelow p = e.textsBelow p := by
  rw [Disk.textsBelow, Disk.textsBelow, ← List.forall₂_eq_eq_eq, List.forall₂_map_left_iff,
    List.forall₂_map_right_iff]
  refine ((h.sameAt p).filesBelow h.proper h.proper').imp fun a b file => ?_
  obtain ⟨way, -, here, there⟩ := file.way
  rw [here, there, file.text]

end SameTexts

end Disk

end ModuleAudit
