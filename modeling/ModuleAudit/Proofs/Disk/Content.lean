import Mathlib.Data.List.Sort
import ModuleAudit.Disk.Access
import ModuleAudit.Proofs.Disk.PathOrder

/-!
# What a tree holds

`FileTree.at?` goes down a tree name by name. In a proper tree, where the entries of a directory have
names of their own (`FileTree.IsProper`), the files that are listed are those that lie somewhere
(`mem_files_iff`), and each is listed once (`nodup_ways`). So the files in path order
(`FileTree.listing`) do not depend on the order in which directories list their entries: two trees
that hold the same texts at the same places (`FileTree.texts`) have the same listing
(`listing_texts`).
-/

namespace ModuleAudit

/-- Whether a directory can have an entry with a name. -/
def isName (name : String) : Bool :=
  !name.isEmpty && name != "." && name != ".." && !name.toList.contains '/' &&
    !name.toList.contains '\x00' && name.utf8ByteSize ≤ Disk.longestName

namespace FileTree

/-- What lies at a way down. -/
def at? : FileTree → List String → Option FileTree
  | t, [] => some t
  | t, name :: way => ( t.entry? name).bind fun u => u.at? way

/-- In every directory the entries have names, and no two the same. -/
inductive IsProper : FileTree → Prop
  | file (bytes : List UInt8) : IsProper (.file bytes)
  | directory {entries : List (String × FileTree)} (distinct : (entries.map (·.1)).Nodup)
      (names : ∀ e ∈ entries, isName e.1 = true) (each : ∀ e ∈ entries, IsProper e.2) :
      IsProper (.directory entries)

/-- The text of a file. -/
def text? : FileTree → Option (List Char)
  | file bytes => some (Disk.textOf bytes)
  | directory _ => none

/-- What lies at each way down: nothing, a directory, or a file with a text. -/
def texts (t : FileTree) (way : List String) : Option (Option (List Char)) := (t.at? way).map text?

/-- The files in a tree in path order, with the way to each. -/
def listing (t : FileTree) : List (List String × List UInt8) :=
  t.files.mergeSort fun a b => (Path.mk 0 a.1).le ⟨0, b.1⟩

variable {t u : FileTree} {way : List String} {name : String} {bytes : List UInt8}
  {entries : List (String × FileTree)}

/-! ## Going down -/

@[simp] theorem at?_nil (t : FileTree) : t.at? [] = some t := by rw [at?]

theorem at?_cons (t : FileTree) (name : String) (way : List String) :
    t.at? (name :: way) = ( t.entry? name).bind fun u => u.at? way := by rw [at?]

theorem at?_append (t : FileTree) (v w : List String) :
    t.at? (v ++ w) = (t.at? v).bind fun u => u.at? w := by
  induction v generalizing t with
  | nil => simp
  | cons name v ih =>
    rw [List.cons_append, at?_cons, at?_cons, Option.bind_assoc]
    exact congrArg _ (funext ih)

theorem texts_cons (t : FileTree) (name : String) (way : List String) :
    t.texts (name :: way) = ( t.entry? name).bind fun v => v.texts way := by
  rw [texts, at?_cons, Option.map_bind]
  rfl

theorem mem_of_lookup (h : entries.lookup name = some t) : (name, t) ∈ entries := by
  obtain ⟨before, after, rfl, -⟩ := List.lookup_eq_some_iff.1 h
  simp

theorem lookup_iff (distinct : (entries.map (·.1)).Nodup) :
    entries.lookup name = some t ↔ (name, t) ∈ entries := by
  refine ⟨mem_of_lookup, fun h => ?_⟩
  obtain ⟨before, after, rfl⟩ := List.append_of_mem h
  rw [List.map_append, List.map_cons, List.nodup_append] at distinct
  refine List.lookup_eq_some_iff.2 ⟨before, after, rfl, fun p hp => bne_iff_ne.2 fun same => ?_⟩
  exact distinct.2.2 p.1 (List.mem_map_of_mem hp) name List.mem_cons_self same.symm

theorem lookup_eq_none (h : name ∉ entries.map (·.1)) : entries.lookup name = none :=
  List.lookup_eq_none_iff.2 fun _ he => bne_iff_ne.2 fun same => h (same ▸ List.mem_map_of_mem he)

/-! ## Proper trees -/

theorem IsProper.entry (h : t.IsProper) (found : t.entry? name = some u) :
    isName name = true ∧ u.IsProper := by
  cases h with
  | file => exact nomatch found
  | directory _ names each =>
    have mem := mem_of_lookup found
    exact ⟨names (name, u) mem, each (name, u) mem⟩

theorem IsProper.at? (h : t.IsProper) (found : t.at? way = some u) :
    (∀ name ∈ way, isName name = true) ∧ u.IsProper := by
  induction way generalizing t with
  | nil =>
    obtain rfl : t = u := by simpa using found
    exact ⟨nofun, h⟩
  | cons name way ih =>
    rw [at?_cons, Option.bind_eq_some_iff] at found
    obtain ⟨v, entry, rest⟩ := found
    obtain ⟨first, proper⟩ := h.entry entry
    obtain ⟨others, last⟩ := ih proper rest
    exact ⟨List.forall_mem_cons.2 ⟨first, others⟩, last⟩

mutual

/-- Whether a tree is proper. -/
def checkProper : FileTree → Bool
  | file _ => true
  | directory entries => decide (entries.map (·.1)).Nodup && checkEntries entries

/-- Whether entries have names and proper trees. -/
def checkEntries : List (String × FileTree) → Bool
  | [] => true
  | (name, t) :: rest => isName name && t.checkProper && checkEntries rest

end

theorem checkEntries_iff (entries : List (String × FileTree)) :
    checkEntries entries = true ↔ ∀ e ∈ entries, isName e.1 = true ∧ e.2.checkProper = true := by
  induction entries with
  | nil => simp [checkEntries]
  | cons e entries ih =>
    obtain ⟨name, t⟩ := e
    simp [checkEntries, ih, and_assoc]

theorem IsProper.check (h : t.IsProper) : t.checkProper = true := by
  induction h with
  | file bytes => rw [checkProper]
  | directory distinct names each ih =>
    rw [checkProper, Bool.and_eq_true, decide_eq_true_eq, checkEntries_iff]
    exact ⟨distinct, fun e he => ⟨names e he, ih e he⟩⟩

mutual

theorem isProper_of_check : (t : FileTree) → t.checkProper = true → t.IsProper
  | file bytes, _ => .file bytes
  | directory entries, h => by
    rw [checkProper, Bool.and_eq_true, decide_eq_true_eq] at h
    have names e he := ((checkEntries_iff entries).1 h.2 e he).1
    exact .directory h.1 names (isProper_of_checkEntries entries h.2)

theorem isProper_of_checkEntries :
    (entries : List (String × FileTree)) → checkEntries entries = true → ∀ e ∈ entries, e.2.IsProper
  | [], _ => List.forall_mem_nil _
  | (name, t) :: rest, h => by
    rw [checkEntries, Bool.and_eq_true, Bool.and_eq_true] at h
    exact List.forall_mem_cons.2
      ⟨isProper_of_check t h.1.2, isProper_of_checkEntries rest h.2⟩

end

instance (t : FileTree) : Decidable t.IsProper := decidable_of_iff _ ⟨isProper_of_check t, IsProper.check⟩

/-- The tree that holds another one at the end of a way, and nothing beside. -/
def under (way : List String) (t : FileTree) : FileTree :=
  way.foldr (fun name t => directory [(name, t)]) t

theorem at?_under (way : List String) (t : FileTree) : (under way t).at? way = some t := by
  induction way with
  | nil => exact at?_nil t
  | cons name way ih =>
    rw [under, List.foldr_cons, at?_cons, entry?, List.lookup_cons_self]
    exact ih

/-! ## Files -/

theorem files_directory (entries : List (String × FileTree)) :
    (directory entries).files =
      entries.flatMap fun e => e.2.files.map fun file => (e.1 :: file.1, file.2) := by
  rw [files]
  induction entries with
  | nil => rw [filesOf, List.flatMap_nil]
  | cons e entries ih =>
    obtain ⟨name, t⟩ := e
    rw [filesOf, ih, List.flatMap_cons]

/-- The files of a tree are what lies at some way down and is a file. -/
theorem mem_files_iff (h : t.IsProper) : (way, bytes) ∈ t.files ↔ t.at? way = some (.file bytes) := by
  induction h generalizing way with
  | file content =>
    rw [files, List.mem_singleton, Prod.mk.injEq]
    cases way with
    | nil => simp [eq_comm]
    | cons name way => simp [at?_cons, entry?]
  | @directory entries distinct names each ih =>
    rw [files_directory, List.mem_flatMap]
    cases way with
    | nil => simp
    | cons name way =>
      rw [at?_cons, entry?, Option.bind_eq_some_iff]
      constructor
      · rintro ⟨⟨n, t⟩, he, mem⟩
        obtain ⟨⟨v, content⟩, hfile, e⟩ := List.mem_map.1 mem
        simp only [Prod.mk.injEq, List.cons.injEq] at e
        obtain ⟨⟨rfl, rfl⟩, rfl⟩ := e
        exact ⟨t, (lookup_iff distinct).2 he, (ih _ he).1 hfile⟩
      · rintro ⟨t, found, rest⟩
        have he := mem_of_lookup found
        exact ⟨_, he, List.mem_map.2 ⟨_, (ih _ he).2 rest, rfl⟩⟩

/-- No way leads to two files. -/
theorem nodup_ways (h : t.IsProper) : (t.files.map (·.1)).Nodup := by
  induction h with
  | file content => simp [files]
  | @directory entries distinct names each ih =>
    rw [files_directory, List.map_flatMap, List.nodup_iff_pairwise_ne, List.pairwise_flatMap]
    constructor
    · intro e he
      rw [List.map_map]
      have := (ih e he).map (f := fun way => e.1 :: way) fun _ _ same => (List.cons.inj same).2
      rw [List.map_map] at this
      exact List.nodup_iff_pairwise_ne.1 this
    · rw [List.nodup_iff_pairwise_ne, List.pairwise_map] at distinct
      refine distinct.imp fun {e e'} apart v hv w hw same => ?_
      rw [List.map_map, List.mem_map] at hv hw
      obtain ⟨_, -, rfl⟩ := hv
      obtain ⟨_, -, rfl⟩ := hw
      exact apart (List.cons.inj same).1

/-! ## Other orders of entries -/

/-- The trees are the same but for the order in which directories list their entries. -/
inductive Relisted : FileTree → FileTree → Prop
  | file (bytes : List UInt8) : Relisted (.file bytes) (.file bytes)
  | directory {entries entries' : List (String × FileTree)}
      (names : (entries.map (·.1)).Perm (entries'.map (·.1)))
      (each : ∀ name t u, (name, t) ∈ entries → (name, u) ∈ entries' → Relisted t u) :
      Relisted (.directory entries) (.directory entries')

theorem Relisted.proper (h : t.Relisted u) (ht : t.IsProper) : u.IsProper := by
  induction h with
  | file bytes => exact .file bytes
  | @directory entries entries' names each ih =>
    cases ht with
    | directory distinct isName proper =>
      have partner {e' : String × FileTree} (he' : e' ∈ entries') : ∃ t, (e'.1, t) ∈ entries := by
        obtain ⟨⟨name, t⟩, he, same⟩ := List.mem_map.1 (names.mem_iff.2 (List.mem_map_of_mem he'))
        obtain rfl : name = e'.1 := same
        exact ⟨t, he⟩
      refine .directory (names.nodup_iff.1 distinct) ?_ ?_
      · intro e' he'
        obtain ⟨t, he⟩ := partner he'
        exact isName (e'.1, t) he
      · intro e' he'
        obtain ⟨t, he⟩ := partner he'
        exact ih _ _ _ he he' (proper _ he)

/-- The order of entries does not matter for what lies where. -/
theorem Relisted.texts (h : t.Relisted u) (ht : t.IsProper) : t.texts = u.texts := by
  have hu := h.proper ht
  induction h with
  | file bytes => rfl
  | @directory entries entries' names each ih =>
    cases ht with
    | directory distinct _ proper => cases hu with
      | directory distinct' _ proper' =>
        funext way
        cases way with
        | nil => rfl
        | cons name way =>
          rw [texts_cons, texts_cons, entry?, entry?]
          by_cases there : name ∈ entries.map (·.1)
          · obtain ⟨⟨_, t⟩, he, rfl⟩ := List.mem_map.1 there
            obtain ⟨⟨_, u⟩, he', rfl⟩ := List.mem_map.1 (names.mem_iff.1 there)
            rw [(lookup_iff distinct).2 he, (lookup_iff distinct').2 he']
            exact congrFun (ih _ _ _ he he' (proper _ he) (proper' _ he')) way
          · rw [lookup_eq_none there, lookup_eq_none (mt names.mem_iff.2 there)]

/-! ## The listing -/

theorem mem_listing_iff (h : t.IsProper) :
    (way, bytes) ∈ t.listing ↔ t.at? way = some (.file bytes) := by
  rw [listing, List.mem_mergeSort, mem_files_iff h]

/-- Each file stands in the listing once, and in order. -/
theorem pairwise_listing (h : t.IsProper) :
    t.listing.Pairwise fun a b => (Path.mk 0 a.1).le ⟨0, b.1⟩ = true ∧ a.1 ≠ b.1 := by
  refine List.Pairwise.and ?_ ?_
  · refine List.pairwise_mergeSort ?_ ?_ t.files
    · exact fun _ _ _ => Path.le_trans
    · exact fun _ _ => Path.le_total _ _
  · have perm := (List.mergeSort_perm t.files fun a b => (Path.mk 0 a.1).le ⟨0, b.1⟩).map (·.1)
    exact List.pairwise_map.1 (List.nodup_iff_pairwise_ne.1 (perm.nodup_iff.2 (nodup_ways h)))

/-- The listing of texts depends on what lies where, and not on the order of entries. -/
theorem listing_texts (ht : t.IsProper) (hu : u.IsProper) (same : t.texts = u.texts) :
    t.listing.map (fun file => (file.1, Disk.textOf file.2)) =
      u.listing.map fun file => (file.1, Disk.textOf file.2) := by
  let order (a b : List String × List Char) := (Path.mk 0 a.1).le ⟨0, b.1⟩ = true ∧ a.1 ≠ b.1
  have mem {v : FileTree} (hv : v.IsProper) (file : List String × List Char) :
      file ∈ v.listing.map (fun file => (file.1, Disk.textOf file.2)) ↔
        v.texts file.1 = some (some file.2) := by
    obtain ⟨way, text⟩ := file
    simp only [List.mem_map, Prod.mk.injEq, Prod.exists, mem_listing_iff hv, texts,
      Option.map_eq_some_iff]
    constructor
    · rintro ⟨_, bytes, found, rfl, rfl⟩
      exact ⟨_, found, rfl⟩
    · rintro ⟨_ | bytes, found, e⟩
      · obtain rfl := Option.some.inj e
        exact ⟨_, _, found, rfl, rfl⟩
      · exact nomatch e
  have sorted {v : FileTree} (hv : v.IsProper) :
      (v.listing.map fun file => (file.1, Disk.textOf file.2)).Pairwise order :=
    List.pairwise_map.2 (pairwise_listing hv)
  have irrefl : Std.Irrefl order := ⟨fun _ h => h.2 rfl⟩
  have antisymm : Std.Antisymm order :=
    ⟨fun a b ab ba => absurd (Path.le_antisymm ab.1 ba.1) ab.2⟩
  refine (sorted ht).eq_of_mem_iff (sorted hu) fun file => ?_
  rw [mem ht, mem hu, same]

end FileTree

end ModuleAudit
