import Mathlib.Data.List.Basic
import ModuleAudit.Path

/-!
# Paths below a directory and their order

`Path.below` goes on from a path by a list of names. Paths are ordered by their components
so two paths below one directory are ordered by the ways that lead to them (`below_le_below`),
whatever the directory is. As text, a path below another one is no shorter
(`size_le_size_below`) and has the null characters of its names only (`null_mem_toString`).
-/

namespace ModuleAudit.Path

/-- What a way leads to from a path. -/
def below (p : Path) (way : List String) : Path := { p with parts := p.parts ++ way }

/-- One path comes before another one in path order. -/
def Before (p q : Path) : Prop := p.le q = true ∧ p ≠ q

@[simp] theorem slashes_below (p : Path) (way : List String) : (p.below way).slashes = p.slashes := rfl

@[simp] theorem parts_below (p : Path) (way : List String) :
    (p.below way).parts = p.parts ++ way := rfl

@[simp] theorem isAbsolute_below (p : Path) (way : List String) :
    (p.below way).isAbsolute = p.isAbsolute := rfl

@[simp] theorem below_nil (p : Path) : p.below [] = p := by simp [below]

@[simp] theorem below_below (p : Path) (v w : List String) :
    (p.below v).below w = p.below (v ++ w) := by simp [below]

@[simp] theorem below_inj {p : Path} {v w : List String} : p.below v = p.below w ↔ v = w := by
  simp [below]

theorem name_below {way : List String} (h : way ≠ []) (p : Path) :
    (p.below way).name = way.getLast h := by
  rw [name, parts_below, List.getLast?_append, List.getLast?_eq_some_getLast h, Option.some_or,
    Option.getD_some]

theorem parent_below {way : List String} (h : way ≠ []) (p : Path) :
    (p.below way).parent = p.below way.dropLast := by
  simp only [parent, below, List.dropLast_append_of_ne_nil h]

/-! ## The order of paths -/

variable {p q r : Path} {v w : List String}

theorem le_trans (pq : p.le q = true) (qr : q.le r = true) : p.le r = true := by
  simp only [le, Bool.not_eq_true', List.lex_eq_false_iff_ge] at pq qr ⊢
  exact List.le_trans pq qr

theorem le_total (p q : Path) : (p.le q || q.le p) = true := by
  simp only [le, Bool.or_eq_true, Bool.not_eq_true', List.lex_eq_false_iff_ge]
  exact List.le_total p.components q.components

theorem le_refl (p : Path) : p.le p = true := by
  simp only [le, Bool.not_eq_true', List.lex_eq_false_iff_ge]
  exact List.le_refl p.components

theorem lex_append (u v w : List String) :
    ((u ++ v).lex (u ++ w) fun a b => a < b) = v.lex w fun a b => a < b := by
  induction u with
  | nil => rfl
  | cons a u ih =>
    have irrefl : decide (a < a) = false := decide_eq_false (String.lt_irrefl a)
    simp only [List.cons_append, List.cons_lex_cons, irrefl, BEq.rfl, Bool.true_and, Bool.false_or, ih]

theorem components_below (p : Path) (way : List String) :
    (p.below way).components = p.components ++ way := by
  unfold components
  rw [slashes_below, parts_below]
  split <;> rfl

/-- Paths below a directory are in the order of their ways. -/
theorem below_le_below (p : Path) (v w : List String) :
    (p.below v).le (p.below w) = (Path.mk 0 v).le ⟨0, w⟩ := by
  rw [le, components_below, components_below, lex_append, le]
  rfl

/-- Of two relative paths only one comes before the other. -/
theorem le_antisymm (vw : (Path.mk 0 v).le ⟨0, w⟩ = true) (wv : (Path.mk 0 w).le ⟨0, v⟩ = true) :
    v = w := by
  simp only [le, Bool.not_eq_true', List.lex_eq_false_iff_ge] at vw wv
  exact List.le_antisymm vw wv

/-! ## Texts that spell paths -/

theorem splitAt_of_not_mem {sep : Char} {s : List Char} (h : sep ∉ s) : splitAt sep s = [s] := by
  induction s with
  | nil => rfl
  | cons c s ih =>
    rw [List.mem_cons, not_or] at h
    rw [splitAt, ih h.2]
    exact if_neg (by simpa using Ne.symm h.1)

theorem splitAt_append {sep : Char} {s : List Char} (h : sep ∉ s) (t : List Char) :
    splitAt sep (s ++ sep :: t) = s :: splitAt sep t := by
  have some : ∃ first rest, splitAt sep t = first :: rest := by
    cases t with
    | nil => exact ⟨[], [], rfl⟩
    | cons c t =>
      rw [splitAt]
      split
      · exact ⟨_, _, rfl⟩
      · split <;> exact ⟨_, _, rfl⟩
  obtain ⟨first, rest, split⟩ := some
  induction s with
  | nil => rw [List.nil_append, splitAt, split]; simp
  | cons c s ih =>
    rw [List.mem_cons, not_or] at h
    rw [List.cons_append, splitAt, ih h.2]
    exact if_neg (by simpa using Ne.symm h.1)

/-- A text without a slash spells a single name. -/
theorem names_of_not_mem {s : List Char} (h : '/' ∉ s) (some : s ≠ []) (moves : s ≠ ['.']) :
    names s = [String.ofList s] := by
  rw [names, splitAt_of_not_mem h]
  simp [some, moves]

theorem names_append {s : List Char} (h : '/' ∉ s) (some : s ≠ []) (moves : s ≠ ['.'])
    (t : List Char) : names (s ++ '/' :: t) = String.ofList s :: names t := by
  rw [names, splitAt_append h, names]
  simp [some, moves]

theorem takeWhile_of_not_mem {s : List Char} (h : '/' ∉ s) : s.takeWhile (· == '/') = [] := by
  cases s with
  | nil => rfl
  | cons c s =>
    rw [List.mem_cons, not_or] at h
    exact List.takeWhile_cons_of_neg (by simpa using Ne.symm h.1)

/-- A text that is a single name is the path of an entry. -/
theorem child_eq {s : String} (h : '/' ∉ s.toList) (some : s ≠ "") (moves : s ≠ ".") (p : Path) :
    p.child s = p.below [s] := by
  have single : names s.toList = [s] := by
    rw [names_of_not_mem h (by simpa using some) (fun e => moves (String.ext e)), String.ofList_toList]
  rw [child, ofString, takeWhile_of_not_mem h, single]
  rfl

/-! ## Paths as text -/

/-- The bytes of a path as text. -/
def size (p : Path) : Nat := p.toString.utf8ByteSize

/-- The bytes of some names with a slash to each. -/
def sizeOfNames : List String → Nat
  | [] => 0
  | name :: names => name.utf8ByteSize + 1 + sizeOfNames names

theorem sizeOfNames_append (v w : List String) :
    sizeOfNames (v ++ w) = sizeOfNames v + sizeOfNames w := by
  induction v with
  | nil => exact (Nat.zero_add _).symm
  | cons name v ih => rw [List.cons_append, sizeOfNames, ih, sizeOfNames, ← Nat.add_assoc]

theorem size_intercalate {names : List String} (h : names ≠ []) :
    ("/".intercalate names).utf8ByteSize + 1 = sizeOfNames names := by
  induction names with
  | nil => exact absurd rfl h
  | cons a names ih =>
    cases names with
    | nil => simp [sizeOfNames]
    | cons b names =>
      have rest := ih nofun
      have slash : "/".utf8ByteSize = 1 := rfl
      simp only [sizeOfNames, String.intercalate_cons_cons,
        String.utf8ByteSize_append] at rest ⊢
      omega

theorem size_slashes (n : Nat) : (String.ofList (List.replicate n '/')).utf8ByteSize = n := by
  induction n with
  | zero => rfl
  | succ n ih =>
    rw [List.replicate_succ, String.ofList_cons, String.utf8ByteSize_append, ih]
    have : (String.singleton '/').utf8ByteSize = 1 := rfl
    omega

/-- An anchor alone; nothing at all is written as a dot. -/
theorem size_of_nil (h : p.parts = []) : p.size = max 1 p.slashes := by
  rw [size, toString, h]
  by_cases anchor : p.slashes = 0
  · simp [anchor]
    rfl
  · have : (p.slashes == 0 && ([] : List String).isEmpty) = false := by simp [anchor]
    rw [if_neg (Bool.eq_false_iff.1 this), String.intercalate_nil, String.utf8ByteSize_append,
      size_slashes]
    have : "".utf8ByteSize = 0 := rfl
    omega

theorem size_of_ne_nil (h : p.parts ≠ []) : p.size + 1 = p.slashes + sizeOfNames p.parts := by
  have : (p.slashes == 0 && p.parts.isEmpty) = false := by simp [h]
  rw [size, toString, if_neg (Bool.eq_false_iff.1 this), String.utf8ByteSize_append, size_slashes,
    Nat.add_assoc, size_intercalate h]

/-- Each name below a path takes its bytes and a slash. -/
theorem size_below_le (p : Path) (way : List String) : (p.below way).size ≤ p.size + sizeOfNames way := by
  rcases eq_or_ne way [] with rfl | hway
  · simp
  have long := size_of_ne_nil (p := p.below way) (by simp [hway])
  simp only [slashes_below, parts_below, sizeOfNames_append] at long
  rcases eq_or_ne p.parts [] with none | some
  · have := size_of_nil none
    have : sizeOfNames p.parts = 0 := by rw [none]; rfl
    omega
  · have := size_of_ne_nil some
    omega

/-- A path below another one is no shorter. -/
theorem size_le_size_below (p : Path) {way : List String} (h : "" ∉ way) :
    p.size ≤ (p.below way).size := by
  rcases eq_or_ne way [] with rfl | hway
  · simp
  have long := size_of_ne_nil (p := p.below way) (by simp [hway])
  simp only [slashes_below, parts_below, sizeOfNames_append] at long
  rcases eq_or_ne p.parts [] with none | some
  · obtain ⟨name, rest, rfl⟩ := List.exists_cons_of_ne_nil hway
    have first : name.utf8ByteSize ≠ 0 := fun e =>
      h (String.utf8ByteSize_eq_zero_iff.1 e ▸ List.mem_cons_self)
    have := size_of_nil none
    have : sizeOfNames (name :: rest) = name.utf8ByteSize + 1 + sizeOfNames rest := rfl
    omega
  · have := size_of_ne_nil some
    omega

theorem size_below_dropLast_le (p : Path) {way : List String} (h : "" ∉ way) :
    (p.below way.dropLast).size ≤ (p.below way).size := by
  rcases List.eq_nil_or_concat' way with rfl | ⟨front, last, rfl⟩
  · exact Nat.le_refl _
  · rw [List.dropLast_concat, ← below_below]
    exact size_le_size_below _ fun mem => h (List.mem_append_right _ mem)

theorem null_mem_intercalate {names : List String} :
    '\x00' ∈ ("/".intercalate names).toList ↔ ∃ name ∈ names, '\x00' ∈ name.toList := by
  induction names with
  | nil => simp
  | cons a names ih =>
    cases names with
    | nil => simp
    | cons b names =>
      rw [String.intercalate_cons_cons]
      simp only [String.toList_append, List.mem_append, ih, List.exists_mem_cons_iff]
      simp

/-- A null character in a path is one of its names. -/
theorem null_mem_toString : '\x00' ∈ p.toString.toList ↔ ∃ name ∈ p.parts, '\x00' ∈ name.toList := by
  rw [toString]
  split
  next nowhere =>
    rw [Bool.and_eq_true, List.isEmpty_iff] at nowhere
    simp [nowhere.2]
  next =>
    rw [String.toList_append, List.mem_append, null_mem_intercalate, String.toList_ofList]
    simp

end ModuleAudit.Path
