import Mathlib.Logic.Basic
import ModuleAudit.Proofs.Disk.Access

/-!
# Carriage returns before newlines

Files are read with every line end turned into a newline, so it does not matter whether a newline
stands alone or after a carriage return. This holds for any bytes, also for those that spell no text:
a newline is never a part of a longer character (`Text.Utf8.decodeRest_withReturns`,
`Text.Utf8.ne_of_decodeRest`), so what stands between newlines is decoded alike
(`Text.Utf8.decode_withReturns`), and so the text of the file is the same (`Disk.textOf_withReturns`).

`FileTree.withReturns` puts carriage returns into some files of a tree. The tree holds the same texts
afterwards (`FileTree.texts_withReturns`).
-/

namespace ModuleAudit

/-- The bytes with a carriage return before each newline. -/
def Disk.withReturns (bytes : List UInt8) : List UInt8 :=
  bytes.flatMap fun b => if b = 0x0a then [0x0d, 0x0a] else [b]

namespace Disk

@[simp] theorem withReturns_nil : withReturns [] = [] := rfl

theorem withReturns_newline (bytes : List UInt8) :
    withReturns (0x0a :: bytes) = 0x0d :: 0x0a :: withReturns bytes := rfl

theorem withReturns_cons {b : UInt8} (h : b ≠ 0x0a) (bytes : List UInt8) :
    withReturns (b :: bytes) = b :: withReturns bytes := by
  rw [withReturns, List.flatMap_cons, if_neg h]
  rfl

end Disk

/-! ## Decoding -/

namespace Text.Utf8

open ModuleAudit.Disk (withReturns withReturns_nil withReturns_newline withReturns_cons)

/-- A byte of ASCII ends a character that is not complete. -/
theorem decodeRest_ascii {lo b : UInt8} (h : 0x80 ≤ lo) (ascii : b < 0x80) (code : Nat) (hi : UInt8)
    (n : Nat) (rest : List UInt8) : decodeRest code lo hi (n + 1) (b :: rest) = (none, b :: rest) := by
  have small : ¬ lo ≤ b := UInt8.not_le.2 (UInt8.lt_of_lt_of_le ascii h)
  rw [decodeRest, decide_eq_false small, Bool.false_and, if_neg Bool.false_ne_true]

/-- Carriage returns before newlines do not get into a character. -/
theorem decodeRest_withReturns {lo : UInt8} (h : 0x80 ≤ lo) (code : Nat) (hi : UInt8) (n : Nat)
    (bytes : List UInt8) :
    decodeRest code lo hi n (withReturns bytes) =
      ((decodeRest code lo hi n bytes).1, withReturns (decodeRest code lo hi n bytes).2) := by
  induction n generalizing code lo hi bytes with
  | zero => simp [decodeRest]
  | succ n ih =>
    cases bytes with
    | nil => simp [decodeRest]
    | cons b rest =>
      by_cases newline : b = 0x0a
      · subst newline
        rw [withReturns_newline, decodeRest_ascii h (by decide), decodeRest_ascii h (by decide),
          withReturns_newline]
      · rw [withReturns_cons newline, decodeRest, decodeRest]
        split
        · exact ih (UInt8.le_refl 0x80) ..
        · rw [withReturns_cons newline]

/-- The least number that a leading byte and the first byte after it stand for. -/
def leastCode (lead lo : UInt8) (n : Nat) : Nat :=
  (leadBits lead n * 64 + lo.toNat % 64) * Nat.pow 64 (n - 1)

/-- What the leading byte of a longer character tells: at least one byte follows, within the range of
further bytes, and the character lies beyond ASCII. -/
theorem continuation?_eq_some {lead lo hi : UInt8} {n : Nat} (h : continuation? lead = some (lo, hi, n)) :
    0 < n ∧ 0x80 ≤ lo.toNat ∧ hi.toNat ≤ 0xbf ∧ 128 ≤ leastCode lead lo n := by
  have all : ∀ lead : Fin 256, ∀ c ∈ continuation? (.ofNat lead),
      0 < c.2.2 ∧ 0x80 ≤ c.1.toNat ∧ c.2.1.toNat ≤ 0xbf ∧ 128 ≤ leastCode (.ofNat lead) c.1 c.2.2 := by
    decide +kernel
  have := all ⟨lead.toNat, lead.toNat_lt⟩ (lo, hi, n)
  rw [UInt8.ofNat_toNat] at this
  exact this h

/-- Further bytes only add to what has been read. -/
theorem le_of_decodeRest {code : Nat} {lo hi : UInt8} {n : Nat} {bytes : List UInt8} {c : Char}
    (h : (decodeRest code lo hi n bytes).1 = some c) : ∃ k, code * Nat.pow 64 n ≤ k ∧ c = Char.ofNat k := by
  induction n generalizing code lo hi bytes with
  | zero => exact ⟨code, Nat.le_of_eq (Nat.mul_one code), by simpa [decodeRest, eq_comm] using h⟩
  | succ n ih =>
    cases bytes with
    | nil => simp [decodeRest] at h
    | cons b rest =>
      rw [decodeRest] at h
      split at h
      · obtain ⟨k, le, rfl⟩ := ih h
        refine ⟨k, Nat.le_trans ?_ le, rfl⟩
        have step : code * Nat.pow 64 (n + 1) = code * 64 * Nat.pow 64 n := by
          rw [Nat.mul_assoc, Nat.mul_comm 64]
          rfl
        rw [step]
        exact Nat.mul_le_mul_right _ (Nat.le_add_right ..)
      · cases h

theorem toNat_ofNat (k : Nat) : (Char.ofNat k).toNat = if k.isValidChar then k else 0 := by
  by_cases valid : k.isValidChar
  · rw [if_pos valid, Char.ofNat, dif_pos valid]
    rfl
  · rw [if_neg valid, Char.ofNat, dif_neg valid]
    rfl

/-- A longer character is no character of ASCII but, at most, the null character. -/
theorem ne_of_decodeRest {lead lo hi : UInt8} {n : Nat} {bytes : List UInt8} {c : Char}
    (lead_eq : continuation? lead = some (lo, hi, n))
    (h : (decodeRest (leadBits lead n) lo hi n bytes).1 = some c) : c ≠ '\n' ∧ c ≠ '\r' := by
  obtain ⟨pos, hlo, hhi, least⟩ := continuation?_eq_some lead_eq
  obtain ⟨m, rfl⟩ := Nat.exists_eq_succ_of_ne_zero pos.ne'
  cases bytes with
  | nil => simp [decodeRest] at h
  | cons b rest =>
    rw [decodeRest] at h
    split at h
    next fits =>
      rw [Bool.and_eq_true, decide_eq_true_eq, decide_eq_true_eq, UInt8.le_iff_toNat_le,
        UInt8.le_iff_toNat_le] at fits
      obtain ⟨k, le, rfl⟩ := le_of_decodeRest h
      have : leadBits lead (m + 1) * 64 + lo.toNat % 64 ≤ leadBits lead (m + 1) * 64 + b.toNat % 64 := by
        omega
      have big : 128 ≤ k := (least.trans (Nat.mul_le_mul_right _ this)).trans le
      have low (a : Char) (ha : a.toNat < 128) (ha' : a.toNat ≠ 0) : Char.ofNat k ≠ a := fun e => by
        subst e
        rw [toNat_ofNat] at ha ha'
        split at ha <;> simp_all; omega
      exact ⟨low _ (by decide) (by decide), low _ (by decide) (by decide)⟩
    next => cases h

/-- What remains after a character is a part of what was there. -/
theorem mem_of_mem_decodeRest {code : Nat} {lo hi : UInt8} {n : Nat} {bytes : List UInt8} {b : UInt8}
    (h : b ∈ (decodeRest code lo hi n bytes).2) : b ∈ bytes := by
  induction n generalizing code lo hi bytes with
  | zero => exact h
  | succ n ih =>
    cases bytes with
    | nil => exact h
    | cons a rest =>
      rw [decodeRest] at h
      split at h
      · exact List.mem_cons_of_mem _ (ih h)
      · exact h

/-- A newline with a carriage return before it. -/
def returned (c : Option Char) : List (Option Char) := if c = some '\n' then [some '\r', some '\n'] else [c]

theorem ofNat_eq_iff {b : UInt8} (ascii : b < 0x80) {a : Char} (ha : a.toNat < 128) :
    Char.ofNat b.toNat = a ↔ b.toNat = a.toNat := by
  have small : b.toNat < 128 := UInt8.lt_iff_toNat_lt.1 ascii
  constructor
  · rintro rfl
    rw [toNat_ofNat, if_pos (.inl (by omega))]
  · intro e
    rw [e, Char.ofNat_toNat]

theorem decode_ascii {b : UInt8} (ascii : b < 0x80) (rest : List UInt8) :
    decode (b :: rest) = some (Char.ofNat b.toNat) :: decode rest := by
  rw [decode, if_pos ascii]

/-- With a carriage return before each newline, the characters are the same but for these. -/
theorem decode_withReturns (bytes : List UInt8) :
    decode (withReturns bytes) = (decode bytes).flatMap returned := by
  induction bytes using decode.induct with
  | case1 => simp [decode]
  | case2 b rest ascii ih =>
    by_cases newline : b = 0x0a
    · subst newline
      rw [withReturns_newline, decode_ascii (by decide), decode_ascii (by decide), ih,
        decode_ascii (by decide)]
      rfl
    · have : ¬ some (Char.ofNat b.toNat) = some '\n' := fun e => newline <|
        UInt8.toNat_inj.1 ((ofNat_eq_iff ascii (by decide)).1 (Option.some.inj e))
      rw [withReturns_cons newline, decode_ascii ascii, ih, decode_ascii ascii, List.flatMap_cons,
        returned, if_neg this]
      rfl
  | case3 b rest wide lead_eq ih =>
    have newline : b ≠ 0x0a := by rintro rfl; exact wide (by decide)
    rw [withReturns_cons newline, decode, if_neg wide, lead_eq, ih, decode, if_neg wide, lead_eq]
    rfl
  | case4 b rest wide lo hi n lead_eq read ih =>
    have newline : b ≠ 0x0a := by rintro rfl; exact wide (by decide)
    have further : (0x80 : UInt8) ≤ lo := UInt8.le_iff_toNat_le.2 (continuation?_eq_some lead_eq).2.1
    have single : ¬ read.1 = some '\n' := fun e => (ne_of_decodeRest lead_eq e).1 rfl
    rw [withReturns_cons newline, decode, if_neg wide, lead_eq, decode, if_neg wide, lead_eq]
    dsimp only
    rw [decodeRest_withReturns further, List.flatMap_cons, returned, if_neg single]
    exact congrArg _ ih

/-- Without a carriage return among the bytes there is none among the characters. -/
theorem return_not_mem_decode {bytes : List UInt8} (h : 0x0d ∉ bytes) : some '\r' ∉ decode bytes := by
  induction bytes using decode.induct with
  | case1 => simp [decode]
  | case2 b rest ascii ih =>
    rw [List.mem_cons, not_or] at h
    rw [decode_ascii ascii, List.mem_cons, not_or]
    refine ⟨fun e => h.1 (UInt8.toNat_inj.1 ?_), ih h.2⟩
    exact ((ofNat_eq_iff ascii (by decide)).1 (Option.some.inj e).symm).symm
  | case3 b rest wide lead_eq ih =>
    rw [decode, if_neg wide, lead_eq]
    simpa using ih fun mem => h (List.mem_cons_of_mem _ mem)
  | case4 b rest wide lo hi n lead_eq read ih =>
    rw [decode, if_neg wide, lead_eq]
    refine List.not_mem_cons_of_ne_of_not_mem (fun e => (ne_of_decodeRest lead_eq e.symm).2 rfl) ?_
    exact ih fun mem => h (List.mem_cons_of_mem _ (mem_of_mem_decodeRest mem))

end Text.Utf8

/-! ## Texts -/

namespace Text

open ModuleAudit.Disk (withReturns)

theorem foldLineEnds_cons {c : Char} (h : c ≠ '\r') (s : List Char) :
    foldLineEnds (c :: s) = c :: foldLineEnds s := by
  rw [foldLineEnds]
  · rw [beq_eq_false_iff_ne.2 h]
    rfl
  · exact fun _ e => absurd e h

/-- Without carriage returns there is nothing to fold. -/
theorem foldLineEnds_eq {s : List Char} (h : '\r' ∉ s) : foldLineEnds s = s := by
  induction s with
  | nil => rfl
  | cons c s ih =>
    rw [List.mem_cons, not_or] at h
    rw [foldLineEnds_cons (Ne.symm h.1), ih h.2]

/-- Carriage returns before newlines are folded away. -/
theorem foldLineEnds_returned {s : List Char} (h : '\r' ∉ s) :
    foldLineEnds (s.flatMap fun c => if c = '\n' then ['\r', '\n'] else [c]) = s := by
  induction s with
  | nil => rfl
  | cons c s ih =>
    rw [List.mem_cons, not_or] at h
    rw [List.flatMap_cons]
    split
    next newline => rw [newline]; exact congrArg _ (ih h.2)
    next => rw [List.singleton_append, foldLineEnds_cons (Ne.symm h.1), ih h.2]

end Text

namespace Disk

/-- A file without carriage returns has the same text with one before each newline. -/
theorem textOf_withReturns {bytes : List UInt8} (h : 0x0d ∉ bytes) :
    textOf (withReturns bytes) = textOf bytes := by
  have chars := Text.Utf8.return_not_mem_decode h
  have single : '\r' ∉ Text.Utf8.decodeLossy bytes := by
    rw [Text.Utf8.decodeLossy, List.mem_map]
    rintro ⟨_ | c, mem, e⟩
    · exact absurd e (by decide)
    · exact chars ((show c = '\r' from e) ▸ mem)
  have lossy : Text.Utf8.decodeLossy (withReturns bytes) =
      (Text.Utf8.decodeLossy bytes).flatMap fun c => if c = '\n' then ['\r', '\n'] else [c] := by
    rw [Text.Utf8.decodeLossy, Text.Utf8.decode_withReturns, Text.Utf8.decodeLossy, List.map_flatMap,
      List.flatMap_map]
    refine congrArg (fun f => List.flatMap f _) (funext fun c => ?_)
    cases c with
    | none => rfl
    | some c => by_cases newline : c = '\n' <;> simp [Text.Utf8.returned, newline]
  rw [textOf, lossy, Text.foldLineEnds_returned single, textOf, Text.foldLineEnds_eq single]

end Disk

/-! ## Trees -/

namespace FileTree

mutual

/-- The tree with a carriage return before each newline of the chosen files. -/
def withReturns (chosen : List String → Bool) : FileTree → FileTree
  | file bytes => file (if chosen [] then Disk.withReturns bytes else bytes)
  | directory entries => directory (withReturnsIn chosen entries)

/-- The entries with a carriage return before each newline of the chosen files. -/
def withReturnsIn (chosen : List String → Bool) : List (String × FileTree) → List (String × FileTree)
  | [] => []
  | (name, t) :: rest =>
    (name, t.withReturns fun way => chosen (name :: way)) :: withReturnsIn chosen rest

end

theorem withReturnsIn_eq (chosen : List String → Bool) (entries : List (String × FileTree)) :
    withReturnsIn chosen entries =
      entries.map fun e => (e.1, e.2.withReturns fun way => chosen (e.1 :: way)) := by
  induction entries with
  | nil => rw [withReturnsIn, List.map_nil]
  | cons e entries ih =>
    obtain ⟨name, t⟩ := e
    rw [withReturnsIn, ih, List.map_cons]

theorem entry?_withReturns (chosen : List String → Bool) (t : FileTree) (name : String) :
    FileTree.entry? (t.withReturns chosen) name =
      ( t.entry? name).map fun u => u.withReturns fun way => chosen (name :: way) := by
  cases t with
  | file bytes => rw [withReturns]; rfl
  | directory entries =>
    rw [withReturns, entry?, entry?, withReturnsIn_eq]
    induction entries with
    | nil => rfl
    | cons e entries ih =>
      rw [List.map_cons, List.lookup_cons, List.lookup_cons]
      by_cases same : name = e.1
      · subst same
        simp
      · simpa [beq_eq_false_iff_ne.2 same] using ih

theorem withReturns_isProper {t : FileTree} (h : t.IsProper) (chosen : List String → Bool) :
    (t.withReturns chosen).IsProper := by
  induction h generalizing chosen with
  | file bytes => rw [withReturns]; exact .file _
  | @directory entries distinct names each ih =>
    rw [withReturns, withReturnsIn_eq]
    refine .directory ?_ ?_ ?_
    · simpa [List.map_map, Function.comp_def] using distinct
    · rw [List.forall_mem_map]
      exact names
    · rw [List.forall_mem_map]
      exact fun e he => ih e he _

/-- The files of an entry are files of the directory. -/
theorem mem_files_of_entry {t u : FileTree} {name : String} (found : t.entry? name = some u)
    {file : List String × List UInt8} (h : file ∈ u.files) : (name :: file.1, file.2) ∈ t.files := by
  cases t with
  | file bytes => exact nomatch found
  | directory entries =>
    rw [files_directory, List.mem_flatMap]
    exact ⟨_, mem_of_lookup found, List.mem_map_of_mem h⟩

/-- If the chosen files have no carriage returns, the tree holds the same texts with some of them put
before newlines. -/
theorem texts_withReturns {t : FileTree} {chosen : List String → Bool}
    (h : ∀ file ∈ t.files, chosen file.1 = true → 0x0d ∉ file.2) :
    (t.withReturns chosen).texts = t.texts := by
  funext way
  induction way generalizing t chosen with
  | nil =>
    rw [texts, texts, at?_nil, at?_nil]
    cases t with
    | directory entries => rw [withReturns]; rfl
    | file bytes =>
      rw [withReturns]
      split
      next here =>
        have single : 0x0d ∉ bytes := h ([], bytes) (by simp [files]) here
        exact congrArg (fun s => some (some s)) (Disk.textOf_withReturns single)
      · rfl
  | cons name way ih =>
    rw [texts_cons, texts_cons, entry?_withReturns, Option.bind_map]
    rcases found : t.entry? name with _ | u
    · rfl
    · exact ih fun file hfile => h (name :: file.1, file.2) (mem_files_of_entry found hfile)

end FileTree

/-- The disk with a carriage return before each newline of the chosen files. -/
def Disk.converted (d : Disk) (chosen : List String → Bool) : Disk :=
  { d with top := d.top.withReturns chosen }

/-- Carriage returns before newlines leave the texts on a disk as they are. -/
theorem Disk.sameTexts_converted {d : Disk} {chosen : List String → Bool} (proper : d.top.IsProper)
    (single : ∀ file ∈ d.top.files, chosen file.1 = true → 0x0d ∉ file.2) :
    (d.converted chosen).SameTexts d where
  current := rfl
  texts := FileTree.texts_withReturns single
  proper := FileTree.withReturns_isProper proper chosen
  proper' := proper

end ModuleAudit
