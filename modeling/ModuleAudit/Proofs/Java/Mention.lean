import ModuleAudit.Java.Source
import ModuleAudit.Proofs.Java.Body

/-!
# Words in the code of a file

A file mentions an identifier if it stands there by itself, outside comments and literals
(`StandsIn`, in terms of the tokens of the text). The scan looks for it in the bare copy, where a
comment or a literal shows no character of an identifier, so it finds exactly the words that stand
by themselves (`Source.mentions_iff`). In the text these are the runs of such characters that lie in the
code and go no further (`Source.mentions_iff_run`): what stands next to a word is a character of an
identifier only if it is a token of its own (`IsSplit.headIs_sides`).
-/

namespace ModuleAudit.Java

open ModuleAudit.Text (isIdent)
open ModuleAudit.Pattern (headIs)

/-- The characters of a word stand in a text as tokens of their own, and the tokens next to them are
no further characters of an identifier. -/
def StandsIn (w s : List Char) : Prop :=
  ∃ us vs, IsSplit s (us ++ w.map .other ++ vs) ∧
    (∀ c, us.getLast? = some (.other c) → isIdent c = false) ∧
    ∀ c, vs.head? = some (.other c) → isIdent c = false

/-! ## Characters of identifiers in the bare copy -/

theorem isPlain_of_isIdent {c : Char} (h : isIdent c = true) : IsPlain c := by
  refine ⟨?_, ?_, ?_⟩
  · rintro rfl
    exact absurd h (by decide)
  · rintro rfl
    exact absurd h (by decide)
  · rintro (rfl | rfl) <;> exact absurd h (by decide)

/-- The bare copy of a token starts with a character of an identifier only if this is the token. -/
theorem Token.Before.headIs_bare {t : Token} {rest : List Char} (h : t.Before rest) (y : List Char) :
    headIs isIdent (t.bare ++ y) = true ↔ ∃ c, t = .other c ∧ isIdent c = true := by
  constructor
  · intro head
    obtain ⟨c, z, e⟩ := List.exists_cons_of_ne_nil h.bare_ne_nil
    have ident : isIdent c = true := by simpa [headIs, e] using head
    exact ⟨c, h.eq_other (isPlain_of_isIdent ident) (e ▸ List.mem_cons_self), ident⟩
  · rintro ⟨c, rfl, ident⟩
    exact ident

/-- So it does for the end of a token. -/
theorem Token.Before.headIs_reverse_bare {t : Token} {rest : List Char} (h : t.Before rest)
    (x : List Char) :
    headIs isIdent (t.bare.reverse ++ x) = true ↔ ∃ c, t = .other c ∧ isIdent c = true := by
  constructor
  · intro head
    obtain ⟨c, z, e⟩ := List.exists_cons_of_ne_nil (mt List.reverse_eq_nil_iff.1 h.bare_ne_nil)
    have ident : isIdent c = true := by simpa [headIs, e] using head
    have mem : c ∈ t.bare := List.mem_reverse.1 (e ▸ List.mem_cons_self)
    exact ⟨c, h.eq_other (isPlain_of_isIdent ident) mem, ident⟩
  · rintro ⟨c, rfl, ident⟩
    exact ident

section Ends

variable {s : List Char} {us vs : List Token}

theorem headIs_bare_iff (h : ∀ t ∈ vs, ∃ rest, t.Before rest) :
    headIs isIdent (vs.flatMap Token.bare) = true ↔
      ∃ c, vs.head? = some (.other c) ∧ isIdent c = true := by
  cases vs with
  | nil => simp [headIs]
  | cons t vs =>
    obtain ⟨rest, ht⟩ := h t List.mem_cons_self
    rw [List.flatMap_cons, ht.headIs_bare]
    simp

theorem headIs_reverse_bare_iff (h : ∀ t ∈ us, ∃ rest, t.Before rest) :
    headIs isIdent (us.flatMap Token.bare).reverse = true ↔
      ∃ c, us.getLast? = some (.other c) ∧ isIdent c = true := by
  rcases us.eq_nil_or_concat with rfl | ⟨us, t, rfl⟩
  · simp [headIs]
  · rw [List.concat_eq_append] at h ⊢
    obtain ⟨rest, ht⟩ := h t List.mem_concat_self
    rw [List.flatMap_append, List.flatMap_singleton, List.reverse_append, ht.headIs_reverse_bare,
      List.getLast?_concat]
    simp

end Ends

/-! ## Words in the bare copy -/

/-- Plain characters at the start of the bare copy are tokens of their own. -/
theorem split_of_bare_prefix {s w y : List Char} {ts : List Token} (h : IsSplit s ts)
    (plain : ∀ c ∈ w, IsPlain c) (e : ts.flatMap Token.bare = w ++ y) :
    ∃ vs, ts = w.map .other ++ vs ∧ vs.flatMap Token.bare = y := by
  induction w generalizing s ts with
  | nil => exact ⟨ts, rfl, e⟩
  | cons c w ih =>
    obtain ⟨hc, plain⟩ := List.forall_mem_cons.1 plain
    obtain ⟨us, rest, rfl, none, back⟩ := split_of_bare (x := []) h hc e
    obtain rfl : us = [] :=
      eq_nil_of_bare (fun t ht => h.exists_before (List.mem_append_left _ ht)) none
    replace h : IsSplit s ([Token.other c] ++ rest) := h
    obtain ⟨vs, rfl, last⟩ := ih h.append_right plain back
    exact ⟨vs, rfl, last⟩

/-- Plain characters in a row divide the tokens of a text, as a single one does. -/
theorem split_of_bare_word {s w x y : List Char} {ts : List Token} (h : IsSplit s ts)
    (nonempty : w ≠ []) (plain : ∀ c ∈ w, IsPlain c) (e : ts.flatMap Token.bare = x ++ w ++ y) :
    ∃ us vs, ts = us ++ w.map .other ++ vs ∧ us.flatMap Token.bare = x ∧
      vs.flatMap Token.bare = y := by
  obtain ⟨c, w, rfl⟩ := List.exists_cons_of_ne_nil nonempty
  obtain ⟨hc, plain⟩ := List.forall_mem_cons.1 plain
  rw [List.append_assoc, List.cons_append] at e
  obtain ⟨us, rest, rfl, front, back⟩ := split_of_bare h hc e
  have h : IsSplit _ ([Token.other c] ++ rest) := h.append_right
  obtain ⟨vs, rfl, last⟩ := split_of_bare_prefix h.append_right plain back
  exact ⟨us, vs, by simp, front, last⟩

theorem wholeWord_found_iff {ident : String} {bare : List Char} :
    (Source.wholeWord ident).found bare = true ↔
      ∃ x y, bare = x ++ ident.toList ++ y ∧ headIs isIdent x.reverse = false ∧
        headIs isIdent y = false := by
  simp only [Pattern.found_iff, Source.wholeWord, Pattern.fits_sequence_cons,
    Pattern.fits_sequence_nil, Pattern.fits_word, Pattern.notAfter, Pattern.notBefore, Pattern.Fits,
    Bool.not_eq_true']
  constructor
  · rintro ⟨x, _, y, rfl, _, _, rfl, ⟨rfl, front⟩, _, _, rfl, rfl, _, _, rfl, ⟨rfl, back⟩, rfl⟩
    exact ⟨x, y, by simp, front, by simpa using back⟩
  · rintro ⟨x, y, rfl, front, back⟩
    exact ⟨x, _, y, rfl, [], _, rfl, ⟨rfl, front⟩, _, [], (List.append_nil _).symm, rfl, [], [], rfl,
      ⟨rfl, by simpa using back⟩, rfl⟩

/-- A word of an identifier's characters stands by itself in the bare copy exactly if it stands by
itself among the tokens. -/
theorem standsIn_iff {w s : List Char} (nonempty : w ≠ []) (ident : ∀ c ∈ w, isIdent c = true) :
    StandsIn w s ↔ ∃ x y, bareOf s = x ++ w ++ y ∧ headIs isIdent x.reverse = false ∧
      headIs isIdent y = false := by
  -- On both sides of the word, the token next to it decides.
  have sides {us vs : List Token} (h : IsSplit s (us ++ w.map .other ++ vs)) :
      ((∀ c, us.getLast? = some (.other c) → isIdent c = false) ↔
        headIs isIdent (us.flatMap Token.bare).reverse = false) ∧
      ((∀ c, vs.head? = some (.other c) → isIdent c = false) ↔
        headIs isIdent (vs.flatMap Token.bare) = false) := by
    have front := headIs_reverse_bare_iff fun t (ht : t ∈ us) =>
      h.exists_before (List.mem_append_left _ (List.mem_append_left _ ht))
    have back := headIs_bare_iff fun t (ht : t ∈ vs) =>
      h.exists_before (List.mem_append_right _ ht)
    rw [← Bool.not_eq_true, ← Bool.not_eq_true, front, back]
    simp
  have copy (us vs : List Token) : (us ++ w.map Token.other ++ vs).flatMap Token.bare =
      us.flatMap Token.bare ++ w ++ vs.flatMap Token.bare := by
    rw [List.flatMap_append, List.flatMap_append, Token.flatMap_map_other (f := Token.bare) fun _ => rfl]
  constructor
  · rintro ⟨us, vs, h, front, back⟩
    refine ⟨_, _, ?_, (sides h).1.1 front, (sides h).2.1 back⟩
    rw [bareOf, ← isSplit_iff.1 h, copy]
  · rintro ⟨x, y, e, front, back⟩
    obtain ⟨us, vs, split, rfl, rfl⟩ := split_of_bare_word (isSplit_iff.2 rfl) nonempty
      (fun c hc => isPlain_of_isIdent (ident c hc)) e
    have h : IsSplit s (us ++ w.map .other ++ vs) := isSplit_iff.2 split.symm
    exact ⟨us, vs, h, (sides h).1.2 front, (sides h).2.2 back⟩

/-- A file mentions identifiers exactly if one of them stands by itself in its code. -/
theorem Source.mentions_iff {s : Source} {idents : List String}
    (h : ∀ ident ∈ idents, ident.toList ≠ [] ∧ ident.toList.all isIdent = true) :
    s.mentions idents = true ↔ ∃ ident ∈ idents, StandsIn ident.toList s.text := by
  rw [mentions, List.any_eq_true]
  refine exists_congr fun ident => and_congr_right fun mem => ?_
  obtain ⟨nonempty, each⟩ := h ident mem
  rw [wholeWord_found_iff, standsIn_iff nonempty (List.all_eq_true.1 each), bare_eq]

/-! ## Runs in the text -/

/-- The stretch `w` between `x` and `y` is a run of characters of identifiers, and the run goes no
further to either side. -/
structure IsWholeRun (x w y : List Char) : Prop where
  run : IsRun isIdent w
  front : headIs isIdent x.reverse = false
  back : headIs isIdent y = false

/-- The stretch `w` between `x` and `y` is code: each of its characters is a token of its own. -/
def IsCode (x w y : List Char) : Prop :=
  ∃ us vs, IsSplit (x ++ w ++ y) (us ++ w.map .other ++ vs) ∧ us.flatMap Token.text = x ∧
    vs.flatMap Token.text = y

theorem isIdent_of_isQuote {c : Char} (h : IsQuote c) : isIdent c = false := by
  rcases h with rfl | rfl <;> decide

/-- A token starts with a character of an identifier only if it is this character. -/
theorem Token.Before.headIs_text {t : Token} {rest : List Char} (h : t.Before rest) (y : List Char) :
    headIs isIdent (t.text ++ y) = true ↔ ∃ c, t = .other c ∧ isIdent c = true := by
  cases h with
  | lineComment | blockComment | openBlockComment | textBlock | openTextBlock =>
    exact iff_of_false (by simp [headIs, Token.text, tripleQuote]; decide) (by simp)
  | literal quote | openLiteral quote =>
    exact iff_of_false (by simp [headIs, Token.text, isIdent_of_isQuote quote]) (by simp)
  | @other c => simp [headIs, Token.text]

/-- So it does for the end of a token that an identifier follows. A line comment ends before a newline, and
what is left open ends with the text. -/
theorem Token.Before.headIs_reverse_text {t : Token} {rest : List Char} (h : t.Before rest)
    (next : headIs isIdent rest = true) (x : List Char) :
    headIs isIdent (t.text.reverse ++ x) = true ↔ ∃ c, t = .other c ∧ isIdent c = true := by
  have open_ : ¬ headIs isIdent [] = true := by simp [headIs]
  cases h with
  | lineComment _ stop =>
    rcases stop with rfl | newline
    · exact absurd next open_
    · rw [headIs, newline] at next
      exact absurd next (by decide)
  | openBlockComment | openTextBlock | openLiteral => exact absurd next open_
  | blockComment | textBlock =>
    exact iff_of_false (by simp [headIs, Token.text, tripleQuote]; decide) (by simp)
  | literal quote _ closer =>
    refine iff_of_false ?_ (by simp)
    rcases closer with rfl | rfl
    · simp [headIs, Token.text, isIdent_of_isQuote quote]
    · simp [headIs, Token.text]; decide
  | @other c => simp [headIs, Token.text]

/-- Of the tokens around a word, those next to it show whether the word goes on in the text. -/
theorem IsSplit.headIs_sides {s w : List Char} {us vs : List Token} (h : IsSplit s (us ++ w.map .other ++ vs))
    (run : IsRun isIdent w) :
    (headIs isIdent (us.flatMap Token.text).reverse = true ↔
        ∃ c, us.getLast? = some (.other c) ∧ isIdent c = true) ∧
      (headIs isIdent (vs.flatMap Token.text) = true ↔
        ∃ c, vs.head? = some (.other c) ∧ isIdent c = true) := by
  constructor
  · rcases us.eq_nil_or_concat with rfl | ⟨us, t, rfl⟩
    · simp [headIs]
    rw [List.concat_eq_append] at h ⊢
    rw [List.append_assoc, List.append_assoc] at h
    obtain ⟨_, here⟩ : ∃ s', IsSplit s' (t :: (w.map .other ++ vs)) := ⟨_, h.append_right⟩
    cases here with
    | @cons _ _ rest before tail =>
      obtain ⟨c, w, rfl⟩ := List.exists_cons_of_ne_nil run.nonempty
      have next : headIs isIdent rest = true := by
        rw [← tail.flatMap_text]
        simpa [headIs, Token.text] using run.each c List.mem_cons_self
      rw [List.flatMap_append, List.flatMap_singleton, List.reverse_append,
        before.headIs_reverse_text next, List.getLast?_concat]
      simp
  · cases vs with
    | nil => simp [headIs]
    | cons t vs =>
      obtain ⟨rest, before⟩ := h.exists_before (List.mem_append_right _ List.mem_cons_self)
      rw [List.flatMap_cons, before.headIs_text]
      simp

/-- A word that stands by itself among the tokens is a whole run of the text that lies in the code. -/
theorem standsIn_iff_isWholeRun {w s : List Char} (run : IsRun isIdent w) :
    StandsIn w s ↔ ∃ x y, s = x ++ w ++ y ∧ IsWholeRun x w y ∧ IsCode x w y := by
  have apart (o : Option Token) :
      (∀ c, o = some (.other c) → isIdent c = false) ↔
        ¬ ∃ c, o = some (.other c) ∧ isIdent c = true := by
    simp
  have ends {us vs : List Token} {s : List Char} (h : IsSplit s (us ++ w.map .other ++ vs)) :
      ((∀ c, us.getLast? = some (.other c) → isIdent c = false) ↔
          headIs isIdent (us.flatMap Token.text).reverse = false) ∧
        ((∀ c, vs.head? = some (.other c) → isIdent c = false) ↔
          headIs isIdent (vs.flatMap Token.text) = false) := by
    obtain ⟨front, back⟩ := h.headIs_sides run
    rw [apart, apart, ← front, ← back, Bool.not_eq_true, Bool.not_eq_true]
    exact ⟨Iff.rfl, Iff.rfl⟩
  constructor
  · rintro ⟨us, vs, h, front, back⟩
    have split : s = us.flatMap Token.text ++ w ++ vs.flatMap Token.text := by
      rw [← h.flatMap_text, List.flatMap_append, List.flatMap_append,
        Token.flatMap_map_other (f := Token.text) fun _ => rfl]
    refine ⟨_, _, split, ⟨run, (ends h).1.1 front, (ends h).2.1 back⟩, us, vs, ?_, rfl, rfl⟩
    rwa [← split]
  · rintro ⟨_, _, rfl, whole, us, vs, h, rfl, rfl⟩
    exact ⟨us, vs, h, (ends h).1.2 whole.front, (ends h).2.2 whole.back⟩

/-- A file mentions identifiers exactly if one of them is a run of the text that goes no further and lies
in the code, outside comments and literals. -/
theorem Source.mentions_iff_run {s : Source} {idents : List String}
    (h : ∀ ident ∈ idents, IsRun isIdent ident.toList) :
    s.mentions idents = true ↔
      ∃ x w y, s.text = x ++ w ++ y ∧ IsWholeRun x w y ∧ IsCode x w y ∧
        ∃ ident ∈ idents, ident.toList = w := by
  have words : ∀ ident ∈ idents, ident.toList ≠ [] ∧ ident.toList.all isIdent = true :=
    fun ident mem => ⟨(h ident mem).nonempty, List.all_eq_true.2 (h ident mem).each⟩
  rw [mentions_iff words]
  constructor
  · rintro ⟨ident, mem, stands⟩
    obtain ⟨x, y, split, whole, code⟩ := (standsIn_iff_isWholeRun (h ident mem)).1 stands
    exact ⟨x, _, y, split, whole, code, ident, mem, rfl⟩
  · rintro ⟨x, _, y, split, whole, code, ident, mem, rfl⟩
    exact ⟨ident, mem, (standsIn_iff_isWholeRun (h ident mem)).2 ⟨x, y, split, whole, code⟩⟩

/-- An identifier stands behind a comment, and longer ones begin or end with it. Another one stands in a
literal and in comments only. -/
theorem Source.mentions_iff_run_prefixes :
    let s : Source := .ofText ⟨0, ["C.java"]⟩ "f1 = \"g\" + $f; /*g*/\u00e9f(f2)/**/f//g".toList
    (∀ ident ∈ ["g", "f"], IsRun isIdent ident.toList) ∧ s.mentions ["g", "f"] = true ∧
      (∃ x w y, s.text = x ++ w ++ y ∧ IsWholeRun x w y ∧ IsCode x w y ∧
        ∃ ident ∈ ["g", "f"], ident.toList = w) ∧
      ¬ ∃ x w y, s.text = x ++ w ++ y ∧ IsWholeRun x w y ∧ IsCode x w y ∧
        ∃ ident ∈ ["g"], ident.toList = w := by
  intro s
  have run {ident : String} (h : ident.toList ≠ [] ∧ ident.toList.all isIdent = true) :
      IsRun isIdent ident.toList := ⟨h.1, List.all_eq_true.1 h.2⟩
  have runs : ∀ ident ∈ ["g", "f"], IsRun isIdent ident.toList := by
    simp only [List.forall_mem_cons]
    exact ⟨run (by decide), run (by decide), nofun⟩
  have runs' : ∀ ident ∈ ["g"], IsRun isIdent ident.toList :=
    fun ident mem => runs ident (List.mem_append_left ["f"] mem)
  have found : s.mentions ["g", "f"] = true := by decide +kernel
  have missed : ¬ s.mentions ["g"] = true := by decide +kernel
  exact ⟨runs, found, (mentions_iff_run runs).1 found, mt (mentions_iff_run runs').2 missed⟩

end ModuleAudit.Java
