import Mathlib.Data.List.Forall2
import Mathlib.Logic.ExistsUnique
import ModuleAudit.Proofs.Java.Grammar
import ModuleAudit.Text.Lines

/-!
# The copies of a Java text

What the two copies of a text have in common with it, and what becomes of a copy that is split
again.

* `copies_of_grammar`: the copies in terms of the only split of the text, token by token and
  character by character;
* `lineNumber_codeOf`: line numbers can be counted on a copy;
* `split_flatMap_code`: the comment-blanked copy of a run of tokens splits into the same tokens, each
  comment being blanks now. Hence a run of tokens can be cut out and copied again
  (`codeOf_flatMap_code`, `bareOf_flatMap_code`), and so can a whole copy (`codeOf_codeOf`,
  `bareOf_codeOf`).
-/

namespace ModuleAudit.Java

open ModuleAudit.Text (lineNumber)

/-! ## Characters and newlines -/

/-- The copy has the characters of the text, some of them replaced by blanks, newlines never. -/
def Veils (s copy : List Char) : Prop := List.Forall₂ (fun c d => d = c ∨ c ≠ '\n' ∧ d = ' ') s copy

theorem veils_refl (s : List Char) : Veils s s := List.forall₂_same.2 fun _ _ => .inl rfl

theorem veils_blank (s : List Char) : Veils s (blank s) := by
  refine List.forall₂_map_right_iff.2 (List.forall₂_same.2 fun c _ => ?_)
  by_cases h : c = '\n' <;> simp [h]

theorem Token.veils_code (t : Token) : Veils t.text t.code := by
  cases t with
  | lineComment s | blockComment s => exact veils_blank s
  | _ => exact veils_refl _

theorem Token.veils_bare (t : Token) : Veils t.text t.bare := by
  cases t with
  | lineComment s | blockComment s => exact veils_blank s
  | textBlock inner closing =>
    exact List.rel_append (List.rel_append (veils_refl _) (veils_blank inner)) (veils_refl closing)
  | literal q inner closing =>
    exact List.rel_append (List.Forall₂.cons (.inl rfl) (veils_blank inner)) (veils_refl closing)
  | other c => exact veils_refl _

theorem veils_flatMap {f : Token → List Char} (h : ∀ t, Veils t.text (f t)) (s : List Char) :
    Veils s ((Token.split s).flatMap f) := by
  conv => arg 1; rw [← Token.flatMap_text_split s]
  exact List.rel_flatMap (List.forall₂_same.2 fun _ _ => rfl) fun t u e => e ▸ h t

theorem veils_codeOf (s : List Char) : Veils s (codeOf s) := veils_flatMap Token.veils_code s

theorem veils_bareOf (s : List Char) : Veils s (bareOf s) := veils_flatMap Token.veils_bare s

theorem Veils.length_eq {s copy : List Char} (h : Veils s copy) : copy.length = s.length :=
  (List.Forall₂.length_eq h).symm

theorem length_codeOf (s : List Char) : (codeOf s).length = s.length := (veils_codeOf s).length_eq

theorem length_bareOf (s : List Char) : (bareOf s).length = s.length := (veils_bareOf s).length_eq

/-- The newlines of a copy stand where those of the text do. -/
theorem Veils.newline_iff {s copy : List Char} (h : Veils s copy) (k : Nat) :
    copy[k]? = some '\n' ↔ s[k]? = some '\n' := by
  induction h generalizing k with
  | nil => rfl
  | cons hcd _ ih =>
    cases k with
    | zero => rcases hcd with rfl | ⟨hc, rfl⟩ <;> simp [*]
    | succ k => simpa using ih k

/-! ## Character by character -/

theorem blank_getElem? {s : List Char} {k : Nat} {c : Char} (h : s[k]? = some c) :
    (blank s)[k]? = some (if c ≠ '\n' then ' ' else c) := by
  simp [blank, h]

/-- A stretch of text blanked out between two others. -/
theorem append_blank_getElem? {front inner back : List Char} {k : Nat} {c : Char}
    (h : (front ++ inner ++ back)[k]? = some c) :
    (front ++ blank inner ++ back)[k]? =
      some (if (front.length ≤ k ∧ k < front.length + inner.length) ∧ c ≠ '\n' then ' ' else c) := by
  have length : (blank inner).length = inner.length := Token.length_blank inner
  rw [List.append_assoc] at h ⊢
  by_cases before : k < front.length
  · rw [List.getElem?_append_left before] at h ⊢
    rw [h, if_neg (by omega)]
  by_cases behind : front.length + inner.length ≤ k
  · rw [List.getElem?_append_right (by omega), List.getElem?_append_right (by omega)] at h
    rw [List.getElem?_append_right (by omega), List.getElem?_append_right (by omega), length, h,
      if_neg (by omega)]
  · rw [List.getElem?_append_right (by omega), List.getElem?_append_left (by omega)] at h
    rw [List.getElem?_append_right (by omega), List.getElem?_append_left (by omega), blank_getElem? h]
    simp only [show front.length ≤ k ∧ k < front.length + inner.length by omega, true_and]

namespace Token

/-- Whether the token is a comment. -/
def IsComment : Token → Prop
  | lineComment _ => True
  | blockComment _ => True
  | _ => False

instance : DecidablePred IsComment
  | lineComment _ => .isTrue trivial
  | blockComment _ => .isTrue trivial
  | textBlock _ _ => .isFalse id
  | literal _ _ _ => .isFalse id
  | other _ => .isFalse id

/-- The place `k` of the token lies strictly between the delimiters of a text block or literal. -/
def Within : Token → Nat → Prop
  | textBlock inner _, k => 3 ≤ k ∧ k < 3 + inner.length
  | literal _ inner _, k => 1 ≤ k ∧ k < 1 + inner.length
  | _, _ => False

instance (t : Token) (k : Nat) : Decidable (t.Within k) :=
  match t with
  | textBlock _ _ => inferInstanceAs (Decidable (_ ∧ _))
  | literal _ _ _ => inferInstanceAs (Decidable (_ ∧ _))
  | lineComment _ | blockComment _ | other _ => .isFalse id

theorem code_getElem? {t : Token} {k : Nat} {c : Char} (h : t.text[k]? = some c) :
    t.code[k]? = some (if t.IsComment ∧ c ≠ '\n' then ' ' else c) := by
  cases t with
  | lineComment s | blockComment s =>
    have h : s[k]? = some c := h
    simpa [IsComment, code] using blank_getElem? h
  | _ => simp only [IsComment, false_and, if_false, code, h]

theorem bare_getElem? {t : Token} {k : Nat} {c : Char} (h : t.text[k]? = some c) :
    t.bare[k]? = some (if (t.IsComment ∨ t.Within k) ∧ c ≠ '\n' then ' ' else c) := by
  cases t with
  | lineComment s | blockComment s =>
    have h : s[k]? = some c := h
    simpa [IsComment, Within, bare] using blank_getElem? h
  | textBlock inner closing =>
    have h : (tripleQuote ++ inner ++ closing)[k]? = some c := h
    simpa [IsComment, Within, bare, tripleQuote] using append_blank_getElem? h
  | literal q inner closing =>
    have h : ([q] ++ inner ++ closing)[k]? = some c := h
    simpa [IsComment, Within, bare] using append_blank_getElem? h
  | other d => simpa [IsComment, Within, bare, text] using h

/-- A place of a token in a copy of the tokens. -/
theorem flatMap_getElem? {f : Token → List Char} (h : ∀ t, (f t).length = t.text.length)
    (us vs : List Token) {t : Token} {k : Nat} (hk : k < t.text.length) :
    ((us ++ t :: vs).flatMap f)[(us.flatMap text).length + k]? = (f t)[k]? := by
  have before : (us.flatMap f).length = (us.flatMap text).length := by
    simp only [List.length_flatMap, h]
  rw [List.flatMap_append, List.flatMap_cons, List.getElem?_append_right (by omega), before,
    Nat.add_sub_cancel_left, List.getElem?_append_left (by rwa [h])]

end Token

/-- Every text has exactly one split by the rules. Its two copies are made of the tokens of this split
and have the character of the text at each place, or a blank: the first copy in comments, the second
one strictly between the delimiters of text blocks and literals too, and neither in place of a newline.
Both line up with the text: they are as long and have their newlines at the same places. -/
theorem copies_of_grammar (s : List Char) :
    (∃! ts, IsSplit s ts) ∧
    (∀ ts, IsSplit s ts → codeOf s = ts.flatMap Token.code ∧ bareOf s = ts.flatMap Token.bare) ∧
    (∀ us t vs, IsSplit s (us ++ t :: vs) → ∀ k c, t.text[k]? = some c →
      let place := (us.flatMap Token.text).length + k
      s[place]? = some c ∧
      (codeOf s)[place]? = some (if t.IsComment ∧ c ≠ '\n' then ' ' else c) ∧
      (bareOf s)[place]? = some (if (t.IsComment ∨ t.Within k) ∧ c ≠ '\n' then ' ' else c)) ∧
    ((codeOf s).length = s.length ∧ (bareOf s).length = s.length) ∧
    ∀ k : Nat, ((codeOf s)[k]? = some '\n' ↔ s[k]? = some '\n') ∧
      ((bareOf s)[k]? = some '\n' ↔ s[k]? = some '\n') := by
  refine ⟨⟨Token.split s, isSplit_iff.2 rfl, fun _ => isSplit_iff.1⟩, fun ts h => ?_, ?_,
    ⟨(veils_codeOf s).length_eq, (veils_bareOf s).length_eq⟩,
    fun k => ⟨(veils_codeOf s).newline_iff k, (veils_bareOf s).newline_iff k⟩⟩
  · rw [isSplit_iff.1 h]
    exact ⟨rfl, rfl⟩
  · intro us t vs h k c hc place
    have inside : k < t.text.length := (List.getElem?_eq_some_iff.1 hc).1
    have tokens := isSplit_iff.1 h
    refine ⟨?_, ?_, ?_⟩
    · rw [← Token.flatMap_text_split s, ← tokens, Token.flatMap_getElem? (fun _ => rfl) us vs inside, hc]
    · rw [codeOf, ← tokens, Token.flatMap_getElem? Token.length_code us vs inside,
        Token.code_getElem? hc]
    · rw [bareOf, ← tokens, Token.flatMap_getElem? Token.length_bare us vs inside,
        Token.bare_getElem? hc]

theorem Veils.count_newline {s copy : List Char} (h : Veils s copy) :
    copy.count '\n' = s.count '\n' := by
  induction h with
  | nil => rfl
  | cons hcd _ ih =>
    rw [List.count_cons, List.count_cons, ih]
    rcases hcd with rfl | ⟨hc, rfl⟩ <;> simp [*]

theorem Veils.lineNumber_eq {s copy : List Char} (h : Veils s copy) (offset : Nat) :
    lineNumber copy offset = lineNumber s offset := by
  rw [lineNumber, lineNumber, Veils.count_newline (List.forall₂_take offset h)]

theorem lineNumber_codeOf (s : List Char) (offset : Nat) :
    lineNumber (codeOf s) offset = lineNumber s offset := (veils_codeOf s).lineNumber_eq offset

theorem lineNumber_bareOf (s : List Char) (offset : Nat) :
    lineNumber (bareOf s) offset = lineNumber s offset := (veils_bareOf s).lineNumber_eq offset

/-! ## Blanked tokens -/

namespace Token

/-- The token, or the blanks and newlines that take the place of a comment. -/
def blanked : Token → List Token
  | lineComment s => (blank s).map other
  | blockComment s => (blank s).map other
  | t => [t]

theorem flatMap_map_other {f : Token → List Char} (h : ∀ c, f (other c) = [c]) (s : List Char) :
    (s.map other).flatMap f = s := by
  rw [List.flatMap_map, funext h, List.flatMap_singleton']

theorem code_blanked (t : Token) : t.blanked.flatMap code = t.code := by
  cases t with
  | lineComment s | blockComment s => exact flatMap_map_other (fun _ => rfl) _
  | _ => simp [blanked]

theorem bare_blanked (t : Token) : t.blanked.flatMap bare = t.bare := by
  cases t with
  | lineComment s | blockComment s => exact flatMap_map_other (fun _ => rfl) _
  | _ => simp [blanked]

end Token

/-- What the text behind a token may turn into without disturbing the token: it may break off or
start with a blank instead, and nothing is added at the end of the text. -/
structure Looser (rest rest' : List Char) : Prop where
  nil : rest = [] → rest' = []
  head : rest' = [] ∨ rest'.head? = some ' ' ∨ rest'.head? = rest.head?

theorem Looser.head_eq {rest rest' : List Char} (h : Looser rest rest') {d : Char} (hd : d ≠ ' ')
    (e : rest'.head? = some d) : rest.head? = some d := by
  rcases h.head with rfl | hb | hs
  · cases e
  · exact absurd (Option.some.inj (e.symm.trans hb)) hd
  · exact hs ▸ e

theorem pair_prefix_iff {a b c : Char} {rest : List Char} :
    [a, b] <+: c :: rest ↔ a = c ∧ rest.head? = some b := by
  cases rest <;> simp [List.cons_prefix_cons, eq_comm]

/-- Three quotes at the start of a literal are the quotes of an empty one and a third. -/
theorem tripleQuote_prefix_iff {q closer : Char} {inner rest : List Char} (hi : Content q inner) :
    tripleQuote <+: q :: (inner ++ closer :: rest) ↔
      q = '"' ∧ inner = [] ∧ closer = '"' ∧ rest.head? = some '"' := by
  rw [tripleQuote, List.cons_prefix_cons]
  cases hi with
  | nil => rw [List.nil_append, pair_prefix_iff]; simp [eq_comm]
  | escape => simp [List.cons_prefix_cons]
  | plain _ hq => simp only [List.cons_append, List.cons_prefix_cons]; grind

namespace Token

theorem Before.loosen {t : Token} {rest rest' : List Char} (h : t.Before rest)
    (hl : Looser rest rest') (ht : ¬ t.IsComment) : t.Before rest' := by
  cases h with
  | lineComment | blockComment | openBlockComment => exact absurd trivial ht
  | textBlock hi => exact .textBlock (nowhere_append_right rest rest' hi)
  | openTextBlock hi =>
    obtain rfl := hl.nil rfl
    exact .openTextBlock hi
  | literal hq hi hc hn =>
    refine .literal hq hi hc fun h => hn ?_
    obtain ⟨h₁, h₂, h₃, h₄⟩ := (tripleQuote_prefix_iff hi).1 h
    exact (tripleQuote_prefix_iff hi).2 ⟨h₁, h₂, h₃, hl.head_eq (by decide) h₄⟩
  | openLiteral hq hi hlast hn =>
    obtain rfl := hl.nil rfl
    exact .openLiteral hq hi hlast hn
  | other h₁ h₂ hq =>
    refine .other (fun h => h₁ ?_) (fun h => h₂ ?_) hq
    all_goals
      obtain ⟨hc, hh⟩ := pair_prefix_iff.1 h
      exact pair_prefix_iff.2 ⟨hc, hl.head_eq (by decide) hh⟩

/-- Blanking a comment out leaves a blank at its start, and other tokens alone. -/
theorem Before.head_code {t : Token} {rest : List Char} (h : t.Before rest) :
    ∃ c s, t.code = c :: s ∧ (c = ' ' ∨ t.text.head? = some c) := by
  cases h with
  | lineComment | blockComment | openBlockComment => exact ⟨' ', _, rfl, .inl rfl⟩
  | _ => exact ⟨_, _, rfl, .inr rfl⟩

theorem code_eq_text {t : Token} (h : ¬ t.IsComment) : t.code = t.text := by
  cases t with
  | lineComment | blockComment => exact absurd trivial h
  | _ => rfl

theorem blanked_eq {t : Token} (h : ¬ t.IsComment) : t.blanked = [t] := by
  cases t with
  | lineComment | blockComment => exact absurd trivial h
  | _ => rfl

theorem IsComment.eq_blank {t : Token} (h : t.IsComment) :
    t.code = blank t.text ∧ t.blanked = (blank t.text).map other := by
  cases t with
  | lineComment | blockComment => exact ⟨rfl, rfl⟩
  | _ => exact absurd h id

end Token

/-! ## Splitting again -/

theorem IsSplit.flatMap_text {s : List Char} {ts : List Token} (h : IsSplit s ts) :
    ts.flatMap Token.text = s := by
  induction h with
  | nil => rfl
  | cons _ _ ih => rw [List.flatMap_cons, ih]

theorem IsSplit.append_right {s : List Char} {ts us : List Token} (h : IsSplit s (ts ++ us)) :
    IsSplit (us.flatMap Token.text) us := by
  induction ts generalizing s with
  | nil =>
    rw [List.nil_append] at h
    rwa [h.flatMap_text]
  | cons t ts ih =>
    cases h with
    | cons _ h => exact ih h

/-- Blanks and newlines are tokens of their own before any text. -/
theorem Token.before_of_blank {d : Char} (h : d = ' ' ∨ d = '\n') (rest : List Char) :
    (Token.other d).Before rest := by
  refine .other ?_ ?_ ?_
  · rw [pair_prefix_iff]; rcases h with rfl | rfl <;> simp
  · rw [pair_prefix_iff]; rcases h with rfl | rfl <;> simp
  · rw [IsQuote]; rcases h with rfl | rfl <;> decide

theorem isSplit_blank {s rest : List Char} {ts : List Token} (h : IsSplit rest ts) :
    IsSplit (blank s ++ rest) ((blank s).map .other ++ ts) := by
  induction s with
  | nil => exact h
  | cons c s ih =>
    have hd : (if c == '\n' then c else ' ') = ' ' ∨ (if c == '\n' then c else ' ') = '\n' := by
      by_cases h : c = '\n' <;> simp [h]
    exact IsSplit.cons (Token.before_of_blank hd _) ih

/-- The text behind a token, cut off after some tokens and with the comments blanked out. -/
theorem IsSplit.looser {s : List Char} {us vs : List Token} (h : IsSplit s (us ++ vs)) :
    Looser s (us.flatMap Token.code) := by
  cases us with
  | nil => exact ⟨fun _ => rfl, .inl rfl⟩
  | cons u us =>
    cases h with
    | @cons _ _ rest hu _ =>
      obtain ⟨c, t, hc, hh⟩ := hu.head_code
      refine ⟨fun hs => absurd (List.append_eq_nil_iff.1 hs).1 hu.text_ne_nil, .inr ?_⟩
      rw [List.flatMap_cons, hc, List.cons_append, List.head?_cons]
      refine hh.imp (congrArg some) fun hh => ?_
      rw [List.head?_append, hh, Option.some_or]

/-- Some tokens of a split, copied with the comments blanked out, split into the same tokens, a
comment into its blanks. -/
theorem IsSplit.blanked {s : List Char} {us vs : List Token} (h : IsSplit s (us ++ vs)) :
    IsSplit (us.flatMap Token.code) (us.flatMap Token.blanked) := by
  induction us generalizing s with
  | nil => exact .nil
  | cons u us ih =>
    cases h with
    | @cons _ _ rest hu h =>
      rw [List.flatMap_cons, List.flatMap_cons]
      by_cases hc : u.IsComment
      · rw [hc.eq_blank.1, hc.eq_blank.2]
        exact isSplit_blank (ih h)
      · rw [Token.code_eq_text hc, Token.blanked_eq hc]
        exact IsSplit.cons (hu.loosen h.looser hc) (ih h)

section Run

variable {s : List Char} {ts us vs : List Token}

theorem split_flatMap_code (h : Token.split s = ts ++ us ++ vs) :
    Token.split (us.flatMap Token.code) = us.flatMap Token.blanked := by
  have h := isSplit_iff.2 h.symm
  rw [List.append_assoc] at h
  exact (isSplit_iff.1 h.append_right.blanked).symm

theorem codeOf_flatMap_code (h : Token.split s = ts ++ us ++ vs) :
    codeOf (us.flatMap Token.code) = us.flatMap Token.code := by
  rw [codeOf, split_flatMap_code h, List.flatMap_assoc]
  simp only [Token.code_blanked]

theorem bareOf_flatMap_code (h : Token.split s = ts ++ us ++ vs) :
    bareOf (us.flatMap Token.code) = us.flatMap Token.bare := by
  rw [bareOf, split_flatMap_code h, List.flatMap_assoc]
  simp only [Token.bare_blanked]

end Run

theorem split_eq_append (s : List Char) : Token.split s = [] ++ Token.split s ++ [] := by
  rw [List.nil_append, List.append_nil]

/-- Blanking comments out again changes nothing. -/
theorem codeOf_codeOf (s : List Char) : codeOf (codeOf s) = codeOf s :=
  codeOf_flatMap_code (split_eq_append s)

/-- Blanking comments out neither makes nor breaks a literal. -/
theorem bareOf_codeOf (s : List Char) : bareOf (codeOf s) = bareOf s :=
  bareOf_flatMap_code (split_eq_append s)

end ModuleAudit.Java
