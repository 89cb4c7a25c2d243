import Mathlib.Data.List.Basic
import ModuleAudit.Java.Token

/-!
# The token grammar of Java texts

Which splits of a text into comments, text blocks, literals and other characters are right
(`IsSplit`), said rule by rule (`Before`) and without the functions that compute the split. Each
rule says what a token looks like and which text may follow it; the rules for the ends are "the
first delimiter" (`Nowhere`), "the first quote or newline that no backslash takes" (`Content`) or
"the end of the text".

* `Token.first_before`, `Token.Before.first_eq`: the computed first token follows the rules, and no
  other token does;
* `isSplit_iff`: so the computed split is right, and it is the only one.
-/

namespace ModuleAudit.Java

/-! ## Stretches of text -/

/-- A word begins at no place of the stretch `inner`, which stands before `after`. -/
def Nowhere (w inner after : List Char) : Prop :=
  ∀ k < inner.length, ¬ w <+: (inner ++ after).drop k

/-- The characters that open a literal. -/
def IsQuote (c : Char) : Prop := c = '"' ∨ c = '\x27'

/-- Characters that may stand in a literal opened by `q` without closing it: a backslash with
whatever follows it, or any character that is neither a backslash nor `q` nor a newline. -/
inductive Content (q : Char) : List Char → Prop
  | nil : Content q []
  | escape {c : Char} {s : List Char} : Content q s → Content q ('\\' :: c :: s)
  | plain {c : Char} {s : List Char} : c ≠ '\\' → c ≠ q → c ≠ '\n' → Content q s → Content q (c :: s)

/-! ## The rules -/

/-- The token may stand right before the text `rest`. A rule for one kind of token asks that no
kind with precedence over it starts at the same place. -/
inductive Token.Before : Token → List Char → Prop
  /-- Two slashes and what follows them up to the next newline or the end. -/
  | lineComment {body rest : List Char} : '\n' ∉ body → rest = [] ∨ rest.head? = some '\n' →
    Before (.lineComment ('/' :: '/' :: body)) rest
  /-- A slash and a star, and what follows them through the first closing delimiter. -/
  | blockComment {inner rest : List Char} : Nowhere ['*', '/'] inner ('*' :: '/' :: rest) →
    Before (.blockComment ('/' :: '*' :: inner ++ ['*', '/'])) rest
  | openBlockComment {inner : List Char} : Nowhere ['*', '/'] inner [] →
    Before (.blockComment ('/' :: '*' :: inner)) []
  /-- Three quotes and what follows them through the next three. -/
  | textBlock {inner rest : List Char} : Nowhere tripleQuote inner (tripleQuote ++ rest) →
    Before (.textBlock inner tripleQuote) rest
  | openTextBlock {inner : List Char} : Nowhere tripleQuote inner [] →
    Before (.textBlock inner []) []
  /-- A quote where no text block starts, and what follows it through the quote or newline that
  closes it. -/
  | literal {q closer : Char} {inner rest : List Char} : IsQuote q → Content q inner →
    closer = q ∨ closer = '\n' → ¬ tripleQuote <+: q :: (inner ++ closer :: rest) →
    Before (.literal q inner [closer]) rest
  /-- At the end of the text a backslash may have nothing to take. -/
  | openLiteral {q : Char} {inner last : List Char} : IsQuote q → Content q inner →
    last = [] ∨ last = ['\\'] → ¬ tripleQuote <+: q :: (inner ++ last) →
    Before (.literal q (inner ++ last) []) []
  /-- A character where no other kind of token starts. -/
  | other {c : Char} {rest : List Char} : ¬ ['/', '/'] <+: c :: rest → ¬ ['/', '*'] <+: c :: rest →
    ¬ IsQuote c → Before (.other c) rest

/-- The tokens make up the text, each standing before the rest of it by the rules. -/
inductive IsSplit : List Char → List Token → Prop
  | nil : IsSplit [] []
  | cons {t : Token} {ts : List Token} {rest : List Char} : t.Before rest → IsSplit rest ts →
    IsSplit (t.text ++ rest) (t :: ts)

/-! ## The first occurrence of a word -/

theorem nowhere_nil (w after : List Char) : Nowhere w [] after := fun _ hk => absurd hk (by simp)

theorem nowhere_cons {w inner after : List Char} {c : Char} :
    Nowhere w (c :: inner) after ↔ ¬ w <+: c :: inner ++ after ∧ Nowhere w inner after := by
  constructor
  · intro h
    exact ⟨h 0 (by simp), fun k hk => h (k + 1) (by simpa using hk)⟩
  · rintro ⟨h₀, h⟩ k hk
    cases k with
    | zero => exact h₀
    | succ k => exact h k (by simpa using hk)

/-- Whether a word begins in a stretch that the word ends depends on nothing behind it. -/
theorem nowhere_append_right {w inner : List Char} (rest rest' : List Char)
    (h : Nowhere w inner (w ++ rest)) : Nowhere w inner (w ++ rest') := by
  intro k hk hw
  refine h k hk ?_
  have hl : w.length ≤ ((inner ++ w).drop k).length := by
    rw [List.length_drop, List.length_append]; omega
  have hk' : k ≤ (inner ++ w).length := by rw [List.length_append]; omega
  rw [← List.append_assoc, List.drop_append_of_le_length hk'] at hw ⊢
  exact (List.prefix_of_prefix_length_le hw (List.prefix_append ..) hl).trans (List.prefix_append ..)

theorem nowhere_singleton {c : Char} {inner after : List Char} :
    Nowhere [c] inner after ↔ c ∉ inner := by
  induction inner with
  | nil => simp [nowhere_nil]
  | cons d inner ih => simp [nowhere_cons, ih]

theorem nowhere_breakBefore (w s : List Char) : Nowhere w (breakBefore w s).1 (breakBefore w s).2 := by
  induction s with
  | nil => exact nowhere_nil _ _
  | cons c s ih =>
    rw [breakBefore]
    split
    · exact nowhere_nil _ _
    · rename_i h
      refine nowhere_cons.2 ⟨?_, ih⟩
      rw [List.cons_append, breakBefore_append]
      exact fun hw => h (List.isPrefixOf_iff_prefix.2 hw)

theorem breakBefore_snd (w s : List Char) : (breakBefore w s).2 = [] ∨ w <+: (breakBefore w s).2 := by
  induction s with
  | nil => exact .inl rfl
  | cons c s ih =>
    rw [breakBefore]
    split
    · rename_i h
      exact .inr (List.isPrefixOf_iff_prefix.1 h)
    · exact ih

/-- A text breaks before the first occurrence of a word, or at its end. -/
theorem breakBefore_eq {w inner after : List Char} (h : Nowhere w inner after)
    (ha : after = [] ∨ w <+: after) : breakBefore w (inner ++ after) = (inner, after) := by
  induction inner with
  | nil =>
    cases after with
    | nil => rfl
    | cons c rest =>
      have hw : w <+: c :: rest := ha.resolve_left (by simp)
      simp [breakBefore, List.isPrefixOf_iff_prefix.2 hw]
  | cons c inner ih =>
    obtain ⟨h₀, h⟩ := nowhere_cons.1 h
    have hw : w.isPrefixOf (c :: (inner ++ after)) = false := by
      rw [← Bool.not_eq_true, List.isPrefixOf_iff_prefix]; exact h₀
    simp [breakBefore, hw, ih h]

/-! ## The content of a literal -/

theorem breakLiteral_escape (q c : Char) (s : List Char) :
    breakLiteral q ('\\' :: c :: s) =
      ('\\' :: c :: (breakLiteral q s).1, (breakLiteral q s).2) := rfl

theorem breakLiteral_closer {q c : Char} (hq : q ≠ '\\') (hc : c = q ∨ c = '\n') (s : List Char) :
    breakLiteral q (c :: s) = ([], c :: s) := by
  have h : c ≠ '\\' := by
    rcases hc with rfl | rfl
    · exact hq
    · decide
  simp [breakLiteral, h, hc]

theorem breakLiteral_plain {q c : Char} (h : c ≠ '\\') (hq : c ≠ q) (hn : c ≠ '\n')
    (s : List Char) : breakLiteral q (c :: s) = (c :: (breakLiteral q s).1, (breakLiteral q s).2) := by
  simp [breakLiteral, h, hq, hn]

theorem breakLiteral_content {q : Char} {inner : List Char} (h : Content q inner) (s : List Char) :
    breakLiteral q (inner ++ s) = (inner ++ (breakLiteral q s).1, (breakLiteral q s).2) := by
  induction h with
  | nil => rfl
  | escape _ ih => simp [breakLiteral_escape, ih]
  | plain h hq hn _ ih => simp [breakLiteral_plain h hq hn, ih]

/-- A literal breaks where it is closed, or at the end of the text, where a last backslash may have
nothing to take. -/
theorem breakLiteral_cases (q : Char) (s : List Char) :
    (Content q (breakLiteral q s).1 ∧
      ∃ c rest, (breakLiteral q s).2 = c :: rest ∧ (c = q ∨ c = '\n')) ∨
    (∃ inner last, (breakLiteral q s).1 = inner ++ last ∧ Content q inner ∧
      (last = [] ∨ last = ['\\']) ∧ (breakLiteral q s).2 = []) := by
  fun_induction breakLiteral q s with
  | case1 => exact .inr ⟨[], [], rfl, .nil, .inl rfl, rfl⟩
  | case2 c rest inner back e ih =>
    rw [e] at ih
    obtain ⟨h, hb⟩ | ⟨i, l, hi, h, hl, hb⟩ := ih
    · exact .inl ⟨.escape h, hb⟩
    · exact .inr ⟨'\\' :: c :: i, l, by simpa using hi, .escape h, hl, hb⟩
  | case3 c rest _ h =>
    simp only [Bool.or_eq_true, beq_iff_eq] at h
    exact .inl ⟨.nil, c, rest, rfl, h⟩
  | case4 c rest hc h inner back e ih =>
    simp only [Bool.or_eq_true, beq_iff_eq, not_or] at h
    rw [e] at ih
    by_cases hs : c = '\\'
    · -- Only the end of the text keeps a backslash from taking a character.
      subst hs
      cases rest with
      | nil =>
        obtain ⟨rfl, rfl⟩ := Prod.mk.inj e
        exact .inr ⟨[], ['\\'], rfl, .nil, .inr rfl, rfl⟩
      | cons d rest => exact absurd rfl (hc d rest rfl)
    · obtain ⟨hi, hb⟩ | ⟨i, l, hi, hin, hl, hb⟩ := ih
      · exact .inl ⟨.plain hs h.1 h.2 hi, hb⟩
      · exact .inr ⟨c :: i, l, by simpa using hi, .plain hs h.1 h.2 hin, hl, hb⟩

theorem IsQuote.ne_backslash {q : Char} (h : IsQuote q) : q ≠ '\\' := by
  rcases h with rfl | rfl <;> decide

/-! ## The first token -/

namespace Token

theorem first_lineComment (rest : List Char) :
    first '/' ('/' :: rest) =
      (lineComment ('/' :: '/' :: (breakBefore ['\n'] rest).1), (breakBefore ['\n'] rest).2) := by
  simp [first, breakBefore]

theorem first_blockComment (rest : List Char) :
    first '/' ('*' :: rest) =
      (blockComment ('/' :: '*' :: (breakBefore ['*', '/'] rest).1 ++
        (breakBefore ['*', '/'] rest).2.take 2), (breakBefore ['*', '/'] rest).2.drop 2) := by
  simp [first]

theorem first_textBlock (rest : List Char) :
    first '"' ('"' :: '"' :: rest) =
      (textBlock (breakBefore tripleQuote rest).1 ((breakBefore tripleQuote rest).2.take 3),
        (breakBefore tripleQuote rest).2.drop 3) := by
  simp [first, tripleQuote]

theorem first_literal {q : Char} {rest : List Char} (hq : IsQuote q)
    (ht : ¬ tripleQuote <+: q :: rest) :
    first q rest =
      (literal q (breakLiteral q rest).1 ((breakLiteral q rest).2.take 1),
        (breakLiteral q rest).2.drop 1) := by
  have ht : tripleQuote.isPrefixOf (q :: rest) = false := by
    rw [← Bool.not_eq_true, List.isPrefixOf_iff_prefix]; exact ht
  rcases hq with rfl | rfl <;> simp [first, ht]

theorem first_other {c : Char} {rest : List Char} (h₁ : ¬ ['/', '/'] <+: c :: rest)
    (h₂ : ¬ ['/', '*'] <+: c :: rest) (hq : ¬ IsQuote c) : first c rest = (other c, rest) := by
  have ht : tripleQuote.isPrefixOf (c :: rest) = false := by
    rw [← Bool.not_eq_true, List.isPrefixOf_iff_prefix]
    exact fun h => hq (.inl (List.cons_prefix_cons.1 h).1.symm)
  have slash {d : Char} (h : ¬ ['/', d] <+: c :: rest) : ¬ (c = '/' ∧ rest.head? = some d) := by
    rintro ⟨rfl, hd⟩
    obtain ⟨r, rfl⟩ := List.head?_eq_some_iff.1 hd
    exact h (by simp)
  simp only [IsQuote] at hq
  simp [first, slash h₁, slash h₂, ht, hq]

/-- The first token stands before the rest of the text by the rules. -/
theorem first_before (c : Char) (rest : List Char) : (first c rest).1.Before (first c rest).2 := by
  by_cases h₁ : ['/', '/'] <+: c :: rest
  · obtain ⟨r, hr⟩ := h₁
    simp only [List.cons_append, List.nil_append, List.cons.injEq] at hr
    obtain ⟨rfl, rfl⟩ := hr
    rw [first_lineComment]
    refine .lineComment (nowhere_singleton.1 (nowhere_breakBefore ['\n'] r)) ?_
    refine (breakBefore_snd ['\n'] r).imp_right ?_
    rintro ⟨s, hs⟩
    rw [← hs]; rfl
  by_cases h₂ : ['/', '*'] <+: c :: rest
  · obtain ⟨r, hr⟩ := h₂
    simp only [List.cons_append, List.nil_append, List.cons.injEq] at hr
    obtain ⟨rfl, rfl⟩ := hr
    rw [first_blockComment]
    have hn := nowhere_breakBefore ['*', '/'] r
    have hb := breakBefore_snd ['*', '/'] r
    generalize breakBefore ['*', '/'] r = p at hn hb
    obtain ⟨front, back⟩ := p
    rcases hb with rfl | ⟨s, rfl⟩
    · simpa using Before.openBlockComment hn
    · exact .blockComment hn
  by_cases h₃ : tripleQuote <+: c :: rest
  · obtain ⟨r, hr⟩ := h₃
    simp only [tripleQuote, List.cons_append, List.nil_append, List.cons.injEq] at hr
    obtain ⟨rfl, rfl⟩ := hr
    rw [first_textBlock]
    have hn := nowhere_breakBefore tripleQuote r
    have hb := breakBefore_snd tripleQuote r
    generalize breakBefore tripleQuote r = p at hn hb
    obtain ⟨front, back⟩ := p
    rcases hb with rfl | ⟨s, rfl⟩
    · exact .openTextBlock hn
    · exact .textBlock hn
  by_cases h₄ : IsQuote c
  · rw [first_literal h₄ h₃]
    rw [← breakLiteral_append c rest] at h₃
    have hl := breakLiteral_cases c rest
    generalize breakLiteral c rest = p at h₃ hl
    obtain ⟨inner, back⟩ := p
    obtain ⟨hi, d, s, rfl, hd⟩ | ⟨i, l, rfl, hi, hl, rfl⟩ := hl
    · exact .literal h₄ hi hd h₃
    · exact .openLiteral h₄ hi hl (by simpa using h₃)
  · rw [first_other h₁ h₂ h₄]
    exact .other h₁ h₂ h₄

/-- No other token can come first. -/
theorem Before.first_eq {t : Token} {s rest : List Char} {c : Char} (h : t.Before s)
    (e : t.text ++ s = c :: rest) : first c rest = (t, s) := by
  cases h with
  | @lineComment body _ hb hs =>
    simp only [text, List.cons_append, List.cons.injEq] at e
    obtain ⟨rfl, rfl⟩ := e
    have hs' : s = [] ∨ ['\n'] <+: s := hs.imp_right fun h => by
      obtain ⟨r, rfl⟩ := List.head?_eq_some_iff.1 h
      exact ⟨r, rfl⟩
    rw [first_lineComment, breakBefore_eq (nowhere_singleton.2 hb) hs']
  | @blockComment inner _ hi =>
    simp only [text, List.cons_append, List.append_assoc, List.nil_append, List.cons.injEq] at e
    obtain ⟨rfl, rfl⟩ := e
    rw [first_blockComment, breakBefore_eq hi (.inr ⟨s, rfl⟩)]
    rfl
  | @openBlockComment inner hi =>
    simp only [text, List.append_nil, List.cons.injEq] at e
    obtain ⟨rfl, rfl⟩ := e
    have hb := breakBefore_eq hi (.inl rfl)
    rw [List.append_nil] at hb
    simp [first_blockComment, hb]
  | @textBlock inner _ hi =>
    simp only [text, tripleQuote, List.cons_append, List.append_assoc, List.nil_append,
      List.cons.injEq] at e
    obtain ⟨rfl, rfl⟩ := e
    have hb := breakBefore_eq hi (.inr ⟨s, rfl⟩)
    rw [tripleQuote, List.cons_append, List.cons_append, List.cons_append, List.nil_append] at hb
    rw [first_textBlock, tripleQuote, hb]
    rfl
  | @openTextBlock inner hi =>
    simp only [text, tripleQuote, List.cons_append, List.append_nil, List.nil_append,
      List.cons.injEq] at e
    obtain ⟨rfl, rfl⟩ := e
    have hb := breakBefore_eq hi (.inl rfl)
    rw [List.append_nil] at hb
    simp [first_textBlock, hb]
  | @literal q closer inner _ hq hi hc ht =>
    simp only [text, List.cons_append, List.append_assoc, List.nil_append, List.cons.injEq] at e
    obtain ⟨rfl, rfl⟩ := e
    rw [first_literal hq ht, breakLiteral_content hi, breakLiteral_closer hq.ne_backslash hc]
    simp
  | @openLiteral q inner last hq hi hl ht =>
    simp only [text, List.append_nil, List.cons.injEq] at e
    obtain ⟨rfl, rfl⟩ := e
    have hb : breakLiteral q last = (last, []) := by
      rcases hl with rfl | rfl <;> simp [breakLiteral, hq.ne_backslash.symm]
    rw [first_literal hq ht, breakLiteral_content hi, hb]
    simp
  | @other d _ h₁ h₂ hq =>
    obtain ⟨rfl, rfl⟩ := List.cons.inj e
    exact first_other h₁ h₂ hq

theorem Before.text_ne_nil {t : Token} {s : List Char} (h : t.Before s) : t.text ≠ [] := by
  cases h <;> simp [text, tripleQuote]

end Token

/-! ## The split -/

/-- A split is right exactly if it is the computed one. -/
theorem isSplit_iff {s : List Char} {ts : List Token} : IsSplit s ts ↔ ts = Token.split s := by
  constructor
  · intro h
    induction h with
    | nil => rw [Token.split]
    | @cons t ts rest ht _ ih =>
      obtain ⟨c, r, e⟩ := List.exists_cons_of_ne_nil fun h : t.text ++ rest = [] =>
        ht.text_ne_nil (List.append_eq_nil_iff.1 h).1
      rw [e, Token.split, ht.first_eq e, ih]
  · rintro rfl
    fun_induction Token.split s with
    | case1 => exact .nil
    | case2 c rest next ih =>
      have h := IsSplit.cons (Token.first_before c rest) ih
      rwa [Token.first_append] at h

end ModuleAudit.Java
