import ModuleAudit.Proofs.Java.Body

/-!
# Texts put together

A token looks no further behind itself than at the next character (`Token.Before.of_head`), so the
tokens of a text stay when what follows them is exchanged (`IsSplit.splice`). Two kinds of text are
therefore copied in the same way wherever they stand (`Copied`): characters that open neither a
comment nor a literal, and a text that leaves neither open, up to the brace after it (`IsClosed`).
-/

namespace ModuleAudit.Java

variable {s : List Char}

/-! ## Tokens before another text -/

theorem Token.Before.of_head {t : Token} {rest rest' : List Char} (h : t.Before rest)
    (nil : rest = [] → rest' = []) (head : rest' = [] ∨ rest'.head? = rest.head?) :
    t.Before rest' := by
  by_cases comment : t.IsComment
  · cases h with
    | lineComment body stop =>
      refine .lineComment body ?_
      rcases stop with rfl | stop
      · exact .inl (nil rfl)
      · exact head.imp_right fun same => same.trans stop
    | blockComment inner => exact .blockComment (nowhere_append_right (w := ['*', '/']) _ _ inner)
    | openBlockComment inner =>
      obtain rfl := nil rfl
      exact .openBlockComment inner
    | _ => exact comment.elim
  · exact h.loosen ⟨nil, head.imp_right .inr⟩ comment

/-- What follows some tokens may break off or go on differently after its first character. -/
theorem IsSplit.splice {ts us vs : List Token} {v : List Char} (h : IsSplit s (ts ++ us))
    (hv : IsSplit v vs) (nil : us.flatMap Token.text = [] → v = [])
    (head : v = [] ∨ v.head? = (us.flatMap Token.text).head?) :
    IsSplit (ts.flatMap Token.text ++ v) (ts ++ vs) := by
  induction ts generalizing s with
  | nil => exact hv
  | cons t ts ih =>
    rw [List.cons_append] at h
    cases h with
    | @cons _ _ rest ht h =>
      rw [List.flatMap_cons, List.append_assoc]
      refine IsSplit.cons (ht.of_head ?_ ?_) (ih h)
      all_goals rw [← h.flatMap_text, List.flatMap_append]
      · intro none
        obtain ⟨front, back⟩ := List.append_eq_nil_iff.1 none
        rw [front, nil back]
        rfl
      · cases ts.flatMap Token.text with
        | nil => exact head
        | cons => exact .inr rfl

/-! ## Texts that are copied in the same way wherever they stand -/

/-- In front of any text, the text has these two copies. -/
structure Copied (s code bare : List Char) : Prop where
  code : ∀ rest, codeOf (s ++ rest) = code ++ codeOf rest
  bare : ∀ rest, bareOf (s ++ rest) = bare ++ bareOf rest

namespace Copied

variable {t code code' bare bare' : List Char}

theorem of_split {ts : List Token} (h : ∀ rest, Token.split (s ++ rest) = ts ++ Token.split rest) :
    Copied s (ts.flatMap Token.code) (ts.flatMap Token.bare) where
  code rest := by rw [codeOf, h, List.flatMap_append]; rfl
  bare rest := by rw [bareOf, h, List.flatMap_append]; rfl

theorem append (h : Copied s code bare) (h' : Copied t code' bare') :
    Copied (s ++ t) (code ++ code') (bare ++ bare') where
  code rest := by rw [List.append_assoc, h.code, h'.code, List.append_assoc]
  bare rest := by rw [List.append_assoc, h.bare, h'.bare, List.append_assoc]

theorem codeOf_eq (h : Copied s code bare) : codeOf s = code := by
  simpa [codeOf, Token.split] using h.code []

theorem bareOf_eq (h : Copied s code bare) : bareOf s = bare := by
  simpa [bareOf, Token.split] using h.bare []

theorem length_code (h : Copied s code bare) : code.length = s.length := by
  rw [← h.codeOf_eq, length_codeOf]

theorem length_bare (h : Copied s code bare) : bare.length = s.length := by
  rw [← h.bareOf_eq, length_bareOf]

end Copied

/-- In front of any text, the text is copied as it is by itself. -/
def IsWhole (s : List Char) : Prop := Copied s (codeOf s) (bareOf s)

theorem Copied.isWhole {code bare : List Char} (h : Copied s code bare) : IsWhole s := by
  rwa [IsWhole, h.codeOf_eq, h.bareOf_eq]

/-- A character that opens neither a comment nor a literal. -/
def IsInert (c : Char) : Prop := c ≠ '/' ∧ ¬ IsQuote c

instance (c : Char) : Decidable (IsInert c) := inferInstanceAs (Decidable (_ ≠ _ ∧ ¬ (_ ∨ _)))

theorem Token.before_of_isInert {c : Char} (h : IsInert c) (rest : List Char) :
    (Token.other c).Before rest := by
  refine .other ?_ ?_ h.2
  all_goals
    rw [pair_prefix_iff]
    exact fun slash => h.1 slash.1.symm

theorem split_of_isInert (h : ∀ c ∈ s, IsInert c) (rest : List Char) :
    Token.split (s ++ rest) = s.map .other ++ Token.split rest := by
  refine (isSplit_iff.1 ?_).symm
  induction s with
  | nil => exact isSplit_iff.2 rfl
  | cons c s ih =>
    obtain ⟨hc, h⟩ := List.forall_mem_cons.1 h
    exact IsSplit.cons (Token.before_of_isInert hc _) (ih h)

theorem copied_of_isInert (h : ∀ c ∈ s, IsInert c) : Copied s s s := by
  simpa only [Token.flatMap_map_other (f := Token.code) (fun _ => rfl),
    Token.flatMap_map_other (f := Token.bare) (fun _ => rfl)] using Copied.of_split (split_of_isInert h)

/-- A brace after the text stands outside comments and literals. -/
def IsClosed (s : List Char) : Prop := (bareOf (s ++ ['\x7d'])).getLast? = some '\x7d'

instance (s : List Char) : Decidable (IsClosed s) := inferInstanceAs (Decidable (_ = _))

theorem split_of_isClosed (h : IsClosed s) (rest : List Char) :
    Token.split (s ++ '\x7d' :: rest) = Token.split s ++ .other '\x7d' :: Token.split rest := by
  obtain ⟨x, e⟩ := List.getLast?_eq_some_iff.1 h
  have split := isSplit_iff.2 (Eq.refl (Token.split (s ++ ['\x7d'])))
  obtain ⟨us, vs, tokens, -, none⟩ := split_of_bare split isPlain_brace.2 e
  rw [tokens] at split
  obtain rfl : vs = [] := eq_nil_of_bare
    (fun t ht => split.exists_before (List.mem_append_right _ (List.mem_cons_of_mem _ ht))) none
  have text : us.flatMap Token.text = s := by
    have := split.flatMap_text
    rw [List.flatMap_append] at this
    exact List.append_cancel_right this
  have brace : IsSplit ('\x7d' :: rest) (.other '\x7d' :: Token.split rest) :=
    IsSplit.cons (Token.before_of_isInert ⟨by decide, isPlain_brace.2.2.2⟩ rest) (isSplit_iff.2 rfl)
  have alone := split.splice .nil (fun _ => rfl) (.inl rfl)
  have ahead := split.splice brace (by simp [Token.text]) (.inr rfl)
  rw [text, List.append_nil, List.append_nil, isSplit_iff] at alone
  rw [text, isSplit_iff] at ahead
  rw [← ahead, alone]

theorem IsClosed.copied (h : IsClosed s) :
    Copied (s ++ ['\x7d']) (codeOf s ++ ['\x7d']) (bareOf s ++ ['\x7d']) := by
  have split (rest : List Char) : Token.split (s ++ ['\x7d'] ++ rest) =
      Token.split s ++ [.other '\x7d'] ++ Token.split rest := by
    rw [List.append_assoc, List.append_assoc]
    exact split_of_isClosed h rest
  have copied := Copied.of_split split
  rw [List.flatMap_append, List.flatMap_append] at copied
  exact copied

end ModuleAudit.Java
