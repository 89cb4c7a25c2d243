import Mathlib.Data.List.Infix
import ModuleAudit.Proofs.Java.Splice

/-!
# Literals in the copies of a text

Blanking comments out leaves every literal where it is and makes no new one, so that the copies of a
copy are those of the text (`copies_of_code`).

In a text block that is written by the rules of Java, a backslash takes the next character with it
(`BlockContent`). The tokens do not heed that: a text block ends before the first three quotes, also
if the first one of them stands behind a backslash. So its content is blanked out as a whole exactly
if no such quote stands before two more (`bareOf_textBlock_iff`).

* `copied_literal`: a string literal on one line is copied by itself, as long as no quote follows
  it.
-/

namespace ModuleAudit.Java

/-! ## Literals and their places -/

namespace Token

/-- Whether the token is a literal. -/
def isLiteral : Token → Bool
  | textBlock .. => true
  | literal .. => true
  | _ => false

/-- The tokens with their offsets. The first one stands at `offset`. -/
def placed (offset : Nat) : List Token → List (Nat × Token)
  | [] => []
  | t :: ts => (offset, t) :: placed (offset + t.text.length) ts

theorem placed_append (ts us : List Token) (offset : Nat) :
    placed offset (ts ++ us) =
      placed offset ts ++ placed (offset + (ts.flatMap text).length) us := by
  induction ts generalizing offset with
  | nil => rfl
  | cons t ts ih => simp [placed, ih, Nat.add_assoc]

theorem length_text_blanked (t : Token) : (t.blanked.flatMap text).length = t.text.length := by
  by_cases comment : t.IsComment
  · rw [comment.eq_blank.2, flatMap_map_other fun _ => rfl, length_blank]
  · simp [blanked_eq comment]

theorem IsComment.isLiteral {t : Token} (h : t.IsComment) : t.isLiteral = false := by
  cases t <;> first | rfl | exact h.elim

/-- The blanks in the place of a comment are no literals. -/
theorem filter_placed_other (s : List Char) (offset : Nat) :
    (placed offset (s.map other)).filter (·.2.isLiteral) = [] := by
  induction s generalizing offset with
  | nil => rfl
  | cons c s ih => exact ih _

theorem filter_placed_blanked (ts : List Token) (offset : Nat) :
    (placed offset (ts.flatMap blanked)).filter (·.2.isLiteral) =
      (placed offset ts).filter (·.2.isLiteral) := by
  induction ts generalizing offset with
  | nil => rfl
  | cons t ts ih =>
    rw [List.flatMap_cons, placed_append, List.filter_append, length_text_blanked, ih, placed]
    by_cases comment : t.IsComment
    · rw [comment.eq_blank.2, filter_placed_other, List.nil_append,
        List.filter_cons_of_neg (by simp [comment.isLiteral])]
    · rw [blanked_eq comment, placed, placed, List.filter_cons, List.filter_cons]
      split <;> rfl

theorem not_isComment_of_mem_blanked {t u : Token} (h : u ∈ t.blanked) : ¬ u.IsComment := by
  by_cases comment : t.IsComment
  · rw [comment.eq_blank.2] at h
    obtain ⟨c, -, rfl⟩ := List.mem_map.1 h
    exact id
  · rw [blanked_eq comment, List.mem_singleton] at h
    exact h ▸ comment

end Token

/-- The literals of a text, each with the offset at which it starts. -/
def literalsOf (s : List Char) : List (Nat × Token) :=
  (Token.placed 0 (Token.split s)).filter (·.2.isLiteral)

theorem split_codeOf (s : List Char) :
    Token.split (codeOf s) = (Token.split s).flatMap Token.blanked :=
  split_flatMap_code (split_eq_append s)

/-- Copying a text without its comments again gives the copies of the text. Its tokens are those of
the text, each comment in the form of its blanks: so it has no comments, and the literals of the
text where they were. The contents of literals are blanked out alike in any two texts that do not
differ but in comments. -/
theorem copies_of_code (s : List Char) :
    (codeOf (codeOf s) = codeOf s ∧ bareOf (codeOf s) = bareOf s) ∧
    Token.split (codeOf s) = (Token.split s).flatMap Token.blanked ∧
    (∀ t ∈ Token.split (codeOf s), ¬ t.IsComment) ∧ literalsOf (codeOf s) = literalsOf s ∧
    ∀ s', codeOf s' = codeOf s → bareOf s' = bareOf s := by
  refine ⟨⟨codeOf_codeOf s, bareOf_codeOf s⟩, split_codeOf s, fun t ht => ?_, ?_, fun s' same => ?_⟩
  · rw [split_codeOf] at ht
    obtain ⟨u, -, ht⟩ := List.mem_flatMap.1 ht
    exact Token.not_isComment_of_mem_blanked ht
  · rw [literalsOf, split_codeOf, Token.filter_placed_blanked]
    rfl
  · rw [← bareOf_codeOf s', same, bareOf_codeOf]

/-! ## Text blocks -/

/-- A character as it is written in a text block, by itself or behind a backslash. -/
inductive Stroke
  | plain (c : Char) (unescaped : c ≠ '\\')
  | escaped (c : Char)
  deriving DecidableEq

namespace Stroke

def text : Stroke → List Char
  | plain c _ => [c]
  | escaped c => ['\\', c]

/-- A quote by itself. -/
def quote : Stroke := plain '"' (by decide)

theorem cons_eq_text_append {t : Stroke} {s rest : List Char} (h : '"' :: s = t.text ++ rest) :
    t = quote ∧ s = rest := by
  cases t with
  | plain c =>
    obtain ⟨rfl, rfl⟩ := List.cons.inj h
    exact ⟨rfl, rfl⟩
  | escaped c => exact absurd (List.cons.inj h).1 (by decide)

/-- A quote behind a backslash stands before two more quotes. At the end two quotes follow, those of
the delimiter. -/
def HideDelimiter (us : List Stroke) : Prop :=
  ∃ back, .escaped '"' :: back <:+ us ∧ (back = [] ∨ [quote, quote] <+: back)

instance (us : List Stroke) : Decidable (HideDelimiter us) :=
  decidable_of_iff (∃ t ∈ us.tails, t.head? = some (.escaped '"') ∧
      (t.tail = [] ∨ [quote, quote] <+: t.tail)) <| by
    constructor
    · rintro ⟨t, mem, head, two⟩
      obtain ⟨back, rfl⟩ := List.head?_eq_some_iff.1 head
      exact ⟨back, (List.mem_tails _ _).1 mem, two⟩
    · rintro ⟨back, suffix, two⟩
      exact ⟨_, (List.mem_tails _ _).2 suffix, rfl, two⟩

theorem hideDelimiter_plain_cons {c : Char} (h : c ≠ '\\') (us : List Stroke) :
    HideDelimiter (plain c h :: us) ↔ HideDelimiter us := by
  simp [HideDelimiter, List.suffix_cons_iff]

theorem hideDelimiter_escaped_cons (c : Char) (us : List Stroke) :
    HideDelimiter (escaped c :: us) ↔
      (c = '"' ∧ (us = [] ∨ [quote, quote] <+: us)) ∨ HideDelimiter us := by
  simp only [HideDelimiter, List.suffix_cons_iff, or_and_right, exists_or, List.cons.injEq,
    escaped.injEq]
  refine or_congr_left ⟨?_, ?_⟩
  · rintro ⟨_, ⟨rfl, rfl⟩, two⟩
    exact ⟨rfl, two⟩
  · rintro ⟨rfl, two⟩
    exact ⟨us, ⟨rfl, rfl⟩, two⟩

variable {us : List Stroke}

/-- Strokes that do not end with a quote start with two quotes if their text does, and there are two
behind no strokes at all. -/
theorem two_quotes_prefix_iff (last : us.getLast? ≠ some quote) (rest : List Char) :
    ['"', '"'] <+: us.flatMap text ++ (tripleQuote ++ rest) ↔ us = [] ∨ [quote, quote] <+: us := by
  constructor
  · rintro ⟨s, split⟩
    cases us with
    | nil => exact .inl rfl
    | cons t us =>
      rw [List.flatMap_cons, List.append_assoc] at split
      obtain ⟨rfl, behind⟩ := cons_eq_text_append split
      cases us with
      | nil => exact absurd rfl last
      | cons u us =>
        rw [List.flatMap_cons, List.append_assoc] at behind
        obtain ⟨rfl, -⟩ := cons_eq_text_append behind
        exact .inr ⟨us, rfl⟩
  · rintro (rfl | ⟨us, rfl⟩)
    · exact ⟨_, rfl⟩
    · exact ⟨_, rfl⟩

/-- Three quotes begin in the text of strokes only if the first one of them is behind a backslash.
-/
theorem nowhere_tripleQuote_iff (apart : ¬ [quote, quote, quote] <:+: us)
    (last : us.getLast? ≠ some quote) (rest : List Char) :
    Nowhere tripleQuote (us.flatMap text) (tripleQuote ++ rest) ↔ ¬ HideDelimiter us := by
  induction us with
  | nil =>
    have none : ¬ HideDelimiter [] := by decide
    exact iff_of_true (nowhere_nil _ _) none
  | cons t us ih =>
    have last' : us.getLast? ≠ some quote := by
      cases us with
      | nil => simp
      | cons => simpa using last
    have ahead := ih (fun h => apart (List.infix_cons h)) last'
    have start (c : Char) : tripleQuote <+: c :: (us.flatMap text ++ (tripleQuote ++ rest)) ↔
        c = '"' ∧ (us = [] ∨ [quote, quote] <+: us) := by
      rw [tripleQuote, List.cons_prefix_cons, eq_comm, ← two_quotes_prefix_iff last' rest]
      rfl
    cases t with
    | plain c unescaped =>
      have apart' : ¬ (c = '"' ∧ (us = [] ∨ [quote, quote] <+: us)) := by
        rintro ⟨rfl, rfl | two⟩
        · exact last rfl
        · exact apart (List.prefix_cons_inj _ |>.2 two).isInfix
      rw [List.flatMap_cons, text, List.singleton_append, nowhere_cons, List.cons_append, start, ahead,
        hideDelimiter_plain_cons]
      exact and_iff_right apart'
    | escaped c =>
      have backslash : ¬ tripleQuote <+: '\\' :: c :: (us.flatMap text ++ (tripleQuote ++ rest)) :=
        fun h => absurd (List.cons_prefix_cons.1 h).1 (by decide)
      rw [List.flatMap_cons, text, List.cons_append, List.singleton_append, nowhere_cons, nowhere_cons,
        List.cons_append, List.cons_append, start, ahead, hideDelimiter_escaped_cons, not_or]
      exact and_iff_right backslash

end Stroke

/-- What may stand in a text block: no three quotes in a row and none at the end, but for those
behind a backslash. -/
structure BlockContent where
  strokes : List Stroke
  apart : ¬ [.quote, .quote, .quote] <:+: strokes
  last : strokes.getLast? ≠ some .quote

/-- The content as it is written. -/
def BlockContent.text (b : BlockContent) : List Char := b.strokes.flatMap Stroke.text

/-- What stands between three quotes and the next three is blanked out. -/
theorem bareOf_tripleQuote (s : List Char) :
    bareOf (tripleQuote ++ s) =
      tripleQuote ++ blank (breakBefore tripleQuote s).1 ++ ((breakBefore tripleQuote s).2.take 3 ++
        bareOf ((breakBefore tripleQuote s).2.drop 3)) := by
  rw [bareOf, tripleQuote, List.cons_append, List.cons_append, List.cons_append, List.nil_append,
    Token.split, Token.first_textBlock, List.flatMap_cons, Token.bare, List.append_assoc]
  rfl

theorem nowhere_append_left {w inner inner' after : List Char} (h : Nowhere w (inner ++ inner') after) :
    Nowhere w inner (inner' ++ after) := by
  intro k hk
  rw [← List.append_assoc]
  exact h k (by rw [List.length_append]; omega)

theorem blank_append (s s' : List Char) : blank (s ++ s') = blank s ++ blank s' := List.map_append

/-- A text block is blanked out as a whole exactly if no three quotes begin in its content. -/
theorem bareOf_textBlock_iff_nowhere {c rest : List Char} :
    bareOf (tripleQuote ++ c ++ tripleQuote ++ rest) =
        tripleQuote ++ blank c ++ tripleQuote ++ bareOf rest ↔
      Nowhere tripleQuote c (tripleQuote ++ rest) := by
  simp only [List.append_assoc]
  constructor
  · intro same
    rw [bareOf_tripleQuote, List.append_assoc, List.append_cancel_left_eq] at same
    have first := nowhere_breakBefore tripleQuote (c ++ (tripleQuote ++ rest))
    have stop := breakBefore_snd tripleQuote (c ++ (tripleQuote ++ rest))
    have whole := breakBefore_append tripleQuote (c ++ (tripleQuote ++ rest))
    generalize (breakBefore tripleQuote (c ++ (tripleQuote ++ rest))).1 = front at same first whole
    generalize (breakBefore tripleQuote (c ++ (tripleQuote ++ rest))).2 = back at same first whole stop
    rcases List.append_eq_append_iff.1 whole with ⟨late, rfl, rfl⟩ | ⟨late, rfl, after⟩
    · cases late with
      | nil => simpa using first
      | cons d late =>
        -- The block ends before `d`, where the copy shows a quote and not a blank.
        obtain ⟨after, quotes⟩ := stop.resolve_left (List.cons_ne_nil _ _)
        rw [← quotes, blank_append, List.append_assoc, List.append_cancel_left_eq] at same
        have shown : '"' = if d == '\n' then d else ' ' := (List.cons.inj same).1
        split at shown
        · rename_i newline
          exact absurd (shown.trans (eq_of_beq newline)) (by decide)
        · exact absurd shown (by decide)
    · rw [after]
      exact nowhere_append_left first
  · intro first
    rw [bareOf_tripleQuote, breakBefore_eq first (.inr (List.prefix_append ..))]
    simp [tripleQuote]

/-- A text block with content that is written by the rules is blanked out as a whole, and what
follows it is copied as it would be by itself, exactly if no quote behind a backslash stands before
two more quotes. -/
theorem bareOf_textBlock_iff (b : BlockContent) (rest : List Char) :
    bareOf (tripleQuote ++ b.text ++ tripleQuote ++ rest) =
        tripleQuote ++ blank b.text ++ tripleQuote ++ bareOf rest ↔
      ¬ Stroke.HideDelimiter b.strokes := by
  rw [bareOf_textBlock_iff_nowhere, BlockContent.text, Stroke.nowhere_tripleQuote_iff b.apart b.last]

/-- Quotes with and without a backslash over two lines, and a call behind the block. -/
theorem bareOf_textBlock_iff_lines :
    let strokes : List Stroke := [.escaped '"', .plain 'a' (by decide), .plain '\n' (by decide), .quote,
      .quote, .escaped '\\', .escaped '"', .plain ' ' (by decide)]
    ¬ Stroke.HideDelimiter strokes ∧
      bareOf "\"\"\"\\\"a\n\"\"\\\\\\\" \"\"\"; f();".toList =
        "\"\"\"   \n       \"\"\"; f();".toList := by
  intro strokes
  let b : BlockContent := ⟨strokes, by decide, by decide⟩
  have visible : ¬ Stroke.HideDelimiter b.strokes := by decide
  have masked := (bareOf_textBlock_iff b "; f();".toList).2 visible
  have code : bareOf "; f();".toList = "; f();".toList := by decide +kernel
  rw [code] at masked
  exact ⟨visible, masked⟩

/-- A quote behind a backslash, and two more: the block ends there, and its last three quotes open
another one, in which the call behind them is blanked out. -/
theorem escaped_quote_ends_textBlock :
    ∃ b : BlockContent, ∃ rest : List Char, b.text = "a\\\"\"\"b".toList ∧ rest = "; f();".toList ∧
      bareOf (tripleQuote ++ b.text ++ tripleQuote ++ rest) =
        "\"\"\"  \"\"\"b\"\"\"      ".toList ∧
      tripleQuote ++ blank b.text ++ tripleQuote ++ bareOf rest =
        "\"\"\"      \"\"\"; f();".toList := by
  let strokes : List Stroke :=
    [.plain 'a' (by decide), .escaped '"', .quote, .quote, .plain 'b' (by decide)]
  exact ⟨⟨strokes, by decide, by decide⟩, _, rfl, rfl, by decide +kernel, by decide +kernel⟩

/-! ## Literals on one line -/

theorem content_iff_breakLiteral {w : List Char} :
    Content '"' w ↔ breakLiteral '"' (w ++ ['"']) = (w, ['"']) := by
  constructor
  · intro closed
    rw [breakLiteral_content closed, breakLiteral_closer (by decide) (.inl rfl), List.append_nil]
  · intro cut
    rcases breakLiteral_cases '"' (w ++ ['"']) with ⟨closed, -⟩ | ⟨_, _, -, -, -, open_⟩
    · rwa [cut] at closed
    · rw [cut] at open_
      cases open_

instance (w : List Char) : Decidable (Content '"' w) := decidable_of_iff _ content_iff_breakLiteral.symm

/-- What may stand between the quotes of a string literal on one line: a backslash with the
character behind it, or any other character but a quote. -/
structure Literal where
  content : List Char
  closed : Content '"' content
  line : '\n' ∉ content

namespace Literal

variable (l : Literal)

/-- The literal with its quotes. -/
def text : List Char := '"' :: l.content ++ ['"']

/-- The literal as the bare copy shows it. -/
def bare : List Char := '"' :: blank l.content ++ ['"']

/-- A string literal is copied by itself, with characters behind it that open neither a comment nor
a literal. -/
theorem copied {s : List Char} (nonempty : s ≠ []) (inert : ∀ c ∈ s, IsInert c) :
    Copied (l.text ++ s) (l.text ++ s) (l.bare ++ s) := by
  have split (rest : List Char) : Token.split (l.text ++ s ++ rest) =
      (.literal '"' l.content ['"'] :: s.map .other) ++ Token.split rest := by
    have before : (Token.literal '"' l.content ['"']).Before (s ++ rest) := by
      refine .literal (.inl rfl) l.closed (.inl rfl) fun three => ?_
      obtain ⟨-, -, -, next⟩ := (tripleQuote_prefix_iff l.closed).1 three
      obtain ⟨c, s, rfl⟩ := List.exists_cons_of_ne_nil nonempty
      exact (inert c List.mem_cons_self).2 (.inl (Option.some.inj next))
    have whole := IsSplit.cons before (isSplit_iff.2 (split_of_isInert inert rest).symm)
    rw [List.cons_append, isSplit_iff.1 whole, text, List.append_assoc]
    rfl
  have copied := Copied.of_split split
  rw [List.flatMap_cons, List.flatMap_cons, Token.flatMap_map_other (f := Token.code) fun _ => rfl,
    Token.flatMap_map_other (f := Token.bare) fun _ => rfl] at copied
  exact copied

end Literal

/-- A literal at the beginning of a text ends in one way only. -/
theorem Literal.text_append_inj {l l' : Literal} {x x' : List Char} (h : l.text ++ x = l'.text ++ x') :
    l.text = l'.text ∧ x = x' := by
  have cut (l : Literal) (x : List Char) :
      breakLiteral '"' (l.content ++ '"' :: x) = (l.content, '"' :: x) := by
    have quote : breakLiteral '"' ('"' :: x) = ([], '"' :: x) := by simp [breakLiteral]
    rw [breakLiteral_content l.closed, quote, List.append_nil]
  have same : l.content ++ '"' :: x = l'.content ++ '"' :: x' := by simpa [text] using h
  have both := congrArg (breakLiteral '"') same
  rw [cut, cut] at both
  obtain ⟨content, rest⟩ := Prod.mk.inj both
  exact ⟨by rw [text, text, content], (List.cons.inj rest).2⟩

end ModuleAudit.Java
