import ModuleAudit.Text.Alphanumeric
import ModuleAudit.Text.Blank

/-!
# Patterns

A `Pattern` describes a stretch of text and where it may stand. Its matches at a place are tried in
a fixed order: of two alternatives the first one, of a repetition the longest stretch (or the
shortest, for `fewest`). `Pattern.run` hands the places where a match ends to a continuation in that
order, until the continuation accepts one.
-/

namespace ModuleAudit

/-- A place in a text: the characters before it (nearest first), the characters after it, how many
stand before it, and the stretches captured on the way to it. -/
structure Place where
  before : List Char
  after : List Char
  offset : Nat
  captures : List (Nat × List Char) := []
  deriving Repr

namespace Place

/-- The start of a text. -/
def start (s : List Char) : Place := ⟨[], s, 0, []⟩

/-- The place `n` characters further on, or the end of the text. -/
def advance : Nat → Place → Place
  | 0, s => s
  | n + 1, s =>
    match s.after with
    | [] => s
    | c :: rest => advance n ⟨c :: s.before, rest, s.offset + 1, s.captures⟩

/-- The places from `s` on that are reached over characters of a class, the farthest first; `seen`
holds those already passed. -/
def reachFrom (p : Char → Bool) (seen : List Place) (s : Place) : List Place :=
  match h : s.after with
  | [] => s :: seen
  | c :: rest =>
    if p c then reachFrom p (s :: seen) ⟨c :: s.before, rest, s.offset + 1, s.captures⟩
    else s :: seen
termination_by s.after.length
decreasing_by simp [h]

/-- The places reached over characters of a class, the farthest first. -/
def reach (p : Char → Bool) (s : Place) : List Place := reachFrom p [] s

/-- The stretch captured under a number; empty if there is none. -/
def capture (s : Place) (k : Nat) : List Char := (s.captures.lookup k).getD []

end Place

/-- A description of a stretch of text. -/
inductive Pattern
  /-- Nothing. -/
  | nothing
  /-- One character of a class. -/
  | char (p : Char → Bool)
  /-- These characters. -/
  | text (w : List Char)
  /-- As many characters of a class as possible. -/
  | most (p : Char → Bool)
  /-- As few characters of a class as possible. -/
  | fewest (p : Char → Bool)
  /-- One stretch after the other. -/
  | seq (a b : Pattern)
  /-- The first stretch or, failing that, the second. -/
  | either (a b : Pattern)
  /-- Stretches of one kind in a row, none of them empty, as many as possible. -/
  | star (a : Pattern)
  /-- The stretch, kept under a number. -/
  | capture (k : Nat) (a : Pattern)
  /-- Nothing, between characters for which a condition holds. -/
  | between (holds : List Char → List Char → Bool)

namespace Pattern

/-- Repeats a step that has to move on, as often as possible and at most once for each character of
`left`. -/
def repeatStep {α : Type} (step : Place → (Place → Option α) → Option α) :
    (left : List Char) → Place → (Place → Option α) → Option α
  | [], s, k => k s
  | _ :: left, s, k =>
    (step s fun t => if s.offset < t.offset then repeatStep step left t k else none) <|> k s

/-- The first answer of `k` at the places where a match that starts at `s` ends. -/
def run {α : Type} : Pattern → Place → (Place → Option α) → Option α
  | nothing, s, k => k s
  | char p, s, k =>
    match s.after with
    | [] => none
    | c :: rest => if p c then k ⟨c :: s.before, rest, s.offset + 1, s.captures⟩ else none
  | text w, s, k => if w.isPrefixOf s.after then k (s.advance w.length) else none
  | most p, s, k => (s.reach p).findSome? k
  | fewest p, s, k => (s.reach p).reverse.findSome? k
  | seq a b, s, k => a.run s fun t => b.run t k
  | either a b, s, k => a.run s k <|> b.run s k
  | star a, s, k => repeatStep (fun t l => a.run t l) s.after s k
  | capture n a, s, k =>
    a.run s fun t => k { t with captures := (n, s.after.take (t.offset - s.offset)) :: t.captures }
  | between holds, s, k => if holds s.before s.after then k s else none

/-! ## Combinations -/

/-- Stretches one after the other. -/
def sequence (ps : List Pattern) : Pattern := ps.foldr seq nothing

/-- The first of several stretches that fits. -/
def oneOf : List Pattern → Pattern
  | [] => between fun _ _ => false
  | [p] => p
  | p :: ps => either p (oneOf ps)

/-- The characters of a word. -/
def word (w : String) : Pattern := text w.toList

/-- One character or more of a class, as many as possible. -/
def many (p : Char → Bool) : Pattern := seq (char p) (most p)

/-- The stretch, or nothing. -/
def optional (a : Pattern) : Pattern := either a nothing

/-- As many blanks as possible. -/
def gap : Pattern := most Text.isBlank

/-- One blank or more. -/
def blanks : Pattern := many Text.isBlank

/-- One character. -/
def exactly (c : Char) : Pattern := char (· == c)

/-! ## Conditions on the place -/

/-- Whether the first of some characters is of a class. -/
def headIs (p : Char → Bool) (s : List Char) : Bool := s.head?.any p

/-- Where a word starts or ends. -/
def edge : Pattern :=
  between fun before after => headIs Text.isWord before != headIs Text.isWord after

/-- Not right after a character of a class. -/
def notAfter (p : Char → Bool) : Pattern := between fun before _ => !headIs p before

/-- Not right before a character of a class. -/
def notBefore (p : Char → Bool) : Pattern := between fun _ after => !headIs p after

/-- The start of the text or of a line. -/
def lineStart : Pattern := between fun before _ => before.isEmpty || headIs (· == '\n') before

/-- The end of the text, or before a newline that ends it. -/
def textEnd : Pattern := between fun _ after => after.isEmpty || after == ['\n']

/-! ## Words in any case -/

/-- Whether a character equals a small letter when case is ignored. Three letters have a further
form of their own. -/
def sameLetter (small c : Char) : Bool :=
  c == small || c.toLower == small || (small == 's' && c == '\u017f') ||
    (small == 'k' && c == '\u212a') || (small == 'i' && (c == '\u0130' || c == '\u0131'))

/-- The characters of a word of small letters, in any case. -/
def anyCase (w : String) : Pattern := sequence (w.toList.map fun c => char (sameLetter c))

end Pattern

end ModuleAudit
