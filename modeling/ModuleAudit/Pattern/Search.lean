import ModuleAudit.Pattern.Basic

/-!
# Searching a text

`Pattern.search?` finds the first place of a text where a pattern matches, `Pattern.findAll` all of
them from left to right, each search going on where the last match ended. `Pattern.prefixMatch?`
looks at the start of the text only.
-/

namespace ModuleAudit

/-- A stretch of text that a pattern matched. -/
structure Match where
  start : Place
  stop : Place
  deriving Repr

namespace Match

/-- The number of characters in the stretch. -/
def length (m : Match) : Nat := m.stop.offset - m.start.offset

/-- The part of the stretch captured under a number. -/
def capture (m : Match) (k : Nat) : List Char := m.stop.capture k

end Match

namespace Pattern

/-- The match that starts at a place. -/
def matchAt? (p : Pattern) (s : Place) : Option Match := (p.run s some).map (⟨s, ·⟩)

/-- The match at the start of a text. -/
def prefixMatch? (p : Pattern) (s : List Char) : Option Match := p.matchAt? (.start s)

/-- The first match in the text `after`, which stands after `before` (reversed) at an offset. -/
def searchFrom? (p : Pattern) (before : List Char) (offset : Nat) (after : List Char) :
    Option Match :=
  match p.matchAt? ⟨before, after, offset, []⟩, after with
  | some m, _ => some m
  | none, [] => none
  | none, c :: rest => searchFrom? p (c :: before) (offset + 1) rest

/-- The first match in a text. -/
def search? (p : Pattern) (s : List Char) : Option Match := p.searchFrom? [] 0 s

/-- Whether the pattern matches somewhere in a text. -/
def found (p : Pattern) (s : List Char) : Bool := (p.search? s).isSome

/-- The matches in the text `after`, which stands after `before` (reversed) at an offset; the first
`skip` characters belong to the last match. -/
def findFrom (p : Pattern) (before : List Char) (offset skip : Nat) : List Char → List Match
  | [] => if skip == 0 then (p.matchAt? ⟨before, [], offset, []⟩).toList else []
  | c :: rest =>
    if skip != 0 then findFrom p (c :: before) (offset + 1) (skip - 1) rest
    else
      match p.matchAt? ⟨before, c :: rest, offset, []⟩ with
      | some m => m :: findFrom p (c :: before) (offset + 1) (m.length - 1) rest
      | none => findFrom p (c :: before) (offset + 1) 0 rest

/-- The matches in a text, from left to right. -/
def findAll (p : Pattern) (s : List Char) : List Match := p.findFrom [] 0 0 s

end Pattern

end ModuleAudit
