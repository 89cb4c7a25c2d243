import ModuleAudit.Fault

/-!
# The characters of a YAML text and their places

YAML goes by columns, so each character is kept with its place (`Spot`). The line ends of a text
have been folded before, which leaves the newline and three rarer line breaks. The end of the text
counts as a gap and as the end of a line.
-/

namespace ModuleAudit.Yaml

/-- Why a YAML text gives no value: it breaks the rules of YAML, or a value in it cannot be made. -/
inductive Failure
  | malformed
  | fault (cause : Fault)
  deriving DecidableEq, Repr

/-- A character with its place: the number of its line, its column, how many characters stand before
it, and how many from it on. -/
structure Spot where
  char : Char
  line : Nat
  column : Nat
  index : Nat
  left : Nat
  deriving DecidableEq, Repr

/-! ## Classes of characters -/

/-- Whether a character may occur in a YAML text at all. -/
def isAllowed (c : Char) : Bool :=
  let n := c.toNat
  c == '\t' || c == '\n' || c == '\r' || n == 0x85 || (0x20 ≤ n && n ≤ 0x7e) ||
    (0xa0 ≤ n && n ≤ 0xd7ff) || (0xe000 ≤ n && n ≤ 0xfffd) || 0x10000 ≤ n

/-- Whether a character ends a line. -/
def isBreak (c : Char) : Bool :=
  c == '\n' || c == '\r' || c == '\x85' || c == '\u2028' || c == '\u2029'

/-- Whether a character is a space or a tab. -/
def isBlankChar (c : Char) : Bool := c == ' ' || c == '\t'

/-- Whether a character separates words. -/
def isGap (c : Char) : Bool := isBlankChar c || isBreak c

/-- Whether a character may occur in the name of an anchor, a directive or a tag. -/
def isNameChar (c : Char) : Bool := c.isAlphanum || c == '-' || c == '_'

/-- What a line break comes to: a newline, unless it separates lines or paragraphs. -/
def normalBreak (c : Char) : Char := if c == '\u2028' || c == '\u2029' then c else '\n'

/-! ## Places -/

/-- The characters of a text from a place on, with their places. -/
def spotsFrom (line column index left : Nat) : List Char → List Spot
  | [] => []
  | c :: rest =>
    ⟨c, line, column, index, left⟩ ::
      if isBreak c then spotsFrom (line + 1) 0 (index + 1) (left - 1) rest
      else spotsFrom line (if c == '\ufeff' then column else column + 1) (index + 1) (left - 1) rest

/-- The characters of a text with their places. -/
def spots (s : List Char) : List Spot := spotsFrom 0 0 0 s.length s

/-- How many characters there are, as the first one tells. -/
def lengthOf (s : List Spot) : Nat := (s.head?.map (·.left)).getD 0

/-- The characters of some spots. -/
def charsOf (s : List Spot) : List Char := s.map (·.char)

/-- The first character. -/
def front? (s : List Spot) : Option Char := s.head?.map (·.char)

/-- Whether the first character is of a class. -/
def frontIs (p : Char → Bool) (s : List Spot) : Bool := s.head?.any (p ·.char)

/-- Whether the text is at its end or its first character is of a class. -/
def endsOr (p : Char → Bool) (s : List Spot) : Bool := s.head?.all (p ·.char)

/-- Whether a gap or the end of the text comes first. -/
def atGap (s : List Spot) : Bool := endsOr isGap s

/-- Whether a line break or the end of the text comes first. -/
def atLineEnd (s : List Spot) : Bool := endsOr isBreak s

/-- Whether a space, a line break or the end of the text comes first. -/
def atSpace (s : List Spot) : Bool := endsOr (fun c => c == ' ' || isBreak c) s

/-- The characters of a class at the front, and what follows them. -/
def spanWhile (p : Char → Bool) (s : List Spot) : List Char × List Spot :=
  (charsOf (s.takeWhile (p ·.char)), s.dropWhile (p ·.char))

/-- What follows the spaces at the front. -/
def skipSpaces (s : List Spot) : List Spot := s.dropWhile (·.char == ' ')

/-- Whether three characters of a kind and a gap come first. -/
def marksDocument (c : Char) (s : List Spot) : Bool :=
  charsOf (s.take 3) == [c, c, c] && atGap (s.drop 3)

/-- Whether the marks between documents come first. -/
def atDocumentMark (s : List Spot) : Bool := marksDocument '-' s || marksDocument '.' s

/-- What follows the line break at the front, and what the break comes to. -/
def takeBreak (s : List Spot) : List Char × List Spot :=
  match s with
  | x :: rest => if isBreak x.char then ([normalBreak x.char], rest) else ([], s)
  | [] => ([], [])

/-- What follows the rest of a line on which nothing but a comment may stand. -/
def restOfLine (s : List Spot) : Except Failure (List Spot) :=
  let s := skipSpaces s
  let s := if front? s == some '#' then s.dropWhile (!isBreak ·.char) else s
  if atLineEnd s then .ok (takeBreak s).2 else .error .malformed

end ModuleAudit.Yaml
