/-!
# Lines of a text

Two notions of a line end live side by side. Files are read with every line end turned into a
newline (`foldLineEnds`), and line numbers count newlines (`lineNumber`). `splitLines` cuts at every
mandatory break that Unicode and ASCII know, and keeps no empty line after the last break.
-/

namespace ModuleAudit.Text

/-- A character that ends a line by itself. -/
def isLineBreak (c : Char) : Bool :=
  let n := c.toNat
  (0x0a ≤ n && n ≤ 0x0d) || (0x1c ≤ n && n ≤ 0x1e) || n == 0x85 || n == 0x2028 || n == 0x2029

/-- The lines of a text of which `line` (reversed) has been read already. -/
def linesAfter (line : List Char) : List Char → List (List Char)
  | [] => if line.isEmpty then [] else [line.reverse]
  | '\r' :: '\n' :: rest => line.reverse :: linesAfter [] rest
  | c :: rest =>
    if isLineBreak c then line.reverse :: linesAfter [] rest else linesAfter (c :: line) rest

/-- The lines of a text, without their ends. -/
def splitLines (s : List Char) : List (List Char) := linesAfter [] s

/-- The text with a carriage return, alone or before a newline, turned into a newline. -/
def foldLineEnds : List Char → List Char
  | [] => []
  | '\r' :: '\n' :: rest => '\n' :: foldLineEnds rest
  | c :: rest => (if c == '\r' then '\n' else c) :: foldLineEnds rest

/-- The number of the line that holds the character at `offset`, counting from one. -/
def lineNumber (s : List Char) (offset : Nat) : Nat := (s.take offset).count '\n' + 1

end ModuleAudit.Text
