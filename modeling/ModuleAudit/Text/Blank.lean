/-!
# Blank characters

`isBlank` is the class of characters that separate words without being visible: the white space of
Unicode together with the ASCII information separators. `trim` and `trimEnd` cut blank characters
off the ends of a text.

* `trimEnd_append_blank`: blank characters added at the end are cut off again.
-/

namespace ModuleAudit.Text

/-- A white space character or one of the four ASCII information separators. -/
def isBlank (c : Char) : Bool :=
  let n := c.toNat
  (0x09 ≤ n && n ≤ 0x0d) || (0x1c ≤ n && n ≤ 0x20) || n == 0x85 || n == 0xa0 || n == 0x1680 ||
    (0x2000 ≤ n && n ≤ 0x200a) || n == 0x2028 || n == 0x2029 || n == 0x202f || n == 0x205f ||
    n == 0x3000

/-- The text without the blank characters it starts with. -/
def trimStart (s : List Char) : List Char := s.dropWhile isBlank

/-- The text without the blank characters it ends with. -/
def trimEnd (s : List Char) : List Char := (s.reverse.dropWhile isBlank).reverse

/-- The text without the blank characters at both ends. -/
def trim (s : List Char) : List Char := trimEnd (trimStart s)

theorem trimEnd_append_blank {s t : List Char} (h : ∀ c ∈ t, isBlank c = true) :
    trimEnd (s ++ t) = trimEnd s := by
  unfold trimEnd
  rw [List.reverse_append, List.dropWhile_append_of_pos fun c hc => h c (List.mem_reverse.1 hc)]

end ModuleAudit.Text
