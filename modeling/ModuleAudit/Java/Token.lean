/-!
# Comments and literals of Java

A Java text splits from left to right into comments, text blocks, quoted literals and single other
characters (`Token.split`). Two copies of the text are made from its tokens: `code` has the comments
blanked out, `bare` the contents of the literals too. Newlines survive, so offsets and line numbers
carry over from one copy to another.

* `Token.flatMap_text_split`: the tokens hold the whole text, in order;
* `Token.length_code`, `Token.length_bare`: both copies of a token are as long as the token.
-/

namespace ModuleAudit.Java

/-- A stretch of Java text, as far as comments and literals go. -/
inductive Token
  /-- A comment from two slashes up to the end of the line. -/
  | lineComment (text : List Char)
  /-- A comment between its delimiters, or up to the end of the text. -/
  | blockComment (text : List Char)
  /-- What stands between three quotes and the next three (`closing`, empty at the end of the
  text). -/
  | textBlock (inner closing : List Char)
  /-- A string or character literal. A backslash takes the next character with it; the literal is
  closed by the quote that opened it, by a newline or by the end of the text. -/
  | literal (quote : Char) (inner closing : List Char)
  /-- Any other character. -/
  | other (c : Char)
  deriving DecidableEq, Repr

/-- The text with every character but the newlines replaced by a blank. -/
def blank (s : List Char) : List Char := s.map fun c => if c == '\n' then c else ' '

/-- The text up to the first occurrence of a word, and what starts with it (nothing, if the word
does not occur). -/
def breakBefore (w : List Char) : List Char → List Char × List Char
  | [] => ([], [])
  | c :: rest =>
    if w.isPrefixOf (c :: rest) then ([], c :: rest)
    else
      let (front, back) := breakBefore w rest
      (c :: front, back)

/-- The content of a literal after its opening quote, and the rest of the text from what closes
it. -/
def breakLiteral (quote : Char) : List Char → List Char × List Char
  | [] => ([], [])
  | '\\' :: c :: rest =>
    let (inner, back) := breakLiteral quote rest
    ('\\' :: c :: inner, back)
  | c :: rest =>
    if c == quote || c == '\n' then ([], c :: rest)
    else
      let (inner, back) := breakLiteral quote rest
      (c :: inner, back)

/-- Three double quotes. -/
def tripleQuote : List Char := ['"', '"', '"']

namespace Token

/-- The characters of the token. -/
def text : Token → List Char
  | lineComment s => s
  | blockComment s => s
  | textBlock inner closing => tripleQuote ++ inner ++ closing
  | literal q inner closing => q :: inner ++ closing
  | other c => [c]

/-- The token with a comment blanked out. -/
def code : Token → List Char
  | lineComment s => blank s
  | blockComment s => blank s
  | t => t.text

/-- The token with a comment or the content of a literal blanked out. -/
def bare : Token → List Char
  | lineComment s => blank s
  | blockComment s => blank s
  | textBlock inner closing => tripleQuote ++ blank inner ++ closing
  | literal q inner closing => q :: blank inner ++ closing
  | other c => [c]

/-- The token at the start of a text that begins with `c`, and the rest of the text. -/
def first (c : Char) (rest : List Char) : Token × List Char :=
  if c == '/' && rest.head? == some '/' then
    let (front, back) := breakBefore ['\n'] (c :: rest)
    (lineComment front, back)
  else if c == '/' && rest.head? == some '*' then
    let (front, back) := breakBefore ['*', '/'] (rest.drop 1)
    (blockComment ('/' :: '*' :: front ++ back.take 2), back.drop 2)
  else if tripleQuote.isPrefixOf (c :: rest) then
    let (front, back) := breakBefore tripleQuote (rest.drop 2)
    (textBlock front (back.take 3), back.drop 3)
  else if c == '"' || c == '\x27' then
    let (inner, back) := breakLiteral c rest
    (literal c inner (back.take 1), back.drop 1)
  else (other c, rest)

end Token

/-! ## Nothing is lost -/

theorem breakBefore_append (w s : List Char) : (breakBefore w s).1 ++ (breakBefore w s).2 = s := by
  induction s with
  | nil => rfl
  | cons c rest ih =>
    rw [breakBefore]
    split
    · rfl
    · simp [ih]

theorem breakLiteral_append (q : Char) (s : List Char) :
    (breakLiteral q s).1 ++ (breakLiteral q s).2 = s := by
  fun_induction breakLiteral q s <;> simp_all

namespace Token

/-- The first token and the rest make up the text. -/
theorem first_append (c : Char) (rest : List Char) :
    (first c rest).1.text ++ (first c rest).2 = c :: rest := by
  unfold first
  split
  · exact breakBefore_append ..
  split
  · rename_i h
    obtain ⟨hc, hr⟩ := Bool.and_eq_true_iff.1 h
    have hr := eq_of_beq hr
    obtain ⟨r, rfl⟩ : ∃ r, rest = '*' :: r := by
      cases rest with
      | nil => cases hr
      | cons d r => exact ⟨r, by rw [Option.some.inj hr]⟩
    simp [text, eq_of_beq hc, breakBefore_append]
  split
  · rename_i h
    obtain ⟨r, hr⟩ := List.isPrefixOf_iff_prefix.1 h
    rw [tripleQuote, List.cons_append, List.cons.injEq] at hr
    obtain ⟨rfl, rfl⟩ := hr
    simp [text, tripleQuote, breakBefore_append]
  split
  · simp only [text, List.cons_append, List.append_assoc, List.take_append_drop, breakLiteral_append]
  · rfl

theorem length_first_lt (c : Char) (rest : List Char) : (first c rest).2.length < rest.length + 1 := by
  have h := congrArg List.length (first_append c rest)
  have pos : 0 < (first c rest).1.text.length := by
    unfold first
    split
    · rename_i h
      obtain ⟨hc, -⟩ := Bool.and_eq_true_iff.1 h
      simp [text, breakBefore, eq_of_beq hc, List.isPrefixOf]
    split
    · simp [text]
    split
    · simp [text, tripleQuote]
    split <;> simp [text]
  rw [List.length_append, List.length_cons] at h
  omega

/-- The tokens of a text, from left to right. -/
def split : List Char → List Token
  | [] => []
  | c :: rest =>
    let next := first c rest
    next.1 :: split next.2
termination_by s => s.length
decreasing_by exact length_first_lt ..

theorem flatMap_text_split (s : List Char) : (split s).flatMap text = s := by
  fun_induction split s with
  | case1 => rfl
  | case2 c rest next ih => rw [List.flatMap_cons, ih, first_append]

theorem length_blank (s : List Char) : (blank s).length = s.length := by simp [blank]

theorem length_code (t : Token) : t.code.length = t.text.length := by
  cases t <;> simp [code, text, length_blank]

theorem length_bare (t : Token) : t.bare.length = t.text.length := by
  cases t <;> simp [bare, text, length_blank]

end Token

/-- The text with the comments blanked out. -/
def codeOf (s : List Char) : List Char := (Token.split s).flatMap Token.code

/-- The text with the comments and the contents of the literals blanked out. -/
def bareOf (s : List Char) : List Char := (Token.split s).flatMap Token.bare

end ModuleAudit.Java
