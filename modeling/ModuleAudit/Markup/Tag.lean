import ModuleAudit.Markup.Scan

/-!
# Tags and the other parts of content

`scanContent` splits the content of an element into tags, references, runs of text and line ends. In
the text of an entity, where line ends have been made one, a carriage return is a character like
others; `folds` tells that they have not.
-/

namespace ModuleAudit.Markup

/-- An attribute as it is written. -/
structure WrittenAttribute where
  name : QualifiedName
  /-- The text from the name on. -/
  place : List Char
  /-- What stands between the quotes. -/
  written : List Char
  /-- The text from behind the first quote on. -/
  valuePlace : List Char
  deriving Repr

/-- A tag that opens an element. -/
structure Tag where
  name : QualifiedName
  attributes : List WrittenAttribute
  /-- Whether the tag closes its element too. -/
  closed : Bool
  deriving Repr

/-- A part of the content of an element. -/
inductive Part
  | opening (tag : Tag)
  /-- A tag that closes an element, with the text from its name on. -/
  | closing (name place : List Char)
  | reference (r : Reference)
  | text (s : List Char)
  | lineEnd
  /-- The start of a section of characters that stand for themselves. -/
  | section
  | comment
  | instruction
  /-- The declaration of a document, which may not stand in content. -/
  | declaration
  deriving Repr

/-! ## Attributes -/

/-- The value of an attribute up to its closing quote, as it is written. Its references have to be
whole. -/
def scanValue (quote : Char) : (done : List Char) → Scanner (List Char)
  | _, [] => .error .unfinished
  | done, c :: rest => do
    if c == quote then return (done.reverse, rest)
    else if isChar c && c != '<' then
      if c == '&' then let _ ← scanReference rest
      scanValue quote (c :: done) rest
    else .error (.invalid (c :: rest))

/-- An attribute. -/
def scanAttribute : Scanner WrittenAttribute := fun s => do
  let (name, rest) ← scanQualifiedName s
  let rest := skipSpace (← expectChar '=' (skipSpace rest))
  match rest with
  | quote :: value =>
    if isQuote quote then
      let (written, after) ← scanValue quote [] value
      return (⟨name, s, written, value⟩, after)
    else .error (.invalid rest)
  | [] => .error .unfinished

/-- The attributes of a tag and its end: whether it closes its element. An attribute has to follow
white space. At most `fuel` steps. -/
def scanTagRest (spaced : Bool) : (fuel : Nat) → Scanner (List WrittenAttribute × Bool)
  | 0, _ => .error .unfinished
  | _ + 1, [] => .error .unfinished
  | fuel + 1, c :: rest => do
    if c == '>' then return (([], false), rest)
    else if c == '/' then return (([], true), ← expectChar '>' rest)
    else if isSpace c then scanTagRest true fuel rest
    else if spaced then
      let (first, rest) ← scanAttribute (c :: rest)
      let ((more, closed), rest) ← scanTagRest false fuel rest
      return ((first :: more, closed), rest)
    else .error (.invalid (c :: rest))

/-- A tag that opens an element, after its angle bracket. -/
def scanOpening : Scanner Part := fun s => do
  let (name, rest) ← scanQualifiedName s
  let ((attributes, closed), rest) ← scanTagRest false (rest.length + 1) rest
  return (.opening ⟨name, attributes, closed⟩, rest)

/-- A tag that closes an element, after its slash. -/
def scanClosing : Scanner Part := fun s => do
  let (name, rest) ← scanRawName s
  return (.closing name s, ← expectChar '>' (skipSpace rest))

/-! ## Parts of content -/

/-- The text after a word that has to come next, character by character. -/
def expectWord : (word s : List Char) → Except Stop (List Char)
  | [], s => .ok s
  | c :: word, s => do expectWord word (← expectChar c s)

/-- What opens a section, after its first bracket. -/
def sectionWord : List Char := "CDATA[".toList

/-- What follows an exclamation mark in content. -/
def scanMarked : Scanner Part
  | '-' :: rest => do return (.comment, ← scanComment rest)
  | '[' :: rest =>
    if byteLength rest < sectionWord.length then .error .unfinished
    else do return (.section, ← expectWord sectionWord rest)
  | s => stopAt s

/-- The run of text at the front of content. The end of a section may not stand in it. -/
def scanText (folds : Bool) : (done : List Char) → Scanner Part
  | _, ']' :: ']' :: '>' :: rest => .error (.invalid ('>' :: rest))
  | done, [] => .ok (.text done.reverse, [])
  | done, c :: rest =>
    if c == '<' || c == '&' || c == '\n' || (folds && c == '\r') || !isChar c then
      .ok (.text done.reverse, c :: rest)
    else scanText folds (c :: done) rest

/-- The first part of content that is not at its end. -/
def scanContent (folds : Bool) : Scanner Part
  | '<' :: '!' :: rest => scanMarked rest
  | '<' :: '?' :: rest => do
    let (isDeclaration, rest) ← scanInstruction rest
    return (if isDeclaration then .declaration else .instruction, rest)
  | '<' :: '/' :: rest => scanClosing rest
  | '<' :: rest => scanOpening rest
  | '&' :: rest => do
    let (r, rest) ← scanReference rest
    return (.reference r, rest)
  | '\n' :: rest => .ok (.lineEnd, rest)
  | c :: rest =>
    if c == '\r' && folds then
      match rest with
      | '\n' :: rest => .ok (.lineEnd, rest)
      | rest => .ok (.lineEnd, rest)
    else if isChar c then scanText folds [] (c :: rest)
    else .error (.invalid (c :: rest))
  | [] => .error .unfinished

/-- The first part of a section, whose end is `none`. -/
def scanSection (folds : Bool) : Scanner (Option Part)
  | ']' :: ']' :: '>' :: rest => .ok (none, rest)
  | [']'] => .error .unfinished
  | [']', ']'] => .error .unfinished
  | '\n' :: rest => .ok (some .lineEnd, rest)
  | c :: rest =>
    if c == '\r' && folds then
      match rest with
      | [] => .error .unfinished
      | '\n' :: rest => .ok (some .lineEnd, rest)
      | rest => .ok (some .lineEnd, rest)
    else if isChar c then
      let goesOn (d : Char) : Bool := isChar d && d != '\n' && d != ']' && !(folds && d == '\r')
      let (more, rest) := rest.span goesOn
      .ok (some (.text (c :: more)), rest)
    else .error (.invalid (c :: rest))
  | [] => .error .unfinished

end ModuleAudit.Markup
