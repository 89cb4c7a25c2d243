import ModuleAudit.Json.Reading
import ModuleAudit.Markup.Character

/-!
# The small parts of a markup document

Scanners for names, references, comments, instructions and quoted values. A scanner takes the text
that begins after what it was called for and gives what it read with the rest of the text. It stops
where a character does not fit, or at the end of a text that leaves a part unfinished.
-/

namespace ModuleAudit.Markup

/-- Why a scanner stops. -/
inductive Stop
  /-- What stands here does not fit. -/
  | invalid (place : List Char)
  /-- The text ends before the part does. -/
  | unfinished
  deriving DecidableEq, Repr

/-- A reader of one part of a text. -/
abbrev Scanner (α : Type) := List Char → Except Stop (α × List Char)

/-- Stops at a place: something is missing at the end of the text, or what stands there is wrong. -/
def stopAt {α : Type} (s : List Char) : Except Stop α :=
  .error (if s.isEmpty then .unfinished else .invalid s)

/-- The text after a character that has to come next. -/
def expectChar (c : Char) (s : List Char) : Except Stop (List Char) :=
  match s with
  | d :: rest => if c == d then .ok rest else .error (.invalid s)
  | [] => .error .unfinished

/-- The text without the white space at its front. -/
def skipSpace (s : List Char) : List Char := s.dropWhile isSpace

/-- How many bytes the characters take. -/
def byteLength (s : List Char) : Nat := s.foldl (fun n c => n + c.utf8Size) 0

/-! ## Names -/

/-- A name without a colon. What follows it decides whether it is whole, so it has to be there. -/
def scanName : Scanner (List Char)
  | [] => .error .unfinished
  | c :: rest =>
    if isNameStart c then
      let (name, rest) := rest.span isNameChar
      if rest.isEmpty then .error .unfinished else .ok (c :: name, rest)
    else .error (.invalid (c :: rest))

/-- A name with an optional prefix. -/
structure QualifiedName where
  qualifier : Option (List Char)
  localName : List Char
  deriving DecidableEq, Repr

/-- A name with an optional prefix before a colon. -/
def scanQualifiedName : Scanner QualifiedName := fun s => do
  let (first, rest) ← scanName s
  match rest with
  | ':' :: rest =>
    let (second, rest) ← scanName rest
    return (⟨some first, second⟩, rest)
  | rest => return (⟨none, first⟩, rest)

/-- A name with any number of colons after its first character. -/
def scanRawName : Scanner (List Char)
  | [] => .error .unfinished
  | c :: rest =>
    if isNameStart c then
      let (name, rest) := rest.span fun c => isNameChar c || c == ':'
      if rest.isEmpty then .error .unfinished else .ok (c :: name, rest)
    else .error (.invalid (c :: rest))

/-! ## References -/

/-- What an ampersand refers to. -/
inductive Reference
  /-- A number beyond all characters stands for all numbers that are too large. -/
  | character (code : Nat)
  | entity (name : List Char)
  deriving DecidableEq, Repr

/-- The characters of the entities that need no declaration. -/
def predefined : List (List Char × Char) := [
  ("lt".toList, '<'), ("gt".toList, '>'), ("amp".toList, '&'), ("quot".toList, '"'),
  ("apos".toList, '\x27')]

/-- The digits of a character number, and the semicolon after them. -/
def scanCharacterNumber (base : Nat) (digit? : Char → Option Nat) : Scanner Nat := fun s => do
  let (digits, rest) := s.span fun c => (digit? c).isSome
  if digits.isEmpty then stopAt s
  else
    let rest ← expectChar ';' rest
    return (digits.foldl (fun n c => min (n * base + (digit? c).getD 0) 0x110000) 0, rest)

/-- The value of a decimal digit. -/
def decimalValue? (c : Char) : Option Nat := if c.isDigit then Json.hexValue? c else none

/-- The reference after an ampersand. -/
def scanReference : Scanner Reference
  | '#' :: 'x' :: rest => do
    let (n, rest) ← scanCharacterNumber 16 Json.hexValue? rest
    return (.character n, rest)
  | '#' :: rest => do
    let (n, rest) ← scanCharacterNumber 10 decimalValue? rest
    return (.character n, rest)
  | s => do
    let (name, rest) ← scanName s
    return (.entity name, ← expectChar ';' rest)

/-- The character of a number, if a document may hold it. -/
def characterOf? (code : Nat) : Option Char :=
  if code.isValidChar && isChar (Char.ofNat code) then some (Char.ofNat code) else none

/-! ## Comments and instructions -/

/-- The text after a comment whose start has been read. -/
def scanCommentBody : List Char → Except Stop (List Char)
  | '-' :: '-' :: rest => expectChar '>' rest
  | c :: rest => if isChar c then scanCommentBody rest else .error (.invalid (c :: rest))
  | [] => .error .unfinished

/-- The text after a comment of whose start one dash has been read. -/
def scanComment (s : List Char) : Except Stop (List Char) := do scanCommentBody (← expectChar '-' s)

/-- The text after the next end of an instruction. -/
def scanInstructionBody : List Char → Except Stop (List Char)
  | '?' :: '>' :: rest => .ok rest
  | c :: rest => if isChar c then scanInstructionBody rest else .error (.invalid (c :: rest))
  | [] => .error .unfinished

/-- An instruction whose start has been read: whether it is the declaration of a document. The name
of the declaration is taken, in capital letters too. -/
def scanInstruction : Scanner Bool := fun s => do
  let (target, rest) ← scanName s
  let isDeclaration := target == "xml".toList
  let isTaken := !isDeclaration && target.map Char.toLower == "xml".toList
  match rest with
  | '?' :: after =>
    if isTaken then .error (.invalid rest) else return (isDeclaration, ← expectChar '>' after)
  | c :: after =>
    if isTaken || !isSpace c then .error (.invalid rest)
    else return (isDeclaration, ← scanInstructionBody after)
  | [] => .error .unfinished

/-! ## Quoted values -/

/-- Whether a character is a quote. -/
def isQuote (c : Char) : Bool := c == '"' || c == '\x27'

/-- The characters up to a closing quote, of any kind. -/
def scanLiteralBody (quote : Char) : (done : List Char) → Scanner (List Char)
  | _, [] => .error .unfinished
  | done, c :: rest =>
    if c == quote then .ok (done.reverse, rest)
    else if isChar c then scanLiteralBody quote (c :: done) rest
    else .error (.invalid (c :: rest))

end ModuleAudit.Markup
