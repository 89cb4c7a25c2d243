import ModuleAudit.Fault

/-!
# Message templates

A template is text with fields between braces; a brace that is text is written twice. `segments`
splits a template from left to right, up to the first place where it is not well-formed. Fields are
kept as they are written: a name, a conversion after an exclamation mark and a layout after a colon,
which may hold fields of its own.
-/

namespace ModuleAudit.Template

/-- A field of a template. -/
structure Field where
  name : List Char
  conversion : Option Char := none
  layout : List Char := []
  deriving DecidableEq, Repr

/-- A part of a template. -/
inductive Segment
  | literal (s : List Char)
  | field (f : Field)
  deriving DecidableEq, Repr

/-- Where a template is not well-formed. -/
inductive Flaw
  | loneClosing
  | loneOpening
  | openingInName
  | noConversion
  | noColon
  | openLayout
  | openField
  deriving DecidableEq, Repr

/-- What is said about a flaw. -/
def Flaw.message : Flaw → String
  | loneClosing => "Single '\x7d' encountered in format string"
  | loneOpening => "Single '\x7b' encountered in format string"
  | openingInName => "unexpected '\x7b' in field name"
  | noConversion => "end of string while looking for conversion specifier"
  | noColon => "expected ':' after conversion specifier"
  | openLayout => "unmatched '\x7b' in format spec"
  | openField => "expected '\x7d' before end of string"

/-- The name of a field, and the rest of the template from the sign that ends the name. Signs
between square brackets belong to the name; `inBrackets` tells whether a bracket is open. -/
def readName (inBrackets : Bool) : List Char → Except Flaw (List Char × List Char)
  | [] => .error .openField
  | c :: rest => do
    if inBrackets then
      let (name, after) ← readName (c != ']') rest
      return (c :: name, after)
    else if c == '\x7b' then .error .openingInName
    else if c == '\x7d' || c == ':' || c == '!' then return ([], c :: rest)
    else
      let (name, after) ← readName (c == '[') rest
      return (c :: name, after)

/-- The layout of a field up to the brace that closes the field, and what follows the brace. `depth`
is the number of braces that are open in the layout. -/
def readLayout (depth : Nat) : List Char → Except Flaw (List Char × List Char)
  | [] => .error .openLayout
  | '\x7d' :: rest =>
    match depth with
    | 0 => .ok ([], rest)
    | depth + 1 => do
      let (layout, after) ← readLayout depth rest
      return ('\x7d' :: layout, after)
  | c :: rest => do
    let (layout, after) ← readLayout (if c == '\x7b' then depth + 1 else depth) rest
    return (c :: layout, after)

/-- The field after an opening brace, and what follows it. -/
def readField (s : List Char) : Except Flaw (Field × List Char) := do
  match ← readName false s with
  | (name, '!' :: rest) =>
    match rest with
    | [] => .error .noConversion
    | c :: '\x7d' :: after => return (⟨name, some c, []⟩, after)
    | c :: ':' :: after =>
      let (layout, after) ← readLayout 0 after
      return (⟨name, some c, layout⟩, after)
    | [_] => .error .openLayout
    | _ => .error .noColon
  | (name, ':' :: rest) =>
    let (layout, after) ← readLayout 0 rest
    return (⟨name, none, layout⟩, after)
  | (name, rest) => return (⟨name, none, []⟩, rest.drop 1)

/-- A literal in front of other parts. -/
def prepend (text : List Char) (parts : List (Except Flaw Segment)) : List (Except Flaw Segment) :=
  if text.isEmpty then parts else .ok (.literal text.reverse) :: parts

/-- The parts of a template of which the literal `text` (reversed) has been read. Nothing follows a
flaw. At most `fuel` steps. -/
def segmentsAfter : (fuel : Nat) → (text : List Char) → List Char → List (Except Flaw Segment)
  | 0, text, _ => prepend text []
  | _ + 1, text, [] => prepend text []
  | fuel + 1, text, '\x7b' :: rest =>
    match rest with
    | '\x7b' :: rest => segmentsAfter fuel ('\x7b' :: text) rest
    | [] => [.error .loneOpening]
    | rest =>
      match readField rest with
      | .error flaw => prepend text [.error flaw]
      | .ok (f, after) => prepend text (.ok (.field f) :: segmentsAfter fuel [] after)
  | fuel + 1, text, '\x7d' :: rest =>
    match rest with
    | '\x7d' :: rest => segmentsAfter fuel ('\x7d' :: text) rest
    | _ => [.error .loneClosing]
  | fuel + 1, text, c :: rest => segmentsAfter fuel (c :: text) rest

/-- The parts of a template. -/
def segments (template : List Char) : List (Except Flaw Segment) :=
  segmentsAfter (template.length + 1) [] template

end ModuleAudit.Template
