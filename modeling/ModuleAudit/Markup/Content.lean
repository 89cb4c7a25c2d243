import ModuleAudit.Markup.Namespace

/-!
# Tags and text in a row

The content of a document is a row of `Event`s: tags that open and close elements, and text between
them. Entities are replaced by the events of their text, in which every element that opens has to
close. Comments and instructions leave no event, so they do not part the text around them.
-/

namespace ModuleAudit.Markup

/-- A tag, or text between tags. -/
inductive Event
  | opening (localName : List Char)
  | closing
  | text (s : String)
  deriving DecidableEq, Repr

/-- An element that is open: its name as it is written, and the prefixes in use around it. -/
structure OpenElement where
  name : List Char
  outside : Scope

/-- A name with its prefix, as it is written. -/
def QualifiedName.written (n : QualifiedName) : List Char :=
  match n.qualifier with
  | some p => p ++ ':' :: n.localName
  | none => n.localName

/-- Where content has come to: the prefixes in use, the open elements, innermost first, and the
events, last first. -/
structure Course where
  scope : Scope
  stack : List OpenElement := []
  events : List Event := []

namespace Course

/-- The course after an event. -/
def push (c : Course) (e : Event) : Course := { c with events := e :: c.events }

/-- The course after some text. -/
def pushText (c : Course) (s : List Char) : Course := c.push (.text (String.ofList s))

/-- The course after a tag that opens an element. -/
def openTag (c : Course) (tag : Tag) (inside : Scope) : Course :=
  if tag.closed then (c.push (.opening tag.name.localName)).push .closing
  else
    let element : OpenElement := ⟨tag.name.written, c.scope⟩
    { (c.push (.opening tag.name.localName)) with
      scope := inside
      stack := element :: c.stack }

end Course

/-- Reads a section up to its end. At most `fuel` parts. -/
def readSection (folds : Bool) : (fuel : Nat) → Course → List Char →
    Except Malformed (Course × List Char)
  | 0, _, s => failAt .unclosedSection s
  | fuel + 1, course, s =>
    match scanSection folds s with
    | .error (.invalid place) => failAt .invalidToken place
    | .error .unfinished => failAt .unclosedSection s
    | .ok (none, rest) => .ok (course, rest)
    | .ok (some (.text t), rest) => readSection folds fuel (course.pushText t) rest
    | .ok (some _, rest) => readSection folds fuel (course.push (.text "\n")) rest

/-- What an entity adds to content. -/
abbrev Expansion := List Char → Course → Reading Course

/-- Where content is read: what is declared, what entities add, and which of them are being
replaced. -/
structure Setup where
  declarations : Declarations
  expand : Expansion
  within : List (List Char)

/-- Whether the content is that of a document, and not of the text of an entity. -/
def Setup.isDocument (setup : Setup) : Bool := setup.within.isEmpty

/-- Goes on with a part of content that stands at `s` and before `rest`. A section is read to its
end: the result is the text after it. -/
def readPart (setup : Setup) (s : List Char) (course : Course) (part : Part) (rest : List Char) :
    Reading (Course × List Char) :=
  match part with
  | .opening tag => do
    let inside ← Scope.enter setup.declarations setup.isDocument setup.within course.scope tag
    return (course.openTag tag inside, rest)
  | .closing name place =>
    match course.stack with
    | [] => Reading.fail .asynchronousEntity
    | top :: outer =>
      if top.name == name then
        return ({ (course.push .closing) with scope := top.outside, stack := outer }, rest)
      else Reading.failAt .mismatchedTag place
  | .reference (.character code) =>
    match characterOf? code with
    | some c => return (course.pushText [c], rest)
    | none => Reading.fail .invalidCharacterNumber
  | .reference (.entity name) => do return (← setup.expand name course, rest)
  | .text t => return (course.pushText t, rest)
  | .lineEnd => return (course.push (.text "\n"), rest)
  | .section => readSection setup.isDocument (s.length + 1) course rest
  | .comment => return (course, rest)
  | .instruction => return (course, rest)
  | .declaration => Reading.fail .misplacedDeclaration

/-- Reads content. That of a document ends with its outermost element, that of an entity with its
text, in which all elements have to close. At most `fuel` parts. -/
def readContent (setup : Setup) : (fuel : Nat) → Course → List Char → Reading (Course × List Char)
  | 0, _, s => Reading.failAt .unclosedToken s
  | _ + 1, course, [] =>
    if setup.isDocument then Reading.failAt .noElement []
    else if course.stack.isEmpty then return (course, [])
    else Reading.fail .asynchronousEntity
  | fuel + 1, course, s =>
    if setup.isDocument && s == ['\r'] then Reading.failAt .noElement s
    else
      match scanContent setup.isDocument s with
      | .error (.invalid place) => Reading.failAt .invalidToken place
      | .error .unfinished => Reading.failAt .unclosedToken s
      | .ok (part, rest) => do
        if setup.isDocument then Reading.advance rest
        let (course, rest) ← (readPart setup s course part rest).placing (·.orAt s)
        if setup.isDocument && course.stack.isEmpty then return (course, rest)
        else readContent setup fuel course rest

/-- Adds what an entity stands for to content; `depth` bounds the nesting, and `within` holds the
entities that are being replaced. Errors have no place but the one of the reference. -/
def expandEntity (d : Declarations) : (depth : Nat) → (within : List (List Char)) → Expansion
  | 0, _, _, _ => Reading.fail .recursiveEntity
  | depth + 1, within, name, course => do
    match predefined.lookup name with
    | some c =>
      modify fun b => { b with added := b.added + 1 }
      return course.pushText [c]
    | none =>
      match d.entities.lookup name with
      | none =>
        if d.mayHide then Reading.fail (.unreadEntity ('&' :: name ++ [';']))
        else Reading.fail .undefinedEntity
      | some (.external true) => Reading.fail .binaryEntity
      | some (.external false) => Reading.fail (.unreadEntity ('&' :: name ++ [';']))
      | some (.internal text size) =>
        if within.contains name then Reading.fail .recursiveEntity
        else
          Reading.charge size
          let within := name :: within
          let inner : Course := { course with stack := [] }
          let (inner, _) ← (readContent ⟨d, expandEntity d depth within, within⟩ (text.length + 1)
            inner text).placing Malformed.placeless
          return { inner with stack := course.stack }

/-- The events of the outermost element of a document, and the text after it. -/
def readOutermost (d : Declarations) (s : List Char) : Reading (List Event × List Char) := do
  let setup : Setup := ⟨d, expandEntity d (d.entities.length + 1) [], []⟩
  let (course, rest) ← readContent setup (s.length + 1) { scope := .initial } s
  return (course.events.reverse, rest)

end ModuleAudit.Markup
