import ModuleAudit.Markup.Content
import ModuleAudit.Markup.Encoding
import ModuleAudit.Markup.Prolog

/-!
# Elements

`Element.parse` reads a document as a tree of elements. Of a name only the local part is kept. The
text of an element is what stands before its first child. A document that is not well-formed has a
first place where it is not.
-/

namespace ModuleAudit.Markup

/-- An element of a document. -/
inductive Element
  | mk (tag : List Char) (text : List Char) (children : List Element)
  deriving Repr, Inhabited

namespace Element

/-- The local name of the element. -/
def tag : Element → List Char
  | mk tag _ _ => tag

/-- The text before the first child. -/
def text : Element → List Char
  | mk _ text _ => text

/-- The elements directly inside. -/
def children : Element → List Element
  | mk _ _ children => children

mutual

/-- Whether two elements are the same. -/
def decEq : (a b : Element) → Decidable (a = b)
  | mk tag text children, mk tag' text' children' =>
    match decEqList children children' with
    | .isTrue same => decidable_of_iff (tag = tag' ∧ text = text') (by simp [same])
    | .isFalse differ => .isFalse (by simp [differ])

/-- Whether two lists hold the same elements. -/
def decEqList : (as bs : List Element) → Decidable (as = bs)
  | [], [] => .isTrue rfl
  | [], _ :: _ => .isFalse nofun
  | _ :: _, [] => .isFalse nofun
  | a :: as, b :: bs =>
    match decEq a b, decEqList as bs with
    | .isTrue same, .isTrue others => .isTrue (by rw [same, others])
    | .isFalse differ, _ => .isFalse (by simp [differ])
    | _, .isFalse differ => .isFalse (by simp [differ])

end

instance : DecidableEq Element := decEq

mutual

/-- The element and all elements inside, in the order of the document. -/
def all (e : Element) : List Element :=
  match e with
  | mk tag text children => mk tag text children :: allOf children

/-- The elements of a list and all elements inside. -/
def allOf : List Element → List Element
  | [] => []
  | e :: es => all e ++ allOf es

end

/-- The first child with a local name. -/
def child? (e : Element) (name : String) : Option Element := e.children.find? (·.tag == name.toList)

/-- The children with a local name. -/
def childrenNamed (e : Element) (name : String) : List Element :=
  e.children.filter (·.tag == name.toList)

end Element

/-! ## Documents -/

/-- Makes sure that only comments, instructions and white space follow the outermost element. At
most `fuel` words. -/
def checkRest : (fuel : Nat) → List Char → Except Malformed Unit
  | 0, _ => .ok ()
  | _ + 1, [] => .ok ()
  | fuel + 1, s =>
    match scanWord s with
    | .error (.invalid place) => failAt .invalidToken place
    | .error .unfinished => failAt .unclosedToken s
    | .ok (.space, rest) => checkRest fuel rest
    | .ok (.comment, rest) => checkRest fuel rest
    | .ok (.instruction, rest) => checkRest fuel rest
    | .ok _ => failAt .junkAfterElement s

/-- The first word of a document, where it differs from other words: a mark for the order of bytes,
or a character that no document starts with. -/
def skipMark (document : List Char) : Except Malformed (List Char) :=
  match document with
  | '\ufeff' :: rest => .ok rest
  | ['\x00'] => failAt .unclosedToken document
  | s => .ok s

/-- The events of a document. -/
def eventsOf (document : List Char) : Except Malformed (List Event) := do
  let s ← skipMark document
  let budget : Budget := { size := byteLength document, rest := document }
  let reading : Reading (List Event × List Char) := do
    let (d, s) ← Prolog.read (s.length + 1) {} s
    readOutermost d s
  let ((events, rest), _) ← reading.run budget
  checkRest (rest.length + 1) rest
  return events

/-! ## The tree -/

/-- An element that is open: its name, its text, last part first, and its children, last first. -/
structure Unfinished where
  tag : List Char
  text : List String
  children : List Element

/-- Adds text to the innermost open element, unless it has a child already. -/
def addText (s : String) : List Unfinished → List Unfinished
  | top :: below =>
    (if top.children.isEmpty then { top with text := s :: top.text } else top) :: below
  | [] => []

/-- The element that is finished. -/
def Unfinished.element (u : Unfinished) : Element :=
  .mk u.tag (u.text.foldl (fun after s => s.toList ++ after) []) u.children.reverse

/-- Builds the element whose tags the events are; `stack` holds the open elements, innermost
first. -/
def build (stack : List Unfinished) : List Event → Except Malformed Element
  | [] => fail .noElement
  | .opening name :: rest => build (⟨name, [], []⟩ :: stack) rest
  | .text s :: rest => build (addText s stack) rest
  | .closing :: rest =>
    match stack with
    | [] => fail .asynchronousEntity
    | top :: below =>
      match below with
      | [] => .ok top.element
      | next :: below =>
        build ({ next with children := top.element :: next.children } :: below) rest

/-- The outermost element of a document. -/
def Element.parse (document : List Char) : Except Malformed Element := do
  let units := Units.ofDocument document
  build [] (← units.finish (eventsOf units.chars))

end ModuleAudit.Markup
