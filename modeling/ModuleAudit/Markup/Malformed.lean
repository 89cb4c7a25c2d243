/-!
# Documents that are not well-formed

Why a document is not well-formed, and where. A place in a document is the text from there to its
end, so that it needs no counting until someone asks for a line and a column.
-/

namespace ModuleAudit.Markup

/-- Why a document is not well-formed. -/
inductive Cause
  | invalidToken
  | unclosedToken
  | unclosedSection
  | noElement
  | junkAfterElement
  | mismatchedTag
  | duplicateAttribute
  | misplacedDeclaration
  | badDeclaration
  | invalidCharacterNumber
  | undefinedEntity
  /-- An entity that may be declared where it is not read, as it is referred to. -/
  | unreadEntity (reference : List Char)
  | recursiveEntity
  | asynchronousEntity
  | binaryEntity
  | externalEntityInAttribute
  | parameterReference
  | badPublicId
  | grammar
  | unboundPrefix
  | undeclaredPrefix
  | reservedXml
  | reservedXmlns
  | reservedName
  /-- Entities make the document much longer than it is. -/
  | amplification
  deriving DecidableEq, Repr

/-- How many bytes of a reference are shown. -/
def shownReference : Nat := 100

/-- The characters at the front of a text that fit into a number of bytes, with a mark for a
character that fits in part. -/
def cutBytes : (room : Nat) → List Char → List Char
  | _, [] => []
  | room, c :: rest =>
    if c.utf8Size ≤ room then c :: cutBytes (room - c.utf8Size) rest
    else if room == 0 then [] else ['\ufffd']

/-- What a cause is called. -/
def Cause.message : Cause → String
  | invalidToken => "not well-formed (invalid token)"
  | unclosedToken => "unclosed token"
  | unclosedSection => "unclosed CDATA section"
  | noElement => "no element found"
  | junkAfterElement => "junk after document element"
  | mismatchedTag => "mismatched tag"
  | duplicateAttribute => "duplicate attribute"
  | misplacedDeclaration => "XML or text declaration not at start of entity"
  | badDeclaration => "XML declaration not well-formed"
  | invalidCharacterNumber => "reference to invalid character number"
  | undefinedEntity => "undefined entity"
  | unreadEntity reference =>
    "undefined entity " ++ String.ofList (cutBytes shownReference reference)
  | recursiveEntity => "recursive entity reference"
  | asynchronousEntity => "asynchronous entity"
  | binaryEntity => "reference to binary entity"
  | externalEntityInAttribute => "reference to external entity in attribute"
  | parameterReference => "illegal parameter entity reference"
  | badPublicId => "illegal character(s) in public id"
  | grammar => "syntax error"
  | unboundPrefix => "unbound prefix"
  | undeclaredPrefix => "must not undeclare prefix"
  | reservedXml => "reserved prefix (xml) must not be undeclared or bound to another namespace name"
  | reservedXmlns => "reserved prefix (xmlns) must not be declared or undeclared"
  | reservedName => "prefix must not be bound to one of the reserved namespace names"
  | amplification => "limit on input amplification factor (from DTD and entities) breached"

/-- Why a text is not well-formed, and from where on; with no place of its own, the place is that of
the part in which the text stands. -/
structure Malformed where
  cause : Cause
  place : Option (List Char) := none
  deriving DecidableEq, Repr

/-- The text is not well-formed at a place. -/
def failAt {α : Type} (cause : Cause) (place : List Char) : Except Malformed α :=
  .error ⟨cause, some place⟩

/-- The part at hand is not well-formed. -/
def fail {α : Type} (cause : Cause) : Except Malformed α := .error ⟨cause, none⟩

namespace Malformed

/-- Gives an error without a place the place of the part it is in. -/
def orAt (e : Malformed) (place : List Char) : Malformed :=
  { e with place := some (e.place.getD place) }

/-- Takes an error's place away, which lies in the text of an entity. -/
def placeless (e : Malformed) : Malformed := { e with place := none }

end Malformed

end ModuleAudit.Markup
