import ModuleAudit.Markup.Entity

/-!
# What may stand before the outermost element

The prolog of a document is a row of `Word`s. `Expecting` tells what has been read of a declaration
and what may come next, and `Expecting.next` what a word leads to: the next expectation and what the
word declares. A word that nothing expects is an error of grammar.
-/

namespace ModuleAudit.Markup

/-- A word of a prolog. -/
inductive Word
  | space
  | comment
  | instruction
  /-- The declaration at the start of a document. -/
  | xmlDeclaration
  | byteOrderMark
  /-- The start of the outermost element. -/
  | element
  /-- The start of a declaration, with its keyword. -/
  | declaration (keyword : List Char)
  /-- The start of a section that is read on a condition. -/
  | conditional
  /-- The end of such a section. -/
  | conditionalEnd
  | close
  | openBracket
  | closeBracket
  | openParen
  /-- A closing parenthesis and the sign after it. -/
  | closeParen (sign : Option Char)
  | bar
  | comma
  | percent
  | parameterReference
  /-- A name, and whether a colon stands in it. -/
  | name (n : List Char) (hasPrefix : Bool)
  /-- Characters of names that do not make up a name. -/
  | nameToken
  /-- A name with a sign of repetition after it. -/
  | repeated
  /-- A name after a number sign. -/
  | marker (n : List Char)
  /-- A text between quotes, and the text from behind the first quote on. -/
  | literal (written place : List Char)
  deriving DecidableEq, Repr

/-- What is known of the attribute that is being declared. -/
structure AttributeSoFar where
  element : QualifiedName
  name : QualifiedName
  inWords : Bool
  identifies : Bool
  deriving Repr

/-- Where the place of something outside the document may be told. -/
inductive ExternalUse
  /-- The document type. -/
  | doctype
  /-- An entity, with its name, or a parameter entity. -/
  | entity (name : Option (List Char))
  deriving Repr

/-- The signs that part the groups of a model that are open, innermost first. -/
abbrev Groups := List (Option Word)

/-- What may come next. -/
inductive Expecting
  /-- The document, from its first character on. -/
  | document
  /-- The document type or the outermost element. -/
  | doctypeOrElement
  /-- The outermost element. -/
  | element
  | doctypeName
  /-- What follows the name of the document type. -/
  | doctypeDetails
  /-- The declarations between brackets, or the end. -/
  | doctypeBody
  | doctypeEnd
  /-- A declaration between brackets. -/
  | subset
  | publicId (use : ExternalUse)
  | systemId (use : ExternalUse)
  /-- The name of an entity, or the sign of a parameter entity. -/
  | entityName
  | parameterName
  /-- What an entity stands for. -/
  | entityValue (name : Option (List Char))
  /-- The end of an entity, or its notation. -/
  | entityFormat (name : List Char)
  | entityNotation (name : List Char)
  | notationName
  | notationPlace
  | notationPublicId
  | notationSystemId
  /-- The place of a notation after its public identifier, or the end. -/
  | notationRest
  | rulesElement
  /-- An attribute of an element, or the end. -/
  | ruleName (element : QualifiedName)
  | ruleKind (a : AttributeSoFar)
  | choice (a : AttributeSoFar)
  | choiceEnd (a : AttributeSoFar)
  | notationChoices (a : AttributeSoFar)
  | notationChoice (a : AttributeSoFar)
  | notationChoiceEnd (a : AttributeSoFar)
  | ruleDefault (a : AttributeSoFar)
  | fixedValue (a : AttributeSoFar)
  | modelElement
  | model
  /-- The first part of the outermost group. -/
  | modelStart
  /-- What follows the mark for text. -/
  | mixedStart
  | mixedName
  | mixedRest
  /-- A part of a group. -/
  | part (groups : Groups)
  /-- What follows a part of a group. -/
  | partRest (groups : Groups)
  /-- The end of a declaration. -/
  | close
  deriving Repr

/-- What a word declares. -/
inductive Declared
  | nothing
  | xmlDeclaration
  /-- A document type from outside, which is not read. -/
  | doctypeOutside
  /-- A public identifier, whose characters are to be checked. -/
  | publicId (written place : List Char)
  /-- A reference to a parameter entity, which is not followed. -/
  | unreadReference
  /-- A text that an entity stands for; a parameter entity has no name here. -/
  | entityText (name : Option (List Char)) (written place : List Char)
  | entityOutside (name : List Char) (binary : Bool)
  /-- An attribute, with its default value if it has one. -/
  | attributeRule (a : AttributeSoFar) (value : Option (List Char × List Char))
  /-- The start of the outermost element. -/
  | element
  deriving Repr

/-- What a word leads to. -/
abbrev Step := Expecting × Declared

/-- A name of a declaration, parted at its colon. -/
def qualifiedName (n : List Char) : QualifiedName :=
  match n.span (· != ':') with
  | (first, ':' :: rest) => ⟨some first, rest⟩
  | _ => ⟨none, n⟩

/-- The kinds of attributes that have a name, besides that of plain text, and whether such an
attribute identifies elements. -/
def namedKinds : List (List Char × Bool) := [
  ("ID".toList, true), ("IDREF".toList, false), ("IDREFS".toList, false), ("ENTITY".toList, false),
  ("ENTITIES".toList, false), ("NMTOKEN".toList, false), ("NMTOKENS".toList, false)]

/-- What declarations begin with, and what they lead to. -/
def keywords : List (List Char × Expecting) := [
  ("ENTITY".toList, .entityName), ("ATTLIST".toList, .rulesElement), ("ELEMENT".toList, .modelElement),
  ("NOTATION".toList, .notationName)]

/-- What opens a group inside others. -/
def openGroup (groups : Groups) : Step := (.part (none :: groups), .nothing)

/-- What a sign between two parts of a group leads to; one group has one sign. -/
def separate (sign : Word) : Groups → Option Step
  | [] => none
  | known :: outer =>
    if known.all (· == sign) then some (.part (some sign :: outer), .nothing) else none

/-- What the end of a group leads to. -/
def closeGroup (groups : Groups) : Step :=
  (if groups.length ≤ 1 then .close else .partRest (groups.drop 1), .nothing)

/-- What a word after the kind of an attribute leads to. -/
def defaultStep (a : AttributeSoFar) : Word → Option Step
  | .marker n =>
    if n == "IMPLIED".toList || n == "REQUIRED".toList then
      some (.ruleName a.element, .attributeRule a none)
    else if n == "FIXED".toList then some (.fixedValue a, .nothing)
    else none
  | .literal written place => some (.ruleName a.element, .attributeRule a (some (written, place)))
  | _ => none

/-- What a word that tells the kind of an attribute leads to. -/
def kindStep (a : AttributeSoFar) : Word → Option Step
  | .name n false =>
    if n == "CDATA".toList then some (.ruleDefault { a with inWords := false }, .nothing)
    else if n == "NOTATION".toList then some (.notationChoices a, .nothing)
    else (namedKinds.lookup n).map fun identifies => (.ruleDefault { a with identifies }, .nothing)
  | .openParen => some (.choice a, .nothing)
  | _ => none

/-- What a word after `SYSTEM` or `PUBLIC` may come after leads to. -/
def placeStep (publicly locally : Expecting) (n : List Char) : Option Step :=
  if n == "SYSTEM".toList then some (locally, .nothing)
  else if n == "PUBLIC".toList then some (publicly, .nothing)
  else none

/-- What a word outside of declarations leads to. -/
def outerStep (mayHaveType : Bool) (here : Expecting) : Word → Option Step
  | .space => some (here, .nothing)
  | .comment => some (here, .nothing)
  | .instruction => some (here, .nothing)
  | .element => some (here, .element)
  | .declaration keyword =>
    if mayHaveType && keyword == "DOCTYPE".toList then some (.doctypeName, .nothing) else none
  | _ => none

namespace Expecting

/-- What a word other than white space leads to inside a declaration. -/
def nextInside : Expecting → Word → Option Step
  | .doctypeName, .name _ _ => some (.doctypeDetails, .nothing)
  | .doctypeDetails, .openBracket => some (.subset, .nothing)
  | .doctypeDetails, .close => some (.element, .nothing)
  | .doctypeDetails, .name n false => placeStep (.publicId .doctype) (.systemId .doctype) n
  | .doctypeBody, .openBracket => some (.subset, .nothing)
  | .doctypeBody, .close => some (.element, .nothing)
  | .doctypeEnd, .close => some (.element, .nothing)
  | .subset, .declaration keyword => (keywords.lookup keyword).map fun e => (e, .nothing)
  | .subset, .comment => some (.subset, .nothing)
  | .subset, .instruction => some (.subset, .nothing)
  | .subset, .parameterReference => some (.subset, .unreadReference)
  | .subset, .closeBracket => some (.doctypeEnd, .nothing)
  | .publicId use, .literal written place => some (.systemId use, .publicId written place)
  | .systemId .doctype, .literal _ _ => some (.doctypeBody, .doctypeOutside)
  | .systemId (.entity (some name)), .literal _ _ => some (.entityFormat name, .nothing)
  | .systemId (.entity none), .literal _ _ => some (.close, .nothing)
  | .entityName, .percent => some (.parameterName, .nothing)
  | .entityName, .name n false => some (.entityValue (some n), .nothing)
  | .parameterName, .name _ false => some (.entityValue none, .nothing)
  | .entityValue name, .literal written place => some (.close, .entityText name written place)
  | .entityValue name, .name n false =>
    placeStep (.publicId (.entity name)) (.systemId (.entity name)) n
  | .entityFormat name, .close => some (.subset, .entityOutside name false)
  | .entityFormat name, .name n false =>
    if n == "NDATA".toList then some (.entityNotation name, .nothing) else none
  | .entityNotation name, .name _ false => some (.close, .entityOutside name true)
  | .notationName, .name _ false => some (.notationPlace, .nothing)
  | .notationPlace, .name n false => placeStep .notationPublicId .notationSystemId n
  | .notationPublicId, .literal written place => some (.notationRest, .publicId written place)
  | .notationSystemId, .literal _ _ => some (.close, .nothing)
  | .notationRest, .literal _ _ => some (.close, .nothing)
  | .notationRest, .close => some (.subset, .nothing)
  | .rulesElement, .name n _ => some (.ruleName (qualifiedName n), .nothing)
  | .ruleName _, .close => some (.subset, .nothing)
  | .ruleName e, .name n _ => some (.ruleKind ⟨e, qualifiedName n, true, false⟩, .nothing)
  | .ruleKind a, w => kindStep a w
  | .choice a, .name _ _ => some (.choiceEnd a, .nothing)
  | .choice a, .nameToken => some (.choiceEnd a, .nothing)
  | .choiceEnd a, .closeParen none => some (.ruleDefault a, .nothing)
  | .choiceEnd a, .bar => some (.choice a, .nothing)
  | .notationChoices a, .openParen => some (.notationChoice a, .nothing)
  | .notationChoice a, .name _ false => some (.notationChoiceEnd a, .nothing)
  | .notationChoiceEnd a, .closeParen none => some (.ruleDefault a, .nothing)
  | .notationChoiceEnd a, .bar => some (.notationChoice a, .nothing)
  | .ruleDefault a, w => defaultStep a w
  | .fixedValue a, .literal written place =>
    some (.ruleName a.element, .attributeRule a (some (written, place)))
  | .modelElement, .name _ _ => some (.model, .nothing)
  | .model, .name n false =>
    if n == "EMPTY".toList || n == "ANY".toList then some (.close, .nothing) else none
  | .model, .openParen => some (.modelStart, .nothing)
  | .modelStart, .marker n => if n == "PCDATA".toList then some (.mixedStart, .nothing) else none
  | .modelStart, .openParen => some (openGroup [none])
  | .modelStart, .name _ _ => some (.partRest [none], .nothing)
  | .modelStart, .repeated => some (.partRest [none], .nothing)
  | .mixedStart, .closeParen none => some (.close, .nothing)
  | .mixedStart, .closeParen (some '*') => some (.close, .nothing)
  | .mixedStart, .bar => some (.mixedName, .nothing)
  | .mixedName, .name _ _ => some (.mixedRest, .nothing)
  | .mixedRest, .closeParen (some '*') => some (.close, .nothing)
  | .mixedRest, .bar => some (.mixedName, .nothing)
  | .part groups, .openParen => some (openGroup groups)
  | .part groups, .name _ _ => some (.partRest groups, .nothing)
  | .part groups, .repeated => some (.partRest groups, .nothing)
  | .partRest groups, .closeParen _ => some (closeGroup groups)
  | .partRest groups, .comma => separate .comma groups
  | .partRest groups, .bar => separate .bar groups
  | .close, .close => some (.subset, .nothing)
  | _, _ => none

/-- What a word leads to; nothing if it is not expected. -/
def next (here : Expecting) (w : Word) : Option Step :=
  match here, w with
  | .document, .byteOrderMark => some (.document, .nothing)
  | .document, .xmlDeclaration => some (.doctypeOrElement, .xmlDeclaration)
  | .document, w => outerStep true .doctypeOrElement w
  | .doctypeOrElement, w => outerStep true .doctypeOrElement w
  | .element, w => outerStep false .element w
  | here, .space => some (here, .nothing)
  | here, w => here.nextInside w

end Expecting

end ModuleAudit.Markup
