import ModuleAudit.Markup.Entity

/-!
# Namespaces

Attributes bind prefixes to namespaces for an element and what is inside it. `Scope.enter` gives the
prefixes that are in use inside a tag: each attribute is given once, each prefix that is used is
bound, and the reserved prefixes and namespaces stay what they are.
-/

namespace ModuleAudit.Markup

/-- The namespace of the prefix `xml`. -/
def xmlNamespace : String := "http://www.w3.org/XML/1998/namespace"

/-- The namespace of the prefix `xmlns`. -/
def xmlnsNamespace : String := "http://www.w3.org/2000/xmlns/"

/-- The prefixes in use, innermost first, each with its namespace. -/
abbrev Scope := List (List Char × String)

namespace Scope

/-- The prefix that is always there. -/
def initial : Scope := [("xml".toList, xmlNamespace)]

/-- The fault in binding a prefix (none for the default) to a namespace, if there is one. A closing
brace would end the namespace in the middle. -/
def bindingFault? (qualifier : Option (List Char)) (space : String) : Option Cause :=
  if qualifier.isSome && space.isEmpty then some .undeclaredPrefix
  else if qualifier == some "xmlns".toList then some .reservedXmlns
  else if space.toList.contains '\x7d' then some .grammar
  else if qualifier == some "xml".toList then
    if space == xmlNamespace then none else some .reservedXml
  else if space == xmlNamespace || space == xmlnsNamespace then some .reservedName
  else none

/-- The prefix that an attribute binds: `some none` for the default namespace. -/
def bindsPrefix? (name : QualifiedName) : Option (Option (List Char)) :=
  if name.qualifier == some "xmlns".toList then some (some name.localName)
  else if name == ⟨none, "xmlns".toList⟩ then some none
  else none

/-- The prefixes and the names with prefixes that the attributes of a tag have brought so far. -/
structure Entering where
  scope : Scope
  /-- Last first. -/
  prefixed : List QualifiedName := []

/-- Goes on with an attribute. -/
def Entering.add (e : Entering) (name : QualifiedName) (value : String) :
    Except Malformed Entering :=
  match bindsPrefix? name with
  | none => .ok (if name.qualifier.isSome then { e with prefixed := name :: e.prefixed } else e)
  | some qualifier =>
    match bindingFault? qualifier value with
    | some cause => fail cause
    | none =>
      match qualifier with
      | some p => .ok { e with scope := (p, value) :: e.scope }
      | none => .ok e

/-- The namespace of a prefix, which has to be in use. -/
def resolve (scope : Scope) (qualifier : List Char) : Except Malformed String :=
  match scope.lookup qualifier with
  | some space => .ok space
  | none => fail .unboundPrefix

/-- Makes sure that attributes with prefixes differ by namespace and local name. -/
def checkPrefixed (scope : Scope) (seen : List (String × List Char)) :
    List QualifiedName → Except Malformed Unit
  | [] => .ok ()
  | name :: rest => do
    let expanded := (← resolve scope (name.qualifier.getD []), name.localName)
    if seen.contains expanded then fail .duplicateAttribute
    else checkPrefixed scope (expanded :: seen) rest

/-- Goes on with the attributes that a tag gives. `folds` tells that the tag stands in the document,
and `within` holds the entities that are being replaced. -/
def addGiven (d : Declarations) (folds : Bool) (within : List (List Char)) (tag : Tag) :
    (seen : List QualifiedName) → Entering → List WrittenAttribute → Reading Entering
  | _, e, [] => return e
  | seen, e, a :: rest => do
    if seen.contains a.name then
      if folds then Reading.failAt .duplicateAttribute a.place else Reading.fail .duplicateAttribute
    else
      let inWords := ((d.rulesFor tag.name).find? (·.name == a.name)).any (·.inWords)
      if Value.needsRereading a.written && !tag.closed then
        let size := byteLength a.written
        if folds then modify fun b => { b with reread := b.reread + size }
        else Reading.charge size
      let toPlace (p : List Char) : List Char := a.valuePlace.drop (a.written.length - p.length)
      let value ← (Value.text d folds within inWords a.written).placing fun err =>
        { err with place := if folds then err.place.map toPlace else none }
      addGiven d folds within tag (a.name :: seen) (← e.add a.name value) rest

/-- Goes on with the values of attributes that are not given. -/
def addDefaults (seen : List QualifiedName) (e : Entering) :
    List AttributeRule → Except Malformed Entering
  | [] => .ok e
  | rule :: rest =>
    match rule.value with
    | none => addDefaults seen e rest
    | some value => do
      if seen.contains rule.name then addDefaults seen e rest
      else addDefaults (rule.name :: seen) (← e.add rule.name value) rest

/-- The prefixes in use inside a tag. -/
def enter (d : Declarations) (folds : Bool) (within : List (List Char)) (scope : Scope) (tag : Tag) :
    Reading Scope := do
  let e ← addGiven d folds within tag [] { scope } tag.attributes
  let e ← addDefaults (tag.attributes.map (·.name)) e (d.rulesFor tag.name)
  checkPrefixed e.scope [] e.prefixed.reverse
  match tag.name.qualifier with
  | none => return e.scope
  | some p => do
    let _ ← resolve e.scope p
    return e.scope

end Scope

end ModuleAudit.Markup
