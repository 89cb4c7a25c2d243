import ModuleAudit.Markup.Element
import ModuleAudit.Text.Blank

/-!
# Poms

`Pom.parse` reads what the checks need of a pom: the modules it lists, the plugins it configures or
manages, and the dependencies that its project declares directly. Namespaces do not matter.
-/

namespace ModuleAudit

open ModuleAudit.Markup (Element Malformed)

/-- A dependency of a project. -/
structure Dependency where
  group : String
  artifact : String
  version : Option String
  deriving DecidableEq, Repr

/-- What the checks need of a pom. -/
structure Pom where
  modules : List String
  plugins : List String
  dependencies : List Dependency
  deriving DecidableEq, Repr

namespace Pom

/-- The text of an element without the blanks around it; empty if there is no element. -/
def textOf (e : Option Element) : String := String.ofList (Text.trim ((e.map (·.text)).getD []))

/-- The text of the first child with a name. -/
def childText (e : Element) (name : String) : String := textOf (e.child? name)

/-- A text, unless it is empty. -/
def nonEmpty (s : String) : Option String := if s.isEmpty then none else some s

/-- The dependency that an element declares. -/
def dependencyOf (e : Element) : Dependency :=
  ⟨childText e "groupId", childText e "artifactId", nonEmpty (childText e "version")⟩

/-- What the checks need of a pom with an outermost element. -/
def ofElement (root : Element) : Pom where
  modules := root.all.filterMap fun e =>
    if e.tag == "module".toList then nonEmpty (textOf (some e)) else none
  plugins := root.all.filterMap fun e =>
    if e.tag == "plugin".toList then (e.child? "artifactId").map fun a => textOf (some a) else none
  dependencies :=
    ((root.childrenNamed "dependencies").flatMap (·.childrenNamed "dependency")).map dependencyOf

/-- What the checks need of the pom that a text spells. -/
def parse (s : List Char) : Except Malformed Pom := (Element.parse s).map ofElement

end Pom

end ModuleAudit
