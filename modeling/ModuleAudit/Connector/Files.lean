import ModuleAudit.Java.Annotation

/-!
# The files of a connector module

A connector module is a directory below the root of a platform checkout. `FileSet` holds the files
that the checks look at: the Java files and the text of the module's other files, as far as they
exist.
-/

namespace ModuleAudit

/-- A connector module of a platform checkout. -/
structure Module where
  root : Path
  name : String
  deriving DecidableEq, Repr

namespace Module

/-- The directory of the module, as it is written below the root. -/
def relativeDir (m : Module) : String := "connectors/supaflow-connector-" ++ m.name

/-- The directory of the module. -/
def directory (m : Module) : Path := m.root.child m.relativeDir

end Module

/-- A file with its text. -/
structure TextFile where
  path : Path
  text : List Char
  deriving DecidableEq, Repr

/-- The files of a connector module. -/
structure FileSet where
  module : Module
  /-- The connector class. -/
  primary : Java.Source
  /-- The other Java files beside it, in path order. -/
  helpers : List Java.Source := []
  integrationTest : Option Java.Source := none
  /-- The module's pom. -/
  manifest : Option TextFile := none
  /-- The file that tells the version. -/
  resource : Option TextFile := none
  /-- The pom of the checkout. -/
  parentManifest : Option TextFile := none

namespace FileSet

/-- The Java files of the module, the connector class first. -/
def sources (f : FileSet) : List Java.Source := f.primary :: f.helpers

/-- The first Java file of a kind. -/
def firstWith (f : FileSet) (p : Java.Source → Bool) : Option Java.Source := f.sources.find? p

end FileSet

end ModuleAudit
