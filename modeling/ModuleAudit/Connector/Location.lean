import ModuleAudit.Inspection.Basic

/-!
# Finding the files of a module

`FileSet.locate` gathers the files of a module from the disk. The connector class is the first file
in path order whose name ends as a connector's does; the Java files around it are its helpers, and
all other files are optional.
-/

namespace ModuleAudit.FileSet

/-- Where a module keeps its connector class. -/
def sourceDirectory (m : Module) : Path := m.directory.child "src/main/java/io/supaflow/connector"

/-- Where a module keeps its tests. -/
def testDirectory (m : Module) : Path := m.directory.child "src/test"

/-- Whether the name of a file has an ending. -/
def hasEnding (ending : String) (p : Path) : Bool := ending.toList.isSuffixOf p.name.toList

/-- The files below a directory whose names have an ending, in path order. -/
def filesWith (d : Disk) (directory : Path) (ending : String) : List (Path × List UInt8) :=
  (d.filesBelow directory).filter fun (p, _) => hasEnding ending p

/-- The connector class below a directory. Of several the first in path order counts. -/
def findPrimary (directory : Path) : Inspect (Option (Path × List UInt8)) := do
  if ← Inspect.hasDirectory directory then
    match filesWith (← read).disk directory "Connector.java" with
    | [] => return none
    | [file] => return some file
    | file :: others =>
      Inspect.log .info .fileSearch
        s!"{others.length + 1} connector files found, using {file.1.name}"
      return some file
  else return none

/-- The integration test below a directory. -/
def findIntegrationTest (directory : Path) : Inspect (Option (Path × List UInt8)) := do
  if ← Inspect.hasDirectory directory then
    return (filesWith (← read).disk directory "ConnectorIT.java").head?
  else return none

/-- A Java file as it lies on the disk. -/
def sourceOf (file : Path × List UInt8) : Java.Source := .ofText file.1 (Disk.textOf file.2)

/-- The text of a file, if there is a file to read. -/
def readOptional (d : Disk) (p : Path) : Option TextFile :=
  (d.read p).toOption.map fun bytes => ⟨p, Disk.textOf bytes⟩

/-- The files of a module. A module without a connector class is a fault. -/
def locate (m : Module) : Inspect FileSet := do
  if !(← Inspect.hasDirectory m.directory) then
    Inspect.fault (.invocation (.moduleMissing m.directory))
  else
    match ← findPrimary (sourceDirectory m) with
    | none => Inspect.fault (.invocation (.sourceMissing (sourceDirectory m)))
    | some primary =>
      Inspect.log .info .fileSearch ("primary file: " ++ primary.1.toString)
      let disk := (← read).disk
      let package := primary.1.parent
      let helpers := (filesWith disk package ".java").filter (·.1 != primary.1)
      Inspect.log .debug .fileSearch s!"{helpers.length} helper file(s) under {package.toString}"
      let test ← findIntegrationTest (testDirectory m)
      if test.isNone then
        Inspect.log .info .fileSearch
          ("no integration test file under " ++ (testDirectory m).toString)
      return {
        module := m
        primary := sourceOf primary
        helpers := helpers.map sourceOf
        integrationTest := test.map sourceOf
        manifest := readOptional disk (m.directory.child "pom.xml")
        resource := readOptional disk (m.directory.child "src/main/resources/version.properties")
        parentManifest := readOptional disk (m.root.child "pom.xml") }

end ModuleAudit.FileSet
