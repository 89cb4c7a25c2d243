import ModuleAudit.Checks.Basic
import ModuleAudit.Connector.Pom

/-!
# Packaging of a module

The module's own files (101 to 104), its registration in the checkout and the build (401, 402), and
the versions that its pom must leave to the parent (403, 404).
-/

namespace ModuleAudit.Packaging

open ModuleAudit.Java (Source)
open ModuleAudit.Check (listed)

/-! ## Poms -/

/-- Where a place in a document is, for people: its line and its column. -/
def placeOf (document place : List Char) : String :=
  let before := Text.foldLineEnds (document.take (document.length - place.length))
  let line := before.count '\n' + 1
  let column := (before.reverse.takeWhile (· != '\n')).length
  s!"line {line}, column {column}"

/-- What is said about a document that is not well-formed. -/
def malformedText (document : List Char) (e : Markup.Malformed) : String :=
  let units := Markup.Units.ofDocument document
  e.cause.message ++ ": " ++ placeOf units.chars (e.place.getD [])

/-- What the checks need of a pom; a pom that is not well-formed leaves a log line. -/
def readPom (f : TextFile) : Inspect (Option Pom) :=
  match Pom.parse f.text with
  | .ok pom => return some pom
  | .error e => do
    Inspect.log .debug .poms ("pom.xml is not well-formed: " ++ malformedText f.text e)
    return none

/-- The entry of a module in a pom that is not well-formed. -/
def moduleEntry (entry : String) : Pattern :=
  .sequence [.word "<module>", .gap, .word entry, .gap, .word "</module>"]

/-- Whether a parent pom lists a module, by its tree or, if it has none, by its text. -/
def lists (entry : String) (text : List Char) (pom : Option Pom) : Bool :=
  match pom with
  | some pom => pom.modules.contains entry
  | none => (moduleEntry entry).found text

/-- Whether the parent pom lists the module; nothing if there is no parent pom. -/
def registered? (f : FileSet) : Option Bool :=
  f.parentManifest.map fun parent =>
    lists f.module.relativeDir parent.text (Pom.parse parent.text).toOption

/-- `registered?`, with a log line for a pom that is not well-formed. -/
def readRegistration (f : FileSet) : Inspect (Option Bool) := do
  match f.parentManifest with
  | none => return none
  | some parent => return some (lists f.module.relativeDir parent.text (← readPom parent))

/-- A check of the module's pom, which has to be there and well-formed. -/
def ofManifest (check : Pom → Verdict) : Check := fun f _ => do
  match f.manifest with
  | none => return .skip "no module pom.xml to inspect"
  | some manifest =>
    match ← readPom manifest with
    | none => return .warn "module pom.xml is not well-formed XML"
    | some pom => return check pom

/-! ## The module's own files -/

/-- Where the version file of a module is. -/
def resourcePath : String := "src/main/resources/version.properties"

/-- The entry of the version file. -/
def versionEntry : Pattern :=
  .sequence [.lineStart, .gap, .word "connector.version", .gap, .exactly '=']

/-- The module has a file that tells its version. -/
def versionDescriptor : Check := .ofFiles fun f =>
  match f.resource with
  | none => .violation ("missing " ++ resourcePath)
  | some file =>
    if versionEntry.found file.text then .ok "found version.properties with connector.version"
    else .warn "version.properties has no 'connector.version=' entry"

/-- The module has a pom. -/
def moduleManifest : Check := .ofFiles fun f =>
  match f.manifest with
  | none => .violation ("missing pom.xml in " ++ f.module.relativeDir)
  | some _ => .ok "found pom.xml"

/-- The module is packed with its dependencies. -/
def shadePlugin : Check := ofManifest fun pom =>
  if pom.plugins.contains "maven-shade-plugin" then .ok "found maven-shade-plugin"
  else .violation "maven-shade-plugin is not configured; the uber-jar will be missing dependencies"

/-- What the build leaves behind is not under version control. -/
def buildArtifacts : Check := fun f _ => do
  if ← Inspect.hasDirectory (f.module.directory.child "target") then
    match ← trackedPaths f.module.root (f.module.relativeDir ++ "/target") with
    | .error reason => return .warn ("target/ exists but git could not be queried: " ++ reason)
    | .ok [] => return .ok "target/ exists but is not tracked by git"
    | .ok tracked =>
      return .violation s!"target/ is committed to git ({tracked.length} tracked file(s))"
  else return .ok "no target/ directory (clean checkout)"

/-! ## Registration and build -/

/-- The parent pom lists the module. -/
def parentRegistration : Check := fun f _ => do
  match ← readRegistration f with
  | none =>
    return .warn ("parent pom.xml not found at " ++ (f.module.root.child "pom.xml").toString)
  | some true => return .ok "registered in parent pom.xml"
  | some false =>
    return .violation ("<module>" ++ f.module.relativeDir ++
      "</module> is missing from the parent pom.xml; " ++
      "root builds and agent deployments will skip this connector")

/-- The module compiles, if the run is asked to find out. -/
def reactorBuild : Check := fun f settings => do
  if settings.buildCheck then
    match ← readRegistration f with
    | some true =>
      let built ←
        compileModule f.module.root f.module.relativeDir settings.buildCommand settings.buildTimeout
      if built.succeeded then return .ok built.reason
      else
        Inspect.log .warning .buildChecks ("reactor build: " ++ built.reason)
        return .warn built.reason
    | _ => return .skip "module is not registered in the parent pom.xml"
  else return .skip "build verification disabled"

/-! ## Versions -/

/-- The artifacts whose versions the parent pom sets. -/
def managedArtifacts : List String := ["commons-codec", "commons-io", "opencsv", "slf4j-api"]

/-- The group of the platform's own modules. -/
def internalGroup : String := "io.supaflow"

/-- The module sets no version that the parent pom sets. -/
def managedVersions : Check := ofManifest fun pom =>
  let pinned := pom.dependencies.filterMap fun d =>
    if managedArtifacts.contains d.artifact then d.version.map fun v => d.artifact ++ ": " ++ v
    else none
  if pinned.isEmpty then .ok "parent-managed dependencies inherit their versions"
  else .violation ("hard-coded versions for parent-managed dependencies: " ++ listed pinned)

/-- The module sets no version of the platform's own modules. -/
def internalVersions : Check := ofManifest fun pom =>
  let pinned := pom.dependencies.filterMap fun d =>
    if d.group == internalGroup && d.version.isSome then some d.artifact else none
  if pinned.isEmpty then .ok "internal modules inherit $\x7bproject.version\x7d"
  else .violation (internalGroup ++ " dependencies declare explicit versions: " ++ listed pinned)

end ModuleAudit.Packaging
