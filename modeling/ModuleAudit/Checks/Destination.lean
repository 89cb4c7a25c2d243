import ModuleAudit.Checks.Basic
import ModuleAudit.Connector.Classification

/-!
# Writing records

What every destination needs (301 to 305), what a warehouse needs that stages files (311 to 317),
and what a destination behind an interface needs (321 to 328).
-/

namespace ModuleAudit.Destination

open ModuleAudit.Check (listed)
open ModuleAudit.Java (Source Method)
open ModuleAudit.Text (occursIn)

/-! ## What the checks look for -/

/-- The method that maps an object to the destination. -/
def mapping? (f : FileSet) : Option Method := f.primary.method? "mapToTargetObject" "ObjectMetadata"

/-- The first file that declares a method which loads. -/
def loadFile? (f : FileSet) : Option Source := f.firstWith (·.declares "load" "LoadResponse")

/-- The first file that declares a method which stages, with that method. -/
def staging? (f : FileSet) : Option (Source × Method) :=
  f.sources.findSome? fun s => (Classification.stageMethod? s).map (s, ·)

/-- The first file in whose code, literals included, one of some texts occurs. -/
def fileWith? (f : FileSet) (needles : List String) : Option Source :=
  f.firstWith (·.contains needles)

/-- A check that some file holds one of some texts. -/
def requireFile (needles : List String) (good problem : String) : Check := .ofFiles fun f =>
  match fileWith? f needles with
  | some s => .ok (good ++ s.name)
  | none => .violation problem

/-- A check of the file that loads. -/
def ofLoadFile (check : Source → Verdict) : Check := .ofFiles fun f =>
  match loadFile? f with
  | none => .skip "no load() to inspect"
  | some s => check s

/-- A check of the method that maps an object to the destination. -/
def ofMapping (check : FileSet → Method → Verdict) : Check := .ofFiles fun f =>
  match mapping? f with
  | none => .skip "no mapToTargetObject() to inspect"
  | some m => check f m

/-- Names of things that a condition does not hold for. -/
def missing (needs : List (String × Bool)) : List String :=
  needs.filterMap fun (need, met) => if met then none else some need

/-! ## Every destination -/

/-- The capabilities say how data is loaded. -/
def capabilities : Check := .ofFiles fun f =>
  if !f.primary.mentions ["getCapabilitiesConfig"] then
    .violation "missing getCapabilitiesConfig() for a destination"
  else
    match missing [
      ("loadModes", f.primary.mentions ["loadModes", "LoadMode"]),
      ("destinationTableHandling",
        f.primary.mentions ["destinationTableHandling", "DestinationTableHandling"])] with
    | [] => .ok "capabilities define load modes and table handling"
    | gaps => .warn ("capabilities do not define " ++ listed gaps)

/-- A use of the rules for names. -/
def namespaceUse : Pattern :=
  .oneOf [
    .sequence [
      .edge, .word "namespaceRules", .gap, .exactly '.', .gap, .oneOf [.word "get", .word "apply"],
      .most Text.isWord],
    .sequence [
      .edge, .oneOf [.word "getTableName", .word "getSchemaName", .word "getDatabaseName"], .gap,
      .exactly '(']]

/-- Objects are mapped to the destination by the rules for names. -/
def targetMapping : Check := .ofFiles fun f =>
  if (mapping? f).isNone then .violation "missing mapToTargetObject(); required for destinations"
  else if namespaceUse.found f.primary.bare then .ok "mapToTargetObject() applies NamespaceRules"
  else .violation "mapToTargetObject() does not apply NamespaceRules; pipeline prefix is lost"

/-- The columns by which the writer keeps track. -/
def trackingColumns : List String := ["_supa_synced", "_supa_sync_id", "_supa_deleted"]

/-- The mapping leaves the tracking columns to the writer. -/
def noTrackingColumns : Check := ofMapping fun _ m =>
  match trackingColumns.filter fun c => occursIn c.toList m.body with
  | [] => .ok "does not add _supa_* tracking columns"
  | added => .violation ("mapToTargetObject() adds tracking columns: " ++ listed added)

/-- A word about custom attributes. -/
def customAttribute : Pattern :=
  .oneOf (["setCustomAttributes", "customAttributes", "getCustomAttributes"].map fun w =>
    .sequence [.edge, .word w, .edge])

/-- The mapping keeps custom attributes. -/
def customAttributes : Check := ofMapping fun _ m =>
  if customAttribute.found m.bare then .ok "preserves customAttributes"
  else .violation "mapToTargetObject() may drop customAttributes (sync metadata)"

/-- A report of progress. -/
def progressReport : Pattern :=
  .oneOf [
    .sequence [.edge, .word "getCallback", .edge],
    .sequence [.exactly '.', .gap, .word "callback", .edge]]

/-- Loading reports progress and maps metadata. -/
def loading : Check := .ofFiles fun f =>
  match loadFile? f with
  | none => .violation "missing load(); required for destinations"
  | some s =>
    match missing [
      ("callback progress reporting", progressReport.found s.bare),
      ("metadata mapping", s.mentions ["getMetadataMapping", "getMappedMergedSourceMetadata"])] with
    | [] => .ok ("found load() in " ++ s.name)
    | gaps => .warn ("load() in " ++ s.name ++ " does not use " ++ listed gaps)

/-! ## Warehouses -/

/-- The capabilities say whether files are staged. -/
def stagingConfig : Check := .ofFiles fun f =>
  if f.primary.mentions ["supportsStaging", "requiresStaging"] then
    .ok "defines staging configuration"
  else .violation "warehouse destination does not define staging configuration"

/-- Loading minds the load mode. -/
def loadMode : Check := ofLoadFile fun s =>
  if s.mentions ["getLoadMode", "LoadMode"] then .ok ("load() in " ++ s.name ++ " handles LoadMode")
  else .violation ("load() in " ++ s.name ++ " ignores LoadMode")

/-- A file name made from a table name. -/
def tableFileName : Pattern :=
  .sequence [.edge, .word "tableName", .gap, .exactly '+', .gap, .word "\"_"]

/-- Staging picks the files that production writes. -/
def stageMethod : Check := .ofFiles fun f =>
  match staging? f with
  | none => .violation "warehouse destination has no stage() method"
  | some (s, stage) =>
    match missing [
      ("does not filter for success_part_*.csv", s.contains ["success_part_"]),
      ("looks for <table>_*.csv, which finds no files in production",
        !tableFileName.found stage.body)] with
    | [] => .ok ("stage() in " ++ s.name ++ " uses success_part_*.csv")
    | gaps => .violation ("stage() in " ++ s.name ++ " " ++ "; ".intercalate gaps)

/-- A statement that uploads to a stage. -/
def putStatement : Pattern :=
  .sequence [.edge, .word "PUT", .char Text.isBlank, .most (· != '\n'), .word "stage"]

/-- Staged files are loaded. -/
def stagingLoad : Check := .ofFiles fun f =>
  match fileWith? f ["COPY INTO", "executeCopyInto", "copyInto"] with
  | some s => .ok ("COPY INTO implemented in " ++ s.name)
  | none =>
    let staging := fileWith? f ["uploadToStage", "stageLocation"]
    match staging.or (f.firstWith (putStatement.found ·.code)) with
    | some s => .ok ("staging upload implemented in " ++ s.name)
    | none => .violation "no COPY INTO or staging upload implementation"

/-- Merging is implemented. -/
def merging : Check :=
  requireFile ["MERGE INTO", "executeMerge", "buildMergeSql"] "MERGE implemented in "
    "no MERGE implementation; LoadMode.MERGE is unsupported"

/-- A word that stands by itself. -/
def aloneWord (w : String) : Pattern := .sequence [.edge, .word w, .edge]

/-- The load modes, each with what shows that it is handled. -/
def loadModes : List (String × Pattern) := [
  ("APPEND", aloneWord "APPEND"),
  ("MERGE", .oneOf [
    .sequence [.edge, .word "LoadMode", .gap, .exactly '.', .gap, .word "MERGE", .edge],
    .sequence [.edge, .word "case", .blanks, .word "MERGE", .edge]]),
  ("OVERWRITE", aloneWord "OVERWRITE"),
  ("TRUNCATE_AND_LOAD", aloneWord "TRUNCATE_AND_LOAD")]

/-- Load modes are handled. -/
def loadModeVariants : Check := .ofFiles fun f =>
  match loadModes.filterMap fun (mode, shown) =>
    (f.firstWith (shown.found ·.bare)).map fun _ => mode with
  | [] => .violation "no LoadMode handling found"
  | handled => .ok ("handles " ++ listed handled)

/-- Tables are created, and perhaps altered. -/
def tableStatements : Check := .ofFiles fun f =>
  match fileWith? f ["CREATE TABLE", "createTable", "buildCreateTableSql"] with
  | none => .violation "no CREATE TABLE implementation"
  | some _ =>
    match fileWith? f ["ALTER TABLE", "alterTable", "buildAlterTableSql"] with
    | some _ => .ok "CREATE TABLE and ALTER TABLE (schema evolution) implemented"
    | none => .ok "CREATE TABLE implemented; no ALTER TABLE (schema evolution may be unsupported)"

/-! ## Destinations behind an interface -/

/-- The mapping carries the object of the interface. -/
def activationMapping : Check := ofMapping fun f _ =>
  if f.primary.mentions ["getActivationTarget", "activationTarget"] then
    .ok "mapToTargetObject() handles activation_target metadata"
  else .violation "activation destination does not handle activation_target in mapToTargetObject()"

/-- Loading reads the rows from where the pipeline left them. -/
def localDataPath : Check := ofLoadFile fun s =>
  if s.mentions ["getLocalDataPath", "localDataPath"] then
    .ok ("load() in " ++ s.name ++ " reads localDataPath")
  else .violation ("load() in " ++ s.name ++ " does not use localDataPath")

/-- Staging is refused. -/
def stageRejected : Check := .ofFiles fun f =>
  match staging? f with
  | none => .ok "no stage() method (correct for activation)"
  | some (_, stage) =>
    if Classification.rejects stage then .ok "stage() rejects with an exception"
    else .violation "activation destination should throw UnsupportedOperationException in stage()"

/-- The object of the interface is read. -/
def activationTarget : Check := .ofFiles fun f =>
  match f.firstWith (·.mentions ["getActivationTarget"]) with
  | some s => .ok ("reads activation_target in " ++ s.name)
  | none => .violation "missing metadata.getActivationTarget(); the destination object is unknown"

/-- Fields are mapped to fields of the interface. -/
def activationTargetField : Check :=
  requireFile ["getActivationTargetField", "activation_target_field"]
    "maps fields through activation_target_field in "
    "missing field.getActivationTargetField(); source fields are not mapped"

/-- Rows are matched by the selected keys. -/
def mergeKeys : Check :=
  requireFile ["getSelectedMergeKeys", "selected_merge_keys", "externalIdField", "mergeKeys"]
    "handles selected_merge_keys in " "missing selected_merge_keys handling for upserts"

/-- Rows that fail are reported. -/
def errorRecords : Check :=
  requireFile ["ErrorRecordProcessor", "errorRecordProcessor"] "reports per-record errors in "
    "no error record processor; per-record failures are not reported"

/-- Rows that are written are reported. -/
def successRecords : Check :=
  requireFile ["SuccessRecordProcessor", "successRecordProcessor"] "reports per-record successes in "
    "no success record processor"

end ModuleAudit.Destination
