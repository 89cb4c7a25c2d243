import ModuleAudit.Catalog.Loading

/-!
# The bundled catalog

The rules for connector modules. Rule ids are stable and never used again; the first digit of an id
is the number of the rule's group. `Catalog.bundledDocument` is a document like any other, so that
it takes the same way as a catalog of the caller's.
-/

namespace ModuleAudit.Catalog.Bundled

/-- An entry with some fields. -/
def entry (fields : List (String × Value)) : Value := .map (fields.map fun (k, v) => (.text k, v))

/-- The condition that a fact has a value, with the skip message for when it has not. -/
def onlyIf (fact : String) (value : Value) (skip : String) : List (String × Value) := [
  ("condition", entry [("fact", .text fact), ("op", .text "eq"), ("value", value)]),
  ("skip", .text skip)]

/-! ## Groups -/

/-- A group. -/
def group (id : String) (number : Int) (title : String) (more : List (String × Value) := []) :
    Value :=
  entry ([("id", .text id), ("number", .int number), ("title", .text title)] ++ more)

/-- The message for the rules about a capability that the connector has not. -/
def otherPurpose : String := "not applicable — \x7bpurpose\x7d"

/-- The id of the group on identity and build. -/
def identity : String := "identity"

/-- The id of the group on reading. -/
def source : String := "source"

/-- The id of the group on writing. -/
def destination : String := "destination"

/-- The id of the group on what all connectors share. -/
def crosscutting : String := "crosscutting"

/-- The groups. -/
def groups : List Value := [
  group identity 1 "Identity and build",
  group source 2 "Source capability" (onlyIf "capability.source" (.bool true) otherPurpose),
  group destination 3 "Destination capability" (onlyIf "capability.destination" (.bool true) otherPurpose),
  group crosscutting 4 "Cross-cutting"]

/-! ## Rules -/

/-- A rule. -/
def rule (id group title : String) (level : RuleLevel) (remediation : String)
    (more : List (String × Value) := []) : Value :=
  entry ([
    ("id", .text id), ("group", .text group), ("title", .text title), ("level", .text level.word),
    ("remediation", .text remediation)] ++ more)

/-- For a rule that a shared base class takes care of. -/
def inherited : List (String × Value) := [("inherited", .bool true)]

/-- For a rule that a connector without a shared base class has to follow. -/
def standaloneOnly : List (String × Value) :=
  onlyIf "delegation" (.text "standalone") "not applicable — base-delegated connector"

/-- For a rule that a connector with a shared base class has to follow. -/
def baseDelegatedOnly : List (String × Value) :=
  onlyIf "delegation" (.text "base_delegated") "not applicable — standalone connector"

/-- For a rule about destinations that stage files. -/
def warehouseOnly : List (String × Value) :=
  onlyIf "destination.subtype" (.text "warehouse") "not applicable — activation destination"

/-- For a rule about destinations behind an interface. -/
def activationOnly : List (String × Value) :=
  onlyIf "destination.subtype" (.text "activation") "not applicable — warehouse destination"

/-- The rules. -/
def rules : List Value := [
  rule "CHK-101" identity "Version descriptor" .error
    "Create src/main/resources/version.properties containing connector.version=$\x7bproject.version\x7d",
  rule "CHK-102" identity "Module pom.xml" .error
    "Add a pom.xml to the connector module",
  rule "CHK-103" identity "Shade plugin" .warning
    "Configure maven-shade-plugin so the connector ships as an uber-jar",
  rule "CHK-104" identity "Build artifacts not committed" .error
    "Run git rm -r --cached <module>/target and add target/ to .gitignore",
  rule "CHK-105" identity "Connector type identifier" .error
    "Return an identifier in SCREAMING_SNAKE_CASE from getType(), e.g. ORACLE_TM",
  rule "CHK-106" identity "Connector display name" .error
    "Return a display name made of letters, digits and spaces from getName()",
  rule "CHK-107" identity "Property field naming" .warning
    "Rename @Property fields to camelCase (sslMode, not ssl_mode)",
  rule "CHK-108" identity "Connector icon" .warning
    "Add an SVG icon to supaflow-www/public/connectors/",
  rule "CHK-109" identity "Capability tokens" .error
    "Use REPLICATION_SOURCE / REPLICATION_DESTINATION; READ, WRITE and SCHEMA_DISCOVERY do not exist",
  rule "CHK-110" identity "Property annotations" .error
    "Use only letters, digits and spaces in labels; use PropertyType.NUMERIC for numbers",
  rule "CHK-201" source "Record processor obtained" .error
    "Obtain the processor with request.getRecordProcessor()" inherited,
  rule "CHK-202" source "Records processed" .error
    "Call processor.processRecord(record, fields) for every record" inherited,
  rule "CHK-203" source "Processing completed" .error
    "Call processor.completeProcessing() (or getResult()) before building the response" inherited,
  rule "CHK-204" source "Sync state response" .error
    "Build the response with SyncStateResponseBuilder.fromProcessingResult(result, mode)" inherited,
  rule "CHK-205" source "Processor lifecycle owned by pipeline" .warning
    "Remove processor.close(); whoever creates the processor closes it",
  rule "CHK-206" source "Init response setters" .error
    "Use setDatasourceProductName() / setDatasourceProductVersion() instead of setStatus() / setMessage()"
    inherited,
  rule "CHK-207" source "Init response product details" .warning
    "Set product name and version on the init() response" inherited,
  rule "CHK-208" source "Lifecycle methods" .error
    "Implement setRuntimeContext(), init(), schema(), read() and close()" inherited,
  rule "CHK-209" source "Descriptor methods" .error
    "Implement getVersion() and getCapabilitiesConfig()" standaloneOnly,
  rule "CHK-210" source "Field metadata types" .error
    "Call setOriginalDataType() and setCanonicalType() on every FieldMetadata" inherited,
  rule "CHK-211" source "HTTP client configuration" .warning
    "Build HTTP clients from runtimeContext.getHttpClientConfig()",
  rule "CHK-212" source "Cursor field names" .warning
    "Pick cursor fields by priority search instead of hard-coding names",
  rule "CHK-213" source "OAuth handling" .warning
    "Configure OAuth scopes and refresh expired tokens",
  rule "CHK-214" source "Primary key identification" .error
    "Call both setPrimaryKey() and setSourcePrimaryKey() on key fields" inherited,
  rule "CHK-215" source "Cursor field identification" .error
    "Set setCursorField(true), setSourceCursorField(true) and setCursorFieldLocked(true) on cursor fields"
    inherited,
  rule "CHK-216" source "Cursor identification invoked" .error
    "Call identifyCursorFields(objectMetadata) while building schema metadata" inherited,
  rule "CHK-217" source "Integration tests" .error
    "Add a *ConnectorIT.java covering init, schema, read and cursor tracking",
  rule "CHK-218" source "Descriptor methods (base-delegated)" .warning
    "Confirm the base class supplies getVersion() and getCapabilitiesConfig(), or override them"
    baseDelegatedOnly,
  rule "CHK-301" destination "Destination capabilities" .error
    "Return loadModes and destinationTableHandling from getCapabilitiesConfig()",
  rule "CHK-302" destination "Target object mapping" .error
    "Implement mapToTargetObject() and apply namespaceRules.getTableName/getSchemaName/getDatabaseName",
  rule "CHK-303" destination "No tracking columns in mapping" .error
    "Do not add _supa_* columns in mapToTargetObject(); the writer adds them",
  rule "CHK-304" destination "Custom attributes preserved" .warning
    "Copy sourceObj.getCustomAttributes() to the target object",
  rule "CHK-305" destination "Load implementation" .error
    "Implement load(LoadRequest) using the callback and metadata mapping",
  rule "CHK-306" destination "Destination integration tests" .warning
    "Test load with success_part_*.csv fixtures and assert the pipeline prefix",
  rule "CHK-311" destination "Staging configuration" .warning
    "Declare supportsStaging / requiresStaging in the capabilities" warehouseOnly,
  rule "CHK-312" destination "Load mode in load()" .warning
    "Branch on request.getLoadMode() in load()" warehouseOnly,
  rule "CHK-313" destination "Stage implementation" .warning
    "Implement stage() and select files named success_part_*.csv" warehouseOnly,
  rule "CHK-314" destination "Staging load" .warning
    "Load staged files with COPY INTO or an equivalent upload" warehouseOnly,
  rule "CHK-315" destination "MERGE implementation" .warning
    "Implement MERGE for LoadMode.MERGE" warehouseOnly,
  rule "CHK-316" destination "Load mode variants" .warning
    "Handle APPEND, MERGE, OVERWRITE and TRUNCATE_AND_LOAD" warehouseOnly,
  rule "CHK-317" destination "DDL generation" .warning
    "Generate CREATE TABLE (and ALTER TABLE for schema evolution)" warehouseOnly,
  rule "CHK-318" destination "Warehouse integration tests" .warning
    "Add staging and merge tests to the integration suite" warehouseOnly,
  rule "CHK-321" destination "Activation target mapping" .warning
    "Carry activation_target through mapToTargetObject()" activationOnly,
  rule "CHK-322" destination "Local data path" .warning
    "Read rows from request.getLocalDataPath() in load()" activationOnly,
  rule "CHK-323" destination "Stage rejected" .warning
    "Throw UnsupportedOperationException from stage()" activationOnly,
  rule "CHK-324" destination "Activation target" .error
    "Resolve the destination object with metadata.getActivationTarget()" activationOnly,
  rule "CHK-325" destination "Activation target fields" .error
    "Map fields with field.getActivationTargetField()" activationOnly,
  rule "CHK-326" destination "Merge keys" .warning
    "Use selected_merge_keys as the upsert external id" activationOnly,
  rule "CHK-327" destination "Error record processor" .warning
    "Report failed rows through the error record processor" activationOnly,
  rule "CHK-328" destination "Success record processor" .warning
    "Report written rows through the success record processor" activationOnly,
  rule "CHK-329" destination "Activation integration tests" .warning
    "Add an activation/upsert test to the integration suite" activationOnly,
  rule "CHK-401" crosscutting "Parent module registration" .error
    "Add <module>connectors/supaflow-connector-<name></module> to the parent pom.xml",
  rule "CHK-402" crosscutting "Reactor build" .warning
    "Run mvn clean compile -pl connectors/supaflow-connector-<name> -am and fix the build",
  rule "CHK-403" crosscutting "Parent-managed dependency versions" .warning
    "Remove <version> from dependencies managed by the parent pom",
  rule "CHK-404" crosscutting "Internal module versions" .warning
    "Remove <version> from io.supaflow dependencies; they inherit $\x7bproject.version\x7d",
  rule "CHK-405" crosscutting "Cancellation supplier" .error
    "Add a BooleanSupplier cancellationSupplier and set it from context.getCancellationSupplier() in setRuntimeContext()"
    inherited,
  rule "CHK-406" crosscutting "Cancellation helper" .error
    "Add checkCancellation() that throws ConnectorException with ErrorType.CANCELLED" inherited,
  rule "CHK-407" crosscutting "Cancellation checks in loops" .warning
    "Call checkCancellation() inside pagination, retry and processing loops" inherited,
  rule "CHK-408" crosscutting "Cancellation never retried" .warning
    "Rethrow ErrorType.CANCELLED immediately; never retry or swallow it"]

end ModuleAudit.Catalog.Bundled

namespace ModuleAudit.Catalog

/-- The document of the bundled catalog. -/
def bundledDocument : Value := Bundled.entry [
  ("version", .int 1), ("groups", .list Bundled.groups), ("rules", .list Bundled.rules)]

end ModuleAudit.Catalog
