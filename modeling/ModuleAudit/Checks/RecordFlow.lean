import ModuleAudit.Checks.Basic

/-!
# Reading records

How a connector that reads data processes records, answers requests and describes itself (201 to
211, 213, 214 and 218).
-/

namespace ModuleAudit.RecordFlow

open ModuleAudit.Check (listed listedMethods)

/-- The names that a condition does not hold for, as a verdict: a violation that lists them, or else
all is well. -/
def requireAll (names : List String) (holds : String → Bool) (problem good : String) : Verdict :=
  let missing := names.filter fun name => !holds name
  if missing.isEmpty then .ok good else .violation (problem ++ listedMethods missing)

/-! ## Records -/

/-- The connector obtains the record processor. -/
def processorObtained : Check := .ofFiles fun f =>
  if f.primary.hasCall "getRecordProcessor" true then .ok "found .getRecordProcessor() call"
  else .violation "missing .getRecordProcessor(); obtain the processor from the read request"

/-- The records are processed, in the connector class or beside it. -/
def recordsProcessed : Check := .ofFiles fun f =>
  if f.primary.hasCall "processRecord" true then .ok "found .processRecord() call"
  else
    match f.helpers.find? (·.hasCall "processRecord" true) with
    | some helper => .ok ("found .processRecord() in helper " ++ helper.name)
    | none => .violation "missing .processRecord() call for each record"

/-- The result of the processing is collected. -/
def processingCompleted : Check := .ofFiles fun f =>
  if f.primary.hasCall "completeProcessing" true then .ok "found .completeProcessing() call"
  else if f.primary.hasCall "getResult" true then
    .ok "found .getResult() call (equivalent to completeProcessing)"
  else
    .violation "missing .completeProcessing() or .getResult(); the processing result is never collected"

/-- The response holds the state of the synchronisation. -/
def syncStateResponse : Check := .ofFiles fun f =>
  if !f.primary.mentions ["SyncStateResponseBuilder"] then
    .violation "missing SyncStateResponseBuilder usage"
  else if f.primary.hasCall "fromProcessingResult" then
    .ok "found SyncStateResponseBuilder.fromProcessingResult()"
  else .warn "SyncStateResponseBuilder used without fromProcessingResult(result, mode)"

/-- A call that closes the record processor. -/
def processorClose : Pattern :=
  .sequence [.edge, .word "processor", .gap, .exactly '.', .gap, .word "close", .gap, .exactly '(']

/-- The connector leaves the processor to the pipeline. -/
def processorNotClosed : Check := .ofFiles fun f =>
  match processorClose.search? f.primary.bare with
  | some m =>
    let line := f.primary.lineOf m.start.offset
    .violation s!"connector calls processor.close() (line {line}); the pipeline owns the processor"
  | none => .ok "does not close the processor"

/-! ## Responses and descriptions -/

/-- The connector sets nothing that an init response does not have. -/
def initResponseSetters : Check := .ofFiles fun f =>
  let wrong := ["setStatus", "setMessage"].filter fun name => f.primary.hasCall name true
  if wrong.isEmpty then .ok "no invalid init response setters"
  else .violation ("DatasourceInitResponse has no " ++ " or ".intercalate (wrong.map (· ++ "()")))

/-- The init response names the product and its version. -/
def initResponseProduct : Check := .ofFiles fun f =>
  requireAll ["setDatasourceProductName", "setDatasourceProductVersion"] (f.primary.hasCall ·)
    "init() response never calls " "init() response sets product name and version"

/-- The methods of a connector's life. -/
def lifecycle : List String := ["setRuntimeContext", "init", "schema", "read", "close"]

/-- The connector declares the methods of its life. -/
def lifecycleMethods : Check := .ofFiles fun f =>
  requireAll lifecycle (f.primary.declares ·) "missing method(s): "
    ("declares " ++ listedMethods lifecycle)

/-- The verdict on the methods by which a connector describes itself. -/
def describes (f : FileSet) : Verdict :=
  requireAll ["getVersion", "getCapabilitiesConfig"] (f.primary.declares ·) "missing method(s): "
    "declares getVersion() and getCapabilitiesConfig()"

/-- The connector describes itself. -/
def descriptorMethods : Check := .ofFiles describes

/-- The connector describes itself, or its base class does. -/
def baseDescriptorMethods : Check := .ofFiles fun f =>
  let verdict := describes f
  match verdict.severity with
  | none =>
    let base := f.primary.superclass.getD ""
    .violation (verdict.message ++ "; may be inherited from " ++
      if base.isEmpty then "the base class" else base)
  | some _ => verdict

/-! ## Fields, clients and tokens -/

/-- A field description built by hand. -/
def newField : Pattern :=
  .sequence [.edge, .word "new", .blanks, .word "FieldMetadata", .gap, .exactly '(']

/-- A field description built by hand gets both types. -/
def fieldMetadataTypes : Check := .ofFiles fun f =>
  if newField.found f.primary.bare then
    requireAll ["setOriginalDataType", "setCanonicalType"] (f.primary.hasCall ·)
      "FieldMetadata built without " "FieldMetadata sets original and canonical types"
  else .ok "no direct FieldMetadata construction"

/-- A client for the web is configured by the runtime. -/
def httpClientConfig : Check := .ofFiles fun f =>
  if !f.primary.mentions ["OkHttpClient", "HttpClient"] then .ok "no HTTP client"
  else if f.primary.hasCall "getHttpClientConfig" then
    .ok "HTTP client uses the runtime context configuration"
  else .violation "HTTP client does not use runtimeContext.getHttpClientConfig() (timeouts, proxy)"

/-- The builder of an authorisation. -/
def authorisationBuilder : Pattern :=
  .sequence [.edge, .word "OAuthConfig", .gap, .exactly '.', .gap, .word "Builder", .edge]

/-- A word about refreshing a token. -/
def tokenRefresh : Pattern :=
  .oneOf [
    .sequence [.anyCase "refresh", .most Text.isWord, .anyCase "token"],
    .sequence [.anyCase "token", .most Text.isWord, .anyCase "refresh"],
    .anyCase "refreshing"]

/-- An authorisation asks for its scopes and refreshes its tokens. -/
def oauthHandling : Check := .ofFiles fun f =>
  if !f.primary.mentions ["OAuthConfig", "oauthConfig", "accessToken", "refreshToken"] then
    .ok "no OAuth features"
  else
    let scopes :=
      if authorisationBuilder.found f.primary.bare && !f.primary.hasCall "withScopes" then
        ["OAuthConfig.Builder without withScopes()"]
      else []
    let refresh := if tokenRefresh.found f.primary.bare then [] else ["no token refresh logic"]
    match scopes ++ refresh with
    | [] => .ok "OAuth scopes and token refresh present"
    | problems => .violation ("; ".intercalate problems)

/-! ## Keys -/

/-- Keys are marked for the source too. -/
def primaryKeys : Check := .ofFiles fun f =>
  if f.primary.hasCall "setPrimaryKey" true then
    if f.primary.hasCall "setSourcePrimaryKey" true then
      .ok "sets setPrimaryKey() and setSourcePrimaryKey()"
    else .violation "setPrimaryKey() without setSourcePrimaryKey(); both must be set"
  else
    match f.helpers.find? (·.hasCall "setPrimaryKey" true) with
    | none => .warn "no setPrimaryKey() call; merge and deduplication need primary keys"
    | some helper =>
      if helper.hasCall "setSourcePrimaryKey" true then
        .ok ("primary keys set in helper " ++ helper.name)
      else .warn (helper.name ++ " calls setPrimaryKey() without setSourcePrimaryKey()")

end ModuleAudit.RecordFlow
