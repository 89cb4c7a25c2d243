import ModuleAudit.Checks.Cancellation
import ModuleAudit.Checks.Cursor
import ModuleAudit.Checks.Destination
import ModuleAudit.Checks.IntegrationTest
import ModuleAudit.Checks.Naming
import ModuleAudit.Checks.Packaging
import ModuleAudit.Checks.RecordFlow

/-!
# The registered checks

A `Registry` gives a rule id its check; no id has two. `Registry.bundled` holds the checks of the
bundled rules. What is registered need not be one of these: a registry may hold anything that runs
under a rule (`α`).
-/

namespace ModuleAudit

/-- Checks by the id of their rule. -/
abbrev Registry (α : Type) := List (String × α)

namespace Registry

variable {α : Type}

/-- The ids that have a check. -/
def ids (r : Registry α) : List String := r.map (·.1)

/-- The registry with one more check. An id that is taken is a fault. -/
def register (r : Registry α) (id : String) (check : α) : Except Fault (Registry α) :=
  if r.ids.contains id then .error (.duplicateCheck id) else .ok (r ++ [(id, check)])

/-- Registering keeps ids apart. -/
theorem ids_nodup_register {r r' : Registry α} {id : String} {check : α} (h : r.ids.Nodup)
    (e : r.register id check = .ok r') : r'.ids.Nodup := by
  unfold register at e
  split at e
  · exact nomatch e
  · rename_i fresh
    obtain rfl : r ++ [(id, check)] = r' := Except.ok.inj e
    simp only [ids, List.map_append, List.map_cons, List.map_nil]
    refine List.nodup_append.2 ⟨h, by simp, ?_⟩
    intro a ha b hb hab
    obtain rfl : b = id := by simpa using hb
    exact fresh (List.contains_iff_mem.2 (hab ▸ ha))

/-- A check is found under its id if ids are apart. -/
theorem lookup_of_mem {r : Registry α} {entry : String × α} (distinct : r.ids.Nodup)
    (h : entry ∈ r) : r.lookup entry.1 = some entry.2 := by
  obtain ⟨before, after, rfl⟩ := List.append_of_mem h
  rw [ids, List.map_append, List.map_cons, List.nodup_append] at distinct
  refine List.lookup_eq_some_iff.2 ⟨before, after, rfl, fun p hp => bne_iff_ne.2 fun same => ?_⟩
  exact distinct.2.2 p.1 (List.mem_map_of_mem hp) entry.1 List.mem_cons_self same.symm

/-- The checks of the bundled rules. -/
def bundled : Registry Check := [
  ("CHK-101", Packaging.versionDescriptor),
  ("CHK-102", Packaging.moduleManifest),
  ("CHK-103", Packaging.shadePlugin),
  ("CHK-104", Packaging.buildArtifacts),
  ("CHK-105", Naming.typeIdentifier),
  ("CHK-106", Naming.displayName),
  ("CHK-107", Naming.propertyFieldNames),
  ("CHK-108", Naming.connectorIcon),
  ("CHK-109", Naming.capabilityTokens),
  ("CHK-110", Naming.propertyAnnotations),
  ("CHK-201", RecordFlow.processorObtained),
  ("CHK-202", RecordFlow.recordsProcessed),
  ("CHK-203", RecordFlow.processingCompleted),
  ("CHK-204", RecordFlow.syncStateResponse),
  ("CHK-205", RecordFlow.processorNotClosed),
  ("CHK-206", RecordFlow.initResponseSetters),
  ("CHK-207", RecordFlow.initResponseProduct),
  ("CHK-208", RecordFlow.lifecycleMethods),
  ("CHK-209", RecordFlow.descriptorMethods),
  ("CHK-210", RecordFlow.fieldMetadataTypes),
  ("CHK-211", RecordFlow.httpClientConfig),
  ("CHK-212", Cursor.fieldNames),
  ("CHK-213", RecordFlow.oauthHandling),
  ("CHK-214", RecordFlow.primaryKeys),
  ("CHK-215", Cursor.identification),
  ("CHK-216", Cursor.invocation),
  ("CHK-217", IntegrationTest.lifecycle),
  ("CHK-218", RecordFlow.baseDescriptorMethods),
  ("CHK-301", Destination.capabilities),
  ("CHK-302", Destination.targetMapping),
  ("CHK-303", Destination.noTrackingColumns),
  ("CHK-304", Destination.customAttributes),
  ("CHK-305", Destination.loading),
  ("CHK-306", IntegrationTest.loading),
  ("CHK-311", Destination.stagingConfig),
  ("CHK-312", Destination.loadMode),
  ("CHK-313", Destination.stageMethod),
  ("CHK-314", Destination.stagingLoad),
  ("CHK-315", Destination.merging),
  ("CHK-316", Destination.loadModeVariants),
  ("CHK-317", Destination.tableStatements),
  ("CHK-318", IntegrationTest.warehouse),
  ("CHK-321", Destination.activationMapping),
  ("CHK-322", Destination.localDataPath),
  ("CHK-323", Destination.stageRejected),
  ("CHK-324", Destination.activationTarget),
  ("CHK-325", Destination.activationTargetField),
  ("CHK-326", Destination.mergeKeys),
  ("CHK-327", Destination.errorRecords),
  ("CHK-328", Destination.successRecords),
  ("CHK-329", IntegrationTest.activation),
  ("CHK-401", Packaging.parentRegistration),
  ("CHK-402", Packaging.reactorBuild),
  ("CHK-403", Packaging.managedVersions),
  ("CHK-404", Packaging.internalVersions),
  ("CHK-405", Cancellation.supplier),
  ("CHK-406", Cancellation.helper),
  ("CHK-407", Cancellation.inLoops),
  ("CHK-408", Cancellation.neverRetried)]

/-- The checks of the bundled rules, as what runs under them. -/
def bundledRuleChecks : Registry RuleCheck := bundled.map fun (id, c) => (id, c.toRuleCheck)

end Registry

end ModuleAudit
