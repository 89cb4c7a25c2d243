import ModuleAudit.Checks.Registry
import ModuleAudit.Proofs.Java.Unnoticed

/-!
# Changes of a module's files that no check tells

A check overlooks a change of Java files (`Check.Overlooks`) if it gives the same verdict, and does the
same on the way to it, when all Java files of the module are changed. Every check of a bundled rule asks
of the Java files only what has the same answer after a change that goes unnoticed, so it overlooks
such a change (`bundled_overlooks`).
-/

namespace ModuleAudit

open ModuleAudit.Java (Source)

variable {change : Source → Source}

namespace FileSet

/-- The files with each Java file changed. -/
def map (change : Source → Source) (f : FileSet) : FileSet :=
  { f with
    primary := change f.primary
    helpers := f.helpers.map change
    integrationTest := f.integrationTest.map change }

variable (f : FileSet)

theorem module_map : (f.map change).module = f.module := rfl
theorem primary_map : (f.map change).primary = change f.primary := rfl
theorem integrationTest_map : (f.map change).integrationTest = f.integrationTest.map change := rfl
theorem sources_map : (f.map change).sources = f.sources.map change := rfl

/-- A search that the change does not matter for finds the same file. -/
theorem find?_map {p : Source → Bool} (hp : ∀ s, p (change s) = p s) (l : List Source) :
    (l.map change).find? p = (l.find? p).map change := by
  rw [List.find?_map, funext (show ∀ s, (p ∘ change) s = p s from hp)]

theorem helperWithCall_map (h : Source.Unnoticed change) (name : String) (qualified : Bool) :
    (f.map change).helpers.find? (·.hasCall name qualified) =
      (f.helpers.find? (·.hasCall name qualified)).map change :=
  find?_map (fun s => h.hasCall s name qualified) f.helpers

theorem firstWith_map {p : Source → Bool} (hp : ∀ s, p (change s) = p s) :
    (f.map change).firstWith p = (f.firstWith p).map change := find?_map hp f.sources

end FileSet

/-- The check gives the same verdict, and does the same on the way to it, when the Java files are
changed. -/
def Check.Overlooks (change : Source → Source) (c : Check) : Prop :=
  ∀ f settings, c (f.map change) settings = c f settings

theorem Check.Overlooks.ofFiles {v : FileSet → Verdict} (same : ∀ f : FileSet, v (f.map change) = v f) :
    (Check.ofFiles v).Overlooks change := fun f _ => congrArg pure (same f)

open Check.Overlooks (ofFiles)
open FileSet (module_map primary_map integrationTest_map sources_map helperWithCall_map)

variable (h : Source.Unnoticed change)

/-! ## Packaging: the Java files are not looked at -/

namespace Packaging

theorem versionDescriptor_overlooks : versionDescriptor.Overlooks change := fun _ _ => rfl
theorem moduleManifest_overlooks : moduleManifest.Overlooks change := fun _ _ => rfl
theorem shadePlugin_overlooks : shadePlugin.Overlooks change := fun _ _ => rfl
theorem buildArtifacts_overlooks : buildArtifacts.Overlooks change := fun _ _ => rfl
theorem parentRegistration_overlooks : parentRegistration.Overlooks change := fun _ _ => rfl
theorem reactorBuild_overlooks : reactorBuild.Overlooks change := fun _ _ => rfl
theorem managedVersions_overlooks : managedVersions.Overlooks change := fun _ _ => rfl
theorem internalVersions_overlooks : internalVersions.Overlooks change := fun _ _ => rfl

end Packaging

include h

/-! ## Naming -/

namespace Naming

theorem typeIdentifier_overlooks : typeIdentifier.Overlooks change := ofFiles fun f => by
  simp only [primary_map, h.returnedString]
theorem displayName_overlooks : displayName.Overlooks change := ofFiles fun f => by
  simp only [primary_map, h.returnedString]
theorem propertyFieldNames_overlooks : propertyFieldNames.Overlooks change := ofFiles fun f => by
  simp only [primary_map, h.annotatedFields]
theorem propertyAnnotations_overlooks : propertyAnnotations.Overlooks change := ofFiles fun f => by
  simp only [primary_map, h.annotations, h.mentions]
theorem capabilityTokens_overlooks : capabilityTokens.Overlooks change := ofFiles fun f => by
  simp only [primary_map, h.mentions]

theorem connectorIcon_overlooks : connectorIcon.Overlooks change := fun f settings => by
  simp only [connectorIcon, primary_map, h.returnedString, module_map]

end Naming

/-! ## Reading records -/

namespace RecordFlow

theorem processorObtained_overlooks : processorObtained.Overlooks change := ofFiles fun f => by
  simp only [primary_map, h.hasCall]

theorem recordsProcessed_overlooks : recordsProcessed.Overlooks change := ofFiles fun f => by
  simp only [primary_map, h.hasCall, f.helperWithCall_map h]
  cases f.helpers.find? (·.hasCall "processRecord" true) with
  | none => rfl
  | some helper => simp only [Option.map_some, h.name]

theorem processingCompleted_overlooks : processingCompleted.Overlooks change := ofFiles fun f => by
  simp only [primary_map, h.hasCall]
theorem syncStateResponse_overlooks : syncStateResponse.Overlooks change := ofFiles fun f => by
  simp only [primary_map, h.mentions, h.hasCall]
theorem processorNotClosed_overlooks : processorNotClosed.Overlooks change := ofFiles fun f => by
  simp only [primary_map, h.bare, h.lineOf]
theorem initResponseSetters_overlooks : initResponseSetters.Overlooks change := ofFiles fun f => by
  simp only [primary_map, h.hasCall]
theorem initResponseProduct_overlooks : initResponseProduct.Overlooks change := ofFiles fun f => by
  simp only [primary_map, h.hasCall]
theorem lifecycleMethods_overlooks : lifecycleMethods.Overlooks change := ofFiles fun f => by
  simp only [primary_map, h.declares]

theorem describes_map (f : FileSet) : describes (f.map change) = describes f := by
  simp only [describes, primary_map, h.declares]

theorem descriptorMethods_overlooks : descriptorMethods.Overlooks change :=
  ofFiles (describes_map h)
theorem baseDescriptorMethods_overlooks : baseDescriptorMethods.Overlooks change :=
  ofFiles fun f => by simp only [describes_map h, primary_map, h.superclass]
theorem fieldMetadataTypes_overlooks : fieldMetadataTypes.Overlooks change := ofFiles fun f => by
  simp only [primary_map, h.bare, h.hasCall]
theorem httpClientConfig_overlooks : httpClientConfig.Overlooks change := ofFiles fun f => by
  simp only [primary_map, h.mentions, h.hasCall]
theorem oauthHandling_overlooks : oauthHandling.Overlooks change := ofFiles fun f => by
  simp only [primary_map, h.mentions, h.bare, h.hasCall]

theorem primaryKeys_overlooks : primaryKeys.Overlooks change := ofFiles fun f => by
  simp only [primary_map, h.hasCall, f.helperWithCall_map h]
  cases f.helpers.find? (·.hasCall "setPrimaryKey" true) with
  | none => rfl
  | some helper =>
    rw [Option.map_some]
    dsimp only
    rw [h.hasCall, h.name]

end RecordFlow

/-! ## Cursor fields -/

namespace Cursor

theorem inlineIn_map (s : Source) : inlineIn (change s) = inlineIn s := by
  rw [inlineIn, h.code, inlineIn]

theorem fieldNames_overlooks : fieldNames.Overlooks change := ofFiles fun f => by
  simp only [primary_map, h.mentions, h.code]

theorem identification_overlooks : identification.Overlooks change := ofFiles fun f => by
  simp only [primary_map, inlineIn_map h, h.method?, h.code]

theorem invocation_overlooks : invocation.Overlooks change := ofFiles fun f => by
  simp only [primary_map, h.calls, h.declares, f.firstWith_map (inlineIn_map h), Option.isSome_map]

end Cursor

/-! ## Integration tests -/

namespace IntegrationTest

theorem hasTest_map (s : Source) (starts : List String) :
    hasTest (change s) starts = hasTest s starts := by
  rw [hasTest, h.methods, hasTest]

theorem lifecycle_overlooks : lifecycle.Overlooks change := ofFiles fun f => by
  rw [integrationTest_map]
  cases f.integrationTest with
  | none => rfl
  | some test => simp only [Option.map_some, hasTest_map h, h.code, h.name]

theorem loading_overlooks : loading.Overlooks change := ofFiles fun f => by
  rw [integrationTest_map]
  cases f.integrationTest with
  | none => rfl
  | some test =>
    simp only [Option.map_some, hasTest_map h, h.code, h.contains, h.name]

theorem covers_overlooks (starts : List String) (good problem : String) :
    (covers starts good problem).Overlooks change := ofFiles fun f => by
  rw [integrationTest_map]
  cases f.integrationTest with
  | none => rfl
  | some test => simp only [Option.map_some, hasTest_map h, h.name]

end IntegrationTest

/-! ## Writing records -/

namespace Destination

theorem fileWith?_map (f : FileSet) (needles : List String) :
    fileWith? (f.map change) needles = (fileWith? f needles).map change :=
  f.firstWith_map fun s => h.contains s needles

theorem requireFile_overlooks (needles : List String) (good problem : String) :
    (requireFile needles good problem).Overlooks change := ofFiles fun f => by
  rw [fileWith?_map h]
  cases fileWith? f needles with
  | none => rfl
  | some s => simp only [Option.map_some, h.name]

theorem loadFile?_map (f : FileSet) : loadFile? (f.map change) = (loadFile? f).map change :=
  f.firstWith_map fun s => h.declares s "load" "LoadResponse"

theorem ofLoadFile_overlooks {check : Source → Verdict}
    (same : ∀ s : Source, check (change s) = check s) : (ofLoadFile check).Overlooks change :=
  ofFiles fun f => by
    rw [loadFile?_map h]
    cases loadFile? f with
    | none => rfl
    | some s => exact same s

theorem mapping?_map (f : FileSet) : mapping? (f.map change) = mapping? f := by
  rw [mapping?, primary_map, h.method?, mapping?]

theorem ofMapping_overlooks {check : FileSet → Java.Method → Verdict}
    (same : ∀ (f : FileSet) m, check (f.map change) m = check f m) : (ofMapping check).Overlooks change :=
  ofFiles fun f => by simp only [mapping?_map h, same]

theorem staging?_map (f : FileSet) :
    staging? (f.map change) = (staging? f).map fun (s, m) => (change s, m) := by
  rw [staging?, staging?, sources_map, List.findSome?_map, List.map_findSome?]
  congr 1
  funext s
  simp only [Function.comp_apply, Classification.stageMethod?, h.method?, Option.map_map]
  rfl

theorem capabilities_overlooks : capabilities.Overlooks change := ofFiles fun f => by
  simp only [primary_map, h.mentions]
theorem targetMapping_overlooks : targetMapping.Overlooks change := ofFiles fun f => by
  simp only [mapping?_map h, primary_map, h.bare]
theorem noTrackingColumns_overlooks : noTrackingColumns.Overlooks change :=
  ofMapping_overlooks h fun _ _ => rfl
theorem customAttributes_overlooks : customAttributes.Overlooks change :=
  ofMapping_overlooks h fun _ _ => rfl

theorem loading_overlooks : loading.Overlooks change := ofFiles fun f => by
  rw [loadFile?_map h]
  cases loadFile? f with
  | none => rfl
  | some s => simp only [Option.map_some, h.bare, h.mentions, h.name]

theorem stagingConfig_overlooks : stagingConfig.Overlooks change := ofFiles fun f => by
  simp only [primary_map, h.mentions]
theorem loadMode_overlooks : loadMode.Overlooks change :=
  ofLoadFile_overlooks h fun s => by simp only [h.mentions, h.name]

theorem stageMethod_overlooks : stageMethod.Overlooks change := ofFiles fun f => by
  rw [staging?_map h]
  cases staging? f with
  | none => rfl
  | some found => simp only [Option.map_some, h.contains, h.name]

theorem stagingLoad_overlooks : stagingLoad.Overlooks change := ofFiles fun f => by
  have hput := f.firstWith_map (p := (putStatement.found ·.code)) fun s => by
    rw [h.code]
  simp only [fileWith?_map h, hput]
  cases fileWith? f ["COPY INTO", "executeCopyInto", "copyInto"] with
  | some s => simp only [Option.map_some, h.name]
  | none =>
    cases fileWith? f ["uploadToStage", "stageLocation"] with
    | some s => simp only [Option.map_some, Option.map_none, Option.some_or, h.name]
    | none =>
      cases f.firstWith (putStatement.found ·.code) with
      | none => rfl
      | some s => simp only [Option.map_some, Option.map_none, Option.none_or, h.name]

theorem loadModeVariants_overlooks : loadModeVariants.Overlooks change := ofFiles fun f => by
  have first (shown : Pattern) := f.firstWith_map (p := (shown.found ·.bare)) fun s => by
    rw [h.bare]
  simp only [first, Option.map_map, Function.comp_def]

theorem tableStatements_overlooks : tableStatements.Overlooks change := ofFiles fun f => by
  simp only [fileWith?_map h]
  cases fileWith? f ["CREATE TABLE", "createTable", "buildCreateTableSql"] <;>
    cases fileWith? f ["ALTER TABLE", "alterTable", "buildAlterTableSql"] <;> rfl

theorem activationMapping_overlooks : activationMapping.Overlooks change :=
  ofMapping_overlooks h fun f _ => by simp only [primary_map, h.mentions]
theorem localDataPath_overlooks : localDataPath.Overlooks change :=
  ofLoadFile_overlooks h fun s => by simp only [h.mentions, h.name]

theorem stageRejected_overlooks : stageRejected.Overlooks change := ofFiles fun f => by
  rw [staging?_map h]
  cases staging? f <;> rfl

theorem activationTarget_overlooks : activationTarget.Overlooks change := ofFiles fun f => by
  rw [f.firstWith_map fun s => h.mentions s ["getActivationTarget"]]
  cases f.firstWith (·.mentions ["getActivationTarget"]) with
  | none => rfl
  | some s => simp only [Option.map_some, h.name]

end Destination

/-! ## Cancellation -/

namespace Cancellation

theorem supplier_overlooks : supplier.Overlooks change := ofFiles fun f => by
  simp only [primary_map, h.mentions, h.hasCall]

theorem helper_overlooks : helper.Overlooks change := ofFiles fun f => by
  rw [f.firstWith_map fun s => h.mentions s cancelChecks]
  cases f.firstWith (·.mentions cancelChecks) with
  | none => rfl
  | some s => simp only [Option.map_some, h.name]

theorem checkCount_map (l : List Source) : checkCount (l.map change) = checkCount l := by
  simp only [checkCount, List.flatMap_map, h.calls]

theorem inLoops_overlooks : inLoops.Overlooks change := ofFiles fun f => by
  simp only [primary_map, h.loopCount, sources_map, checkCount_map h]

theorem neverRetried_overlooks : neverRetried.Overlooks change := ofFiles fun f => by
  simp only [primary_map, h.bare]

end Cancellation

/-! ## All checks -/

/-- No check of a bundled rule tells a change of the Java files that no question about a file tells. -/
theorem bundled_overlooks : ∀ entry ∈ Registry.bundled, entry.2.Overlooks change := by
  simp only [Registry.bundled, List.forall_mem_cons, List.not_mem_nil, false_imp_iff, implies_true,
    and_true]
  exact ⟨
    Packaging.versionDescriptor_overlooks, Packaging.moduleManifest_overlooks,
    Packaging.shadePlugin_overlooks, Packaging.buildArtifacts_overlooks,
    Naming.typeIdentifier_overlooks h, Naming.displayName_overlooks h,
    Naming.propertyFieldNames_overlooks h, Naming.connectorIcon_overlooks h,
    Naming.capabilityTokens_overlooks h, Naming.propertyAnnotations_overlooks h,
    RecordFlow.processorObtained_overlooks h, RecordFlow.recordsProcessed_overlooks h,
    RecordFlow.processingCompleted_overlooks h, RecordFlow.syncStateResponse_overlooks h,
    RecordFlow.processorNotClosed_overlooks h, RecordFlow.initResponseSetters_overlooks h,
    RecordFlow.initResponseProduct_overlooks h, RecordFlow.lifecycleMethods_overlooks h,
    RecordFlow.descriptorMethods_overlooks h, RecordFlow.fieldMetadataTypes_overlooks h,
    RecordFlow.httpClientConfig_overlooks h, Cursor.fieldNames_overlooks h,
    RecordFlow.oauthHandling_overlooks h, RecordFlow.primaryKeys_overlooks h,
    Cursor.identification_overlooks h, Cursor.invocation_overlooks h,
    IntegrationTest.lifecycle_overlooks h, RecordFlow.baseDescriptorMethods_overlooks h,
    Destination.capabilities_overlooks h, Destination.targetMapping_overlooks h,
    Destination.noTrackingColumns_overlooks h, Destination.customAttributes_overlooks h,
    Destination.loading_overlooks h, IntegrationTest.loading_overlooks h,
    Destination.stagingConfig_overlooks h, Destination.loadMode_overlooks h,
    Destination.stageMethod_overlooks h, Destination.stagingLoad_overlooks h,
    Destination.requireFile_overlooks h _ _ _, Destination.loadModeVariants_overlooks h,
    Destination.tableStatements_overlooks h, IntegrationTest.covers_overlooks h _ _ _,
    Destination.activationMapping_overlooks h, Destination.localDataPath_overlooks h,
    Destination.stageRejected_overlooks h, Destination.activationTarget_overlooks h,
    Destination.requireFile_overlooks h _ _ _, Destination.requireFile_overlooks h _ _ _,
    Destination.requireFile_overlooks h _ _ _, Destination.requireFile_overlooks h _ _ _,
    IntegrationTest.covers_overlooks h _ _ _, Packaging.parentRegistration_overlooks,
    Packaging.reactorBuild_overlooks, Packaging.managedVersions_overlooks,
    Packaging.internalVersions_overlooks, Cancellation.supplier_overlooks h,
    Cancellation.helper_overlooks h, Cancellation.inLoops_overlooks h,
    Cancellation.neverRetried_overlooks h⟩

end ModuleAudit
