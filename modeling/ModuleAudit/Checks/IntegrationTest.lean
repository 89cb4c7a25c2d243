import ModuleAudit.Checks.Basic

/-!
# Integration tests

What the integration test of a connector has to cover: the life cycle (217), loading (306), and what
a warehouse (318) or an interface behind a destination (329) needs.
-/

namespace ModuleAudit.IntegrationTest

open ModuleAudit.Check (listed)
open ModuleAudit.Java (Source)

/-- Whether a file declares a method whose name starts in one of some ways. -/
def hasTest (s : Source) (starts : List String) : Bool :=
  s.methods.any fun m => starts.any fun start => start.toList.isPrefixOf m.name

/-- The tests of the life cycle, each with the ways in which the name of its method may start. -/
def lifecycleTests : List (String × List String) := [
  ("initialization test", ["testConnectorInitialized", "testInit"]),
  ("schema discovery test", ["testListObjects", "testSchemaDiscovery", "testSchema"]),
  ("read data test", ["testReadData", "testRead"]),
  ("cursor tracking test", ["testCursorTracking", "testIncremental"])]

/-- One instance of the test class for all its tests. -/
def sharedInstance : Pattern :=
  .sequence [.word "@TestInstance", .gap, .exactly '(', .most (· != ')'), .word "PER_CLASS"]

/-- Tests that run in an order. -/
def orderedTests : Pattern := .sequence [.word "@TestMethodOrder", .edge]

/-- The things that a condition does not hold for. -/
def gaps (needs : List (String × Bool)) : List String :=
  needs.filterMap fun (need, met) => if met then none else some need

/-- The integration test covers the life cycle. -/
def lifecycle : Check := .ofFiles fun f =>
  match f.integrationTest with
  | none => .violation "no integration test file (*ConnectorIT.java) under src/test"
  | some test =>
    match gaps ([
        ("@TestInstance(Lifecycle.PER_CLASS)", sharedInstance.found test.code),
        ("@TestMethodOrder(OrderAnnotation.class)", orderedTests.found test.code)] ++
      lifecycleTests.map fun (need, starts) => (need, hasTest test starts)) with
    | [] => .ok s!"found {test.name} with lifecycle tests"
    | missing => .warn (test.name ++ " is missing: " ++ listed missing)

/-- A word about the prefix of a pipeline. -/
def pipelinePrefix : Pattern :=
  .oneOf [
    .anyCase "pipelineprefix", .anyCase "pipeline_prefix",
    .sequence [.anyCase "namespace", .most Text.isWord, .anyCase "prefix"]]

/-- The integration test covers loading as it happens in production. -/
def loading : Check := .ofFiles fun f =>
  match f.integrationTest with
  | none => .violation "no integration test file for destination tests"
  | some test =>
    match gaps [
      ("load/write test", hasTest test ["testLoad", "testWrite", "testUpsert"]),
      ("production CSV names (success_part_*.csv)", test.contains ["success_part_"]),
      ("namespace prefix assertion", pipelinePrefix.found test.code)] with
    | [] => .ok s!"{test.name} covers load, CSV naming and namespace prefix"
    | missing => .violation (test.name ++ " is missing: " ++ listed missing)

/-- A check that the integration test has one of some tests. -/
def covers (starts : List String) (good problem : String) : Check := .ofFiles fun f =>
  match f.integrationTest with
  | none => .skip "no integration test file"
  | some test => if hasTest test starts then .ok good else .violation (test.name ++ problem)

/-- The integration test covers staging or merging. -/
def warehouse : Check :=
  covers ["testStage", "testCopyInto", "testMerge"]
    "has staging/merge test" " has no staging/merge test"

/-- The integration test covers writing through an interface. -/
def activation : Check :=
  covers ["testActivation", "testUpsert", "testApiWrite"]
    "has activation/upsert test" " has no activation test"

end ModuleAudit.IntegrationTest
