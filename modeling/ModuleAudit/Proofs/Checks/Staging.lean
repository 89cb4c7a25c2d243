import ModuleAudit.Proofs.Checks.Evidence
import ModuleAudit.Proofs.Connector.Classification

/-!
# The kind of a destination and the checks of staging

The classification looks for the method that stages in the connector class only. Two checks look for it in all
Java files: they find the first file that declares it, and then look the method up in this file
(`LookupTwice`). The second lookup asks what the first one asked, so it never fails
(`stageMethod_eq_lookupTwice`, `stageRejected_eq_lookupTwice`). The connector class is the first of the files, so
where it declares the method, the checks and the classification speak of the same one
(`stage_checks_agree`).
-/

namespace ModuleAudit.Destination

open ModuleAudit.Classification (ofSource stageMethod? rejects activationMarkers)
open ModuleAudit.Java (Source Method)

variable {f : FileSet} {settings : Settings} {s : Surroundings}

/-! ## Two lookups -/

/-- The first file that declares the method that stages. -/
def stagingFile? (f : FileSet) : Option Source := f.firstWith (·.declares "stage" "StageResponse")

/-- A check that finds the file that stages and then looks the method up in it. Without a file the verdict
is `absent`. A method that is not found again lacks the part that the check asks it for. -/
def lookupTwice (part : String) (absent : Verdict) (check : Source → Method → Verdict) : Check :=
  fun f _ =>
    match stagingFile? f with
    | none => return absent
    | some source =>
      match source.method? "stage" "StageResponse" with
      | none => Inspect.fault (.missingPart "NoneType" part)
      | some stage => return check source stage

/-- What is said about the files that a method stages. -/
def stagedVerdict (source : Source) (stage : Method) : Verdict :=
  match missing [
    ("does not filter for success_part_*.csv", source.contains ["success_part_"]),
    ("looks for <table>_*.csv, which finds no files in production",
      !tableFileName.found stage.body)] with
  | [] => .ok ("stage() in " ++ source.name ++ " uses success_part_*.csv")
  | gaps => .violation ("stage() in " ++ source.name ++ " " ++ "; ".intercalate gaps)

/-- What is said about a method that should refuse to stage. -/
def refusedVerdict (stage : Method) : Verdict :=
  if rejects stage then .ok "stage() rejects with an exception"
  else .violation "activation destination should throw UnsupportedOperationException in stage()"

/-- A search for the first answer is a search for the first element that has one. -/
theorem findSome?_eq_bind_find? {α β : Type} (g : α → Option β) (l : List α) :
    l.findSome? g = (l.find? fun a => (g a).isSome).bind g := by
  induction l with
  | nil => rfl
  | cons a l ih =>
    rw [List.findSome?_cons, List.find?_cons]
    cases answer : g a with
    | none => exact ih
    | some b => exact answer.symm

theorem staging?_eq_bind (f : FileSet) :
    staging? f = (stagingFile? f).bind fun source => (stageMethod? source).map (source, ·) := by
  rw [staging?, findSome?_eq_bind_find?]
  simp only [Option.isSome_map]
  rfl

/-- The file that stages declares the method. -/
theorem stageMethod?_of_stagingFile? {source : Source} (h : stagingFile? f = some source) :
    ∃ stage, stageMethod? source = some stage := by
  have first : f.sources.find? (fun s => (stageMethod? s).isSome) = some source := h
  exact Option.isSome_iff_exists.1 (List.find?_some first :)

theorem lookupTwice_eq (part : String) (absent : Verdict) (check : Source → Method → Verdict) :
    lookupTwice part absent check = .ofFiles fun f =>
      match staging? f with
      | none => absent
      | some (source, stage) => check source stage := by
  funext f settings
  rw [lookupTwice, Check.ofFiles, staging?_eq_bind]
  cases file : stagingFile? f with
  | none => rfl
  | some source =>
    obtain ⟨stage, found⟩ := stageMethod?_of_stagingFile? file
    have again : source.method? "stage" "StageResponse" = some stage := found
    simp only [again, Option.bind_some, found, Option.map_some]

theorem stageMethod_eq_lookupTwice : stageMethod =
    lookupTwice "body" (.violation "warehouse destination has no stage() method") stagedVerdict :=
  (lookupTwice_eq _ _ _).symm

theorem stageRejected_eq_lookupTwice : stageRejected =
    lookupTwice "bare" (.ok "no stage() method (correct for activation)") fun _ => refusedVerdict :=
  (lookupTwice_eq _ _ _).symm

/-! ## The method that both speak of -/

/-- The connector class comes first. -/
theorem stagingFile?_of_primary {stage : Method} (h : stageMethod? f.primary = some stage) :
    stagingFile? f = some f.primary := by
  have declares : f.primary.declares "stage" "StageResponse" = true := Option.isSome_iff_exists.2 ⟨stage, h⟩
  rw [stagingFile?, FileSet.firstWith, FileSet.sources]
  exact List.find?_cons_of_pos declares

theorem lookupTwice_of_file {part : String} {absent : Verdict} {check : Source → Method → Verdict}
    {source : Source} {stage : Method} (file : stagingFile? f = some source)
    (found : stageMethod? source = some stage) :
    lookupTwice part absent check f settings = pure (check source stage) := by
  have again : source.method? "stage" "StageResponse" = some stage := found
  simp only [lookupTwice, file, again]

theorem severity_stageRejected {source : Source} {stage : Method} (file : stagingFile? f = some source)
    (found : stageMethod? source = some stage) :
    stageRejected.severity f settings s = .ok (if rejects stage then some .pass else none) := by
  rw [Check.severity, stageRejected_eq_lookupTwice, lookupTwice_of_file file found]
  show Except.ok (refusedVerdict stage).severity = _
  rw [refusedVerdict]
  split <;> rfl

/-- The kind of a destination whose class declares the method. -/
theorem subtype_of_stageMethod? {primary : Source} {stage : Method}
    (writes : (ofSource primary).hasDestination = true) (h : stageMethod? primary = some stage) :
    (ofSource primary).subtype =
      if rejects stage || primary.mentions activationMarkers then .activation else .warehouse := by
  have kind : (ofSource primary).subtype = Classification.destinationSubtype primary := if_pos writes
  rw [kind, Classification.destinationSubtype_eq, h]
  rfl

/-- Where the class of a destination declares the method that stages, a warehouse is a destination whose
method does not refuse, and the checks judge this method, whatever the helpers declare. Where any file declares
it, the checks look it up a second time and find it. -/
theorem stage_checks_agree (f : FileSet) (settings : Settings) (s : Surroundings) :
    (∀ stage, (ofSource f.primary).hasDestination = true →
      f.primary.method? "stage" "StageResponse" = some stage →
      ((ofSource f.primary).subtype = .warehouse →
        stageRejected.severity f settings s = .ok none ∧
          stageMethod f settings = pure (stagedVerdict f.primary stage)) ∧
      (stageRejected.severity f settings s = .ok (some .pass) →
        (ofSource f.primary).subtype = .activation) ∧
      ((ofSource f.primary).subtype = .activation → f.primary.mentions activationMarkers = false →
        stageRejected.severity f settings s = .ok (some .pass))) ∧
    (stageMethod =
        lookupTwice "body" (.violation "warehouse destination has no stage() method") stagedVerdict ∧
      stageRejected =
        lookupTwice "bare" (.ok "no stage() method (correct for activation)") fun _ => refusedVerdict) ∧
    ((∃ source ∈ f.sources, source.declares "stage" "StageResponse" = true) →
      ∃ source stage, stagingFile? f = some source ∧
        source.method? "stage" "StageResponse" = some stage ∧
        stageMethod f settings = pure (stagedVerdict source stage) ∧
        stageRejected f settings = pure (refusedVerdict stage)) := by
  refine ⟨fun stage writes declared => ?_, ⟨stageMethod_eq_lookupTwice, stageRejected_eq_lookupTwice⟩, ?_⟩
  · have file := stagingFile?_of_primary declared
    rw [severity_stageRejected file declared, subtype_of_stageMethod? writes declared]
    refine ⟨fun warehouse => ⟨?_, ?_⟩, fun passes => ?_, fun activation unmarked => ?_⟩
    · cases refuses : rejects stage with
      | false => rfl
      | true => simp [refuses] at warehouse
    · rw [stageMethod_eq_lookupTwice, lookupTwice_of_file file declared]
    · cases refuses : rejects stage with
      | false => simp [refuses] at passes
      | true => rfl
    · cases refuses : rejects stage with
      | false => simp [refuses, unmarked] at activation
      | true => rfl
  · rintro ⟨source, mem, declares⟩
    have holds : f.holds (·.declares "stage" "StageResponse") = true :=
      List.any_eq_true.2 ⟨source, mem, declares⟩
    obtain ⟨source, file⟩ : ∃ source, stagingFile? f = some source := FileSet.firstWith_of_holds holds
    obtain ⟨stage, found⟩ := stageMethod?_of_stagingFile? file
    refine ⟨source, stage, file, found, ?_, ?_⟩
    · rw [stageMethod_eq_lookupTwice, lookupTwice_of_file file found]
    · rw [stageRejected_eq_lookupTwice, lookupTwice_of_file file found]

/-- A helper refuses to stage, but the connector class stages. Without the class's method, the helper's is
judged. -/
theorem stage_checks_agree_helper :
    let file (name text : String) : Source := .ofText ⟨0, [name]⟩ text.toList
    let primary := file "AConnector.java"
      "enum A \x7b REVERSE_ETL_DESTINATION; StageResponse stage() \x7b say(\"success_part_\"); \x7d \x7d"
    let helper := file "Writer.java" "class W \x7b StageResponse stage() \x7b throw new E(); \x7d \x7d"
    let f : FileSet := { module := ⟨⟨0, []⟩, "a"⟩, primary, helpers := [helper] }
    let g : FileSet := { f with primary := file "AConnector.java" "enum A \x7b REVERSE_ETL_DESTINATION \x7d" }
    ∀ settings s,
      (∃ stage, primary.method? "stage" "StageResponse" = some stage ∧
        stageRejected.severity f settings s = .ok none ∧
        stageMethod f settings = pure (stagedVerdict primary stage)) ∧
      ∃ source stage, stagingFile? g = some source ∧
        source.method? "stage" "StageResponse" = some stage ∧
        stageRejected g settings = pure (refusedVerdict stage) := by
  intro file primary helper f g settings s
  have writes : (ofSource primary).hasDestination = true := by decide +kernel
  have warehouse : (ofSource primary).subtype = .warehouse := by decide +kernel
  have declares : primary.declares "stage" "StageResponse" = true := by decide +kernel
  obtain ⟨stage, declared⟩ := Option.isSome_iff_exists.1 declares
  obtain ⟨refused, staged⟩ := ((stage_checks_agree f settings s).1 stage writes declared).1 warehouse
  obtain ⟨source, other, found, again, -, verdict⟩ := (stage_checks_agree g settings s).2.2
    ⟨helper, List.mem_cons_of_mem _ List.mem_cons_self, by decide +kernel⟩
  exact ⟨⟨stage, declared, refused, staged⟩, source, other, found, again, verdict⟩

end ModuleAudit.Destination
