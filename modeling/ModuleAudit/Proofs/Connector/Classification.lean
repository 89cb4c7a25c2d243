import ModuleAudit.Catalog.Basic
import ModuleAudit.Connector.Classification
import ModuleAudit.Proofs.Java.Outline

/-!
# What the classification of a connector rests on

A connector class is classified by its bare copy alone: comments and the contents of literals have
no say in what kind of connector it is, and so in which rules are skipped (`classified_by_bare`).
-/

namespace ModuleAudit.Classification

variable {s t : Java.Source}

theorem stage_rejects_congr (h : Java.bareOf s.text = Java.bareOf t.text) :
    (stageMethod? s).map rejects = (stageMethod? t).map rejects := by
  have body := Java.Source.method?_bare_congr h "stage" "StageResponse"
  have onBare : rejects = (fun bare => unsupported.found bare ||
      (leadingThrow.prefixMatch? bare).isSome) ∘ Java.Method.bare := rfl
  rw [onBare, ← Option.map_map, ← Option.map_map]
  exact congrArg _ body

/-- Of the method that stages files, only whether it is there and refuses matters. -/
theorem destinationSubtype_eq (s : Java.Source) :
    destinationSubtype s =
      if ((stageMethod? s).map rejects).getD false || s.mentions activationMarkers then .activation
      else .warehouse := by
  rw [destinationSubtype]
  cases stageMethod? s <;> simp

theorem destinationSubtype_congr (h : Java.bareOf s.text = Java.bareOf t.text) :
    destinationSubtype s = destinationSubtype t := by
  rw [destinationSubtype_eq, destinationSubtype_eq, stage_rejects_congr h,
    Java.Source.mentions_congr h]

theorem ofSource_congr (h : Java.bareOf s.text = Java.bareOf t.text) : ofSource s = ofSource t := by
  simp only [ofSource, Java.Source.superclass_congr h, Java.Source.mentions_congr h,
    destinationSubtype_congr h]

/-- Connector classes with the same bare copy are of the same kind: the same facts hold of them, and
the same rules are skipped for the same reasons. -/
theorem classified_by_bare (h : Java.bareOf s.text = Java.bareOf t.text) :
    ofSource s = ofSource t ∧ (ofSource s).facts = (ofSource t).facts ∧
      ∀ r : Rule, r.skipReason (ofSource s).facts = r.skipReason (ofSource t).facts := by
  rw [ofSource_congr h]
  exact ⟨rfl, rfl, fun _ => rfl⟩

/-- A refusal in a literal and a capability in a comment do not count. -/
theorem classified_by_bare_warehouse :
    let file (said noted : String) : Java.Source := .ofText ⟨0, ["AConnector.java"]⟩
      ("enum A \x7b REPLICATION_DESTINATION; StageResponse stage() \x7b say(\"".toList ++ said.toList ++
        "\"); \x7d \x7d // ".toList ++ noted.toList)
    let s := file "UnsupportedOperationException" "REPLICATION_SOURCE"
    let t := file "copied to a stage as CSV file" "a single direction"
    Java.bareOf s.text = Java.bareOf t.text ∧ ofSource s = ofSource t ∧
      ofSource t = ⟨.standalone, false, true, .warehouse, none⟩ := by
  intro file s t
  have h : Java.bareOf s.text = Java.bareOf t.text := by decide +kernel
  exact ⟨h, (classified_by_bare h).1, by decide +kernel⟩

end ModuleAudit.Classification
