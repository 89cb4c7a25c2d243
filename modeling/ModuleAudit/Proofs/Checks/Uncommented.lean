import Mathlib.Data.List.Forall2
import ModuleAudit.Proofs.Checks.Unnoticed
import ModuleAudit.Proofs.Connector.Classification
import ModuleAudit.Proofs.Java.Uncommented

/-!
# Comments and the checks

That a file has comments goes unnoticed, so no check of a bundled rule tells whether the Java files have
theirs (`bundled_ignoresComments`), and two modules that differ in comments only are the same
without them (`FileSet.SameCode.uncommented_eq`). So comments decide nothing: neither what kind of
connector a module is, nor what a check concludes or has run (`comments_decide_nothing`).
-/

namespace ModuleAudit

open ModuleAudit.Java (Source)

/-- The files with the comments of the Java files blanked out. -/
def FileSet.uncommented (f : FileSet) : FileSet :=
  { f with
    primary := f.primary.uncommented
    helpers := f.helpers.map .uncommented
    integrationTest := f.integrationTest.map .uncommented }

/-- The check gives the same verdict, and does the same on the way to it, without the comments of
the Java files. -/
def Check.IgnoresComments (c : Check) : Prop := ∀ f settings, c f.uncommented settings = c f settings

theorem bundled_ignoresComments : ∀ entry ∈ Registry.bundled, entry.2.IgnoresComments :=
  bundled_overlooks Source.unnoticed_uncommented

/-! ## Modules that differ in comments only -/

namespace FileSet

/-- Two modules that are equal but for their Java files, which have the same comment-blanked copies. -/
structure SameCode (f g : FileSet) : Prop where
  module : f.module = g.module
  primary : f.primary.SameCode g.primary
  helpers : List.Forall₂ Source.SameCode f.helpers g.helpers
  integrationTest : Option.Rel Source.SameCode f.integrationTest g.integrationTest
  manifest : f.manifest = g.manifest
  resource : f.resource = g.resource
  parentManifest : f.parentManifest = g.parentManifest

variable {f g : FileSet}

theorem map_uncommented_eq {l l' : List Source} (h : List.Forall₂ Source.SameCode l l') :
    l.map Source.uncommented = l'.map Source.uncommented := by
  induction h with
  | nil => rfl
  | cons hs _ ih => rw [List.map_cons, List.map_cons, hs.uncommented_eq, ih]

theorem map?_uncommented_eq {o o' : Option Source} (h : o.Rel Source.SameCode o') :
    o.map Source.uncommented = o'.map Source.uncommented := by
  cases h with
  | none => rfl
  | some hs => rw [Option.map_some, Option.map_some, hs.uncommented_eq]

theorem SameCode.uncommented_eq (h : f.SameCode g) : f.uncommented = g.uncommented := by
  simp only [uncommented, h.module, h.primary.uncommented_eq, map_uncommented_eq h.helpers,
    map?_uncommented_eq h.integrationTest, h.manifest, h.resource, h.parentManifest]

end FileSet

/-- Two modules that differ in comments only are classified alike, and each check comes to the same
verdict on both, asks the same of its surroundings and logs the same. -/
theorem comments_decide_nothing {f g : FileSet} (h : f.SameCode g) :
    Classification.ofSource f.primary = Classification.ofSource g.primary ∧
      ∀ entry ∈ Registry.bundled, ∀ settings surroundings journal,
        (entry.2 f settings).start surroundings journal =
          (entry.2 g settings).start surroundings journal := by
  constructor
  · refine Classification.ofSource_congr ?_
    rw [← Java.bareOf_codeOf, h.primary.code, Java.bareOf_codeOf]
  · intro entry he settings surroundings journal
    have ignores := bundled_ignoresComments entry he
    rw [← ignores f, h.uncommented_eq, ignores g]

/-- A capability and a call in comments. -/
theorem comments_decide_nothing_call :
    let file (noted : String) : Source := .ofText ⟨0, ["AConnector.java"]⟩
      ("class A \x7b /* ".toList ++ noted.toList ++ " */ \x7d".toList)
    let files (s : Source) : FileSet :=
      { module := ⟨⟨0, []⟩, "a"⟩, primary := s, helpers := [s], integrationTest := some s }
    let s := file "REPLICATION_SOURCE; p.close();"
    let t := file "reads nothing and closes none."
    s.text ≠ t.text ∧ Classification.ofSource s = Classification.ofSource t ∧
      ∀ entry ∈ Registry.bundled, ∀ settings surroundings journal,
        (entry.2 (files s) settings).start surroundings journal =
          (entry.2 (files t) settings).start surroundings journal := by
  intro file files s t
  have hcode : Java.codeOf s.text = Java.codeOf t.text := by decide +kernel
  have h : s.SameCode t := .ofText hcode
  have hfiles : (files s).SameCode (files t) := ⟨rfl, h, .cons h .nil, .some h, rfl, rfl, rfl⟩
  exact ⟨by decide +kernel, comments_decide_nothing hfiles⟩

end ModuleAudit
