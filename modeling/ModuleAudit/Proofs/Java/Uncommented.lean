import ModuleAudit.Proofs.Java.Copies
import ModuleAudit.Proofs.Java.Unnoticed

/-!
# A file without its comments

`Source.uncommented` is a file whose comments are blanked out. That goes unnoticed
(`Source.unnoticed_uncommented`): the copies and the methods are the same, and lines are numbered alike.
Two files with the same comment-blanked copy are the same without their comments
(`SameCode.uncommented_eq`).
-/

namespace ModuleAudit.Java

open ModuleAudit.Text (lineNumber)

/-! ## Methods -/

/-- Of the text itself, only the places of its newlines matter for a method. -/
theorem methodAt?_congr {s t : List Char} (h : ∀ k, lineNumber s k = lineNumber t k)
    (code bare : List Char) (site : Match) :
    methodAt? s code bare site = methodAt? t code bare site := by
  simp only [methodAt?, h]

theorem methodsIn_congr {s t : List Char} (h : ∀ k, lineNumber s k = lineNumber t k)
    (code bare : List Char) : methodsIn s code bare = methodsIn t code bare := by
  rw [methodsIn, methodsIn, funext (methodAt?_congr h code bare)]

theorem methodsOf_codeOf (s : List Char) : methodsOf (codeOf s) = methodsOf s := by
  rw [methodsOf, codeOf_codeOf, bareOf_codeOf, methodsIn_congr (lineNumber_codeOf s)]
  rfl

namespace Source

/-! ## Blanking the comments out -/

/-- The file with its comments blanked out. -/
def uncommented (s : Source) : Source := .ofText s.path s.code

theorem text_uncommented (s : Source) : s.uncommented.text = codeOf s.text := s.code_eq

/-- Nothing that is asked of a file tells whether it has its comments. -/
theorem unnoticed_uncommented : Unnoticed uncommented where
  name _ := rfl
  code s := by rw [code_eq, text_uncommented, codeOf_codeOf, code_eq]
  bare s := by rw [bare_eq, text_uncommented, bareOf_codeOf, bare_eq]
  methods s := by rw [methods_eq, text_uncommented, methodsOf_codeOf, methods_eq]
  lineOf s offset := by rw [lineOf, text_uncommented, lineNumber_codeOf, lineOf]

/-! ## Files that differ in comments only -/

variable {s : Source}

/-- Two files at one path whose texts have the same comment-blanked copy. -/
structure SameCode (s t : Source) : Prop where
  path : s.path = t.path
  code : codeOf s.text = codeOf t.text

theorem SameCode.ofText {path : Path} {x y : List Char} (h : codeOf x = codeOf y) :
    (Source.ofText path x).SameCode (Source.ofText path y) := ⟨rfl, h⟩

theorem SameCode.uncommented_eq {t : Source} (h : s.SameCode t) : s.uncommented = t.uncommented := by
  rw [uncommented, uncommented, code_eq, code_eq, h.path, h.code]

end Source

end ModuleAudit.Java
