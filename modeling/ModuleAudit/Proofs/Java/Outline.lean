import ModuleAudit.Java.Source
import ModuleAudit.Proofs.Java.Body

/-!
# What the bare copy tells

Methods are found in the bare copy, and a body is copied alike wherever it stands (`copies_of_mem`),
so two texts with the same bare copy declare methods with the same outlines
(`methodsOf_outline_congr`) and the same bare bodies (`Source.method?_bare_congr`), whatever their
comments say and whatever their literals hold.
-/

namespace ModuleAudit.Java

open ModuleAudit.Text (lineNumber)

/-- A method without what is cut out of the copy that still has its literals. -/
def Method.outline (m : Method) : Method := { m with params := [], body := [] }

/-- Of the copy that still has its literals, a method holds its parameters and its body only. -/
theorem methodAt?_outline_congr {s t : List Char} (h : ∀ k, lineNumber s k = lineNumber t k)
    (code code' bare : List Char) (site : Match) :
    (methodAt? s code bare site).map Method.outline = (methodAt? t code' bare site).map Method.outline := by
  simp only [methodAt?, h, Option.bind_eq_bind, Option.pure_def]
  split
  · rfl
  · simp only [Option.map_bind, Function.comp_def, Option.map_some, Method.outline]

theorem methodsOf_outline_congr {s t : List Char} (h : bareOf s = bareOf t) :
    (methodsOf s).map Method.outline = (methodsOf t).map Method.outline := by
  have hline (k : Nat) : lineNumber s k = lineNumber t k := by
    rw [← lineNumber_bareOf, h, lineNumber_bareOf]
  simp only [methodsOf, methodsIn, List.map_filterMap, h,
    methodAt?_outline_congr hline (codeOf s) (codeOf t)]

namespace Source

variable {s t : Source}

theorem bare_congr (h : bareOf s.text = bareOf t.text) : s.bare = t.bare := by
  rw [bare_eq, bare_eq, h]

theorem mentions_congr (h : bareOf s.text = bareOf t.text) (idents : List String) :
    s.mentions idents = t.mentions idents := by
  rw [mentions, mentions, bare_congr h]

theorem superclass_congr (h : bareOf s.text = bareOf t.text) : s.superclass = t.superclass := by
  rw [superclass, superclass, bare_congr h]

/-- Whether a method is asked for is told by its outline. -/
theorem method?_outline (s : Source) (name : String) (returnType : Option String) :
    (s.method? name returnType).map Method.outline =
      (s.methods.map Method.outline).find? (isMethod name returnType) := by
  rw [List.find?_map]
  rfl

/-- The bare body of a method, cut out of the bare copy of its text. -/
theorem method?_bare (s : Source) (name : String) (returnType : Option String) :
    (s.method? name returnType).map Method.bare =
      ((s.method? name returnType).map Method.outline).map
        fun m => slice (bareOf s.text) m.bodyStart m.bodyEnd := by
  rw [Option.map_map]
  refine Option.map_congr fun m hm => ?_
  have hm : m ∈ methodsOf s.text := s.methods_eq ▸ List.mem_of_find?_eq_some hm
  exact (copies_of_mem hm).2

theorem method?_bare_congr (h : bareOf s.text = bareOf t.text) (name : String)
    (returnType : Option String) :
    (s.method? name returnType).map Method.bare = (t.method? name returnType).map Method.bare := by
  rw [method?_bare, method?_bare, method?_outline, method?_outline, methods_eq, methods_eq,
    methodsOf_outline_congr h, h]

end Source

end ModuleAudit.Java
