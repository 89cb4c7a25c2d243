import ModuleAudit.Java.Annotation

/-!
# Changes of a file that nothing tells

A change of files goes unnoticed (`Source.Unnoticed`) if it keeps the name of a file, its two copies, its
methods and the numbers of its lines. Every other question about a file is put to these, so its answer
is kept as well.
-/

namespace ModuleAudit.Java.Source

/-- A change of files that keeps all that a question is put to. -/
structure Unnoticed (change : Source → Source) : Prop where
  name (s : Source) : (change s).name = s.name
  code (s : Source) : (change s).code = s.code
  bare (s : Source) : (change s).bare = s.bare
  methods (s : Source) : (change s).methods = s.methods
  lineOf (s : Source) (offset : Nat) : (change s).lineOf offset = s.lineOf offset

variable {change : Source → Source} (h : Unnoticed change) (s : Source)
include h

theorem Unnoticed.mentions (idents : List String) :
    (change s).mentions idents = s.mentions idents := by
  simp only [Source.mentions, h.bare]

theorem Unnoticed.contains (needles : List String) :
    (change s).contains needles = s.contains needles := by
  simp only [Source.contains, h.code]

theorem Unnoticed.calls (name : String) (qualified : Bool) :
    (change s).calls name qualified = s.calls name qualified := by
  simp only [Source.calls, h.methods, h.bare, h.lineOf]

theorem Unnoticed.hasCall (name : String) (qualified : Bool) :
    (change s).hasCall name qualified = s.hasCall name qualified := by
  simp only [Source.hasCall, h.calls]

theorem Unnoticed.superclass : (change s).superclass = s.superclass := by
  simp only [Source.superclass, h.bare]

theorem Unnoticed.stringConstants : (change s).stringConstants = s.stringConstants := by
  simp only [Source.stringConstants, h.code]

theorem Unnoticed.method? (name : String) (returnType : Option String) :
    (change s).method? name returnType = s.method? name returnType := by
  simp only [Source.method?, h.methods]

theorem Unnoticed.declares (name : String) (returnType : Option String) :
    (change s).declares name returnType = s.declares name returnType := by
  simp only [Source.declares, h.method?]

theorem Unnoticed.returnedString (name : String) :
    (change s).returnedString name = s.returnedString name := by
  simp only [Source.returnedString, h.method?, h.stringConstants]

theorem Unnoticed.annotations (name : String) :
    (change s).annotations name = s.annotations name := by
  have same : (change s).annotationAt? = s.annotationAt? := by
    funext m
    simp only [Source.annotationAt?, h.code]
  simp only [Source.annotations, h.bare, same]

theorem Unnoticed.annotatedFields (name : String) :
    (change s).annotatedFields name = s.annotatedFields name := by
  simp only [Source.annotatedFields, h.annotations, h.bare, h.lineOf]

theorem Unnoticed.loopCount : (change s).loopCount = s.loopCount := by
  simp only [Source.loopCount, h.bare]

end ModuleAudit.Java.Source
