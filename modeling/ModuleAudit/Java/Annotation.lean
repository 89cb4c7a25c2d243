import ModuleAudit.Java.Source

/-!
# Annotations and the fields that carry them

An annotation is found by its name in the bare copy; its arguments are cut out of the copy that
still has its literals. `Source.annotatedFields` reads the declaration after an annotation, past
further annotations and modifiers.
-/

namespace ModuleAudit.Java

open ModuleAudit.Text (isBlank isIdent)

/-- One use of an annotation: its arguments and where it starts and ends. -/
structure Annotation where
  arguments : List Char
  start : Nat
  stop : Nat
  deriving DecidableEq, Repr

/-- A field that carries an annotation; the line is that of the annotation. -/
structure AnnotatedField where
  name : String
  type : String
  arguments : String
  line : Nat
  deriving DecidableEq, Repr

/-- The sign of an annotation and its name, where the name goes no further. -/
def annotationName (name : String) : Pattern :=
  .sequence [.exactly '@', .word name, .notBefore isDotted]

/-- An opening parenthesis after blanks. -/
def openParenthesis : Pattern := .seq .gap (.exactly '(')

/-- A further annotation in front of a declaration. -/
def furtherAnnotation : Pattern :=
  .sequence [
    .exactly '@', .many isDotted,
    .optional (.sequence [.gap, .exactly '(', .most (· != ')'), .exactly ')']),
    .gap]

/-- A modifier of a field. -/
def fieldModifier : Pattern :=
  .seq
    (.oneOf (["public", "protected", "private", "static", "final", "transient", "volatile"].map .word))
    .blanks

/-- The declaration of a field: its type and its name. -/
def fieldDeclaration : Pattern :=
  .sequence [
    .gap, .star furtherAnnotation, .star fieldModifier,
    .capture 1 (.sequence [
      .many isDotted,
      .optional (.sequence [
        .gap, .exactly '<', .most (fun c => c != ';' && c != '='), .exactly '>']),
      arrayMarks]),
    .blanks, .capture 2 (.many isIdent), .gap, .char (fun c => c == ';' || c == '=')]

namespace Source

/-- The use of an annotation whose name has been found; none if its arguments have no end. -/
def annotationAt? (s : Source) (found : Match) : Option Annotation :=
  match openParenthesis.prefixMatch? found.stop.after with
  | none => some ⟨[], found.start.offset, found.stop.offset⟩
  | some paren =>
    let start := found.stop.offset + paren.length
    (closing? '(' ')' 1 paren.stop.after).map fun n =>
      ⟨slice s.code start (start + n), found.start.offset, start + n + 1⟩

/-- The uses of an annotation, in the order of the text. -/
def annotations (s : Source) (name : String) : List Annotation :=
  ((annotationName name).findAll s.bare).filterMap s.annotationAt?

/-- The fields that carry an annotation. -/
def annotatedFields (s : Source) (name : String) : List AnnotatedField :=
  (s.annotations name).filterMap fun use =>
    (fieldDeclaration.prefixMatch? (s.bare.drop use.stop)).map fun m => {
      name := String.ofList (m.capture 2)
      type := String.ofList (m.capture 1)
      arguments := String.ofList use.arguments
      line := s.lineOf use.start }

end Source

end ModuleAudit.Java
