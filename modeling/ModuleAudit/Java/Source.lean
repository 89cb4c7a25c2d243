import ModuleAudit.Java.Method
import ModuleAudit.Path
import ModuleAudit.Text.Occurrence

/-!
# A Java file as the checks see it

A `Source` is a path and a text together with the `View` of the text: its two copies and its
methods. The view is computed once, and `Source.view_eq` ties it to the text. All questions are
answered on the view: words and calls on the bare copy, substrings and literals on the copy that
still has its literals. Only lines are counted in the text itself.
-/

namespace ModuleAudit.Java

open ModuleAudit.Text (isBlank isIdent lineNumber occursIn)

/-- What the checks see of a Java text. -/
structure View where
  /-- The text with the comments blanked out. -/
  code : List Char
  /-- The text with the comments and the contents of the literals blanked out. -/
  bare : List Char
  methods : List Method
  deriving Repr

/-- The view of a text. -/
def View.ofText (s : List Char) : View := ⟨codeOf s, bareOf s, methodsOf s⟩

/-- A Java file. -/
structure Source where
  path : Path
  text : List Char
  view : View := .ofText text
  view_eq : view = .ofText text := by rfl

namespace Source

/-- The file at a path with a text. -/
def ofText (path : Path) (text : List Char) : Source := { path, text }

/-- The file name. -/
def name (s : Source) : String := s.path.name

/-- The text with the comments blanked out. -/
def code (s : Source) : List Char := s.view.code

/-- The text with the comments and the contents of the literals blanked out. -/
def bare (s : Source) : List Char := s.view.bare

/-- The methods declared in the file. -/
def methods (s : Source) : List Method := s.view.methods

theorem code_eq (s : Source) : s.code = codeOf s.text := by rw [code, s.view_eq]; rfl

theorem bare_eq (s : Source) : s.bare = bareOf s.text := by rw [bare, s.view_eq]; rfl

theorem methods_eq (s : Source) : s.methods = methodsOf s.text := by rw [methods, s.view_eq]; rfl

/-- The number of the line that holds the character at an offset. -/
def lineOf (s : Source) (offset : Nat) : Nat := lineNumber s.text offset

/-- The number of the line that holds the character at an index; a negative index counts from the
end. -/
def lineOfIndex (s : Source) (index : Int) : Nat :=
  s.lineOf (if index < 0 then (s.text.length + index).toNat else index.toNat)

/-! ## Words and substrings -/

/-- An identifier that stands by itself. -/
def wholeWord (ident : String) : Pattern :=
  .sequence [.notAfter isIdent, .word ident, .notBefore isIdent]

/-- Whether one of the identifiers stands in the code, outside comments and literals. -/
def mentions (s : Source) (idents : List String) : Bool :=
  idents.any fun ident => (wholeWord ident).found s.bare

/-- Whether one of the texts occurs in the code, literals included. -/
def contains (s : Source) (needles : List String) : Bool :=
  needles.any fun w => occursIn w.toList s.code

/-! ## Calls -/

/-- A name and the parenthesis of its arguments. -/
def callOf (name : String) : Pattern :=
  .sequence [.notAfter isIdent, .word name, .gap, .exactly '(']

/-- Whether a dot stands before a place, blanks apart. `before` is reversed. -/
def afterDot (before : List Char) : Bool := (before.dropWhile isBlank).head? == some '.'

/-- The lines of the calls of a method; with `qualified`, of its calls on a receiver only. On a line
that declares the method, only calls on a receiver count. -/
def calls (s : Source) (name : String) (qualified : Bool) : List Nat :=
  let declared := (s.methods.filter fun m => m.name == name.toList).map (·.line)
  ((callOf name).findAll s.bare).filterMap fun site =>
    let line := s.lineOf site.start.offset
    if afterDot site.start.before then some line
    else if qualified || declared.contains line then none
    else some line

/-- Whether the method is called. -/
def hasCall (s : Source) (name : String) (qualified : Bool := false) : Bool :=
  !(s.calls name qualified).isEmpty

/-! ## Types and constants -/

/-- What stands after the last dot. -/
def lastName (s : List Char) : List Char := (s.reverse.takeWhile (· != '.')).reverse

/-- A class with its superclass. -/
def classHeader : Pattern :=
  .sequence [
    .edge, .word "class", .blanks, .many isIdent,
    .optional (.sequence [.gap, .exactly '<', .fewest (· != '\x7b'), .exactly '>']),
    .blanks, .word "extends", .blanks, .capture 1 (.many isDotted)]

/-- The simple name of the superclass of the first class that has one. -/
def superclass (s : Source) : Option String :=
  (classHeader.search? s.bare).map fun m => String.ofList (lastName (m.capture 1))

/-- What may stand between the quotes of a string literal on one line. -/
def literalContent : Pattern :=
  .star (.either
    (.char fun c => !("\"\\\n".toList.contains c))
    (.seq (.exactly '\\') (.char (· != '\n'))))

/-- A string constant and its value. -/
def stringConstant : Pattern :=
  .sequence [
    .edge, .word "static", .blanks, .word "final", .blanks, .word "String", .blanks,
    .capture 1 (.many isIdent), .gap, .exactly '=', .gap,
    .exactly '"', .capture 2 literalContent, .exactly '"']

/-- The pairs with the one of a key replaced, or added at the end. -/
def setValue {α : Type} (key : String) (value : α) : List (String × α) → List (String × α)
  | [] => [(key, value)]
  | (k, v) :: rest => if k == key then (k, value) :: rest else (k, v) :: setValue key value rest

/-- The string constants of the file. A name keeps the place of its first declaration and the value
of its last. -/
def stringConstants (s : Source) : List (String × String) :=
  (stringConstant.findAll s.code).foldl
    (fun found m => setValue (String.ofList (m.capture 1)) (String.ofList (m.capture 2)) found) []

/-! ## Methods -/

/-- Whether a method has a name and, if one is asked for, a return type that holds a word. -/
def isMethod (name : String) (returnType : Option String) (m : Method) : Bool :=
  m.name == name.toList && returnType.all fun t => occursIn t.toList m.returnType

/-- The first method of a name, with a return type that holds a word if one is given. -/
def method? (s : Source) (name : String) (returnType : Option String := none) : Option Method :=
  s.methods.find? (isMethod name returnType)

/-- Whether the file declares a method. -/
def declares (s : Source) (name : String) (returnType : Option String := none) : Bool :=
  (s.method? name returnType).isSome

/-- A literal that is returned. -/
def returnedLiteral : Pattern :=
  .sequence [
    .edge, .word "return", .blanks, .exactly '"', .capture 1 literalContent, .exactly '"',
    .gap, .exactly ';']

/-- A name that is returned. -/
def returnedName : Pattern :=
  .sequence [.edge, .word "return", .blanks, .capture 1 (.many isDotted), .gap, .exactly ';']

/-- The string that a method returns, as a literal or through one constant. -/
def returnedString (s : Source) (name : String) : Option String := do
  let m ← s.method? name
  match returnedLiteral.search? m.body with
  | some literal => return String.ofList (literal.capture 1)
  | none =>
    let named ← returnedName.search? m.body
    s.stringConstants.lookup (String.ofList (lastName (named.capture 1)))

/-- The opening of a loop with a condition. -/
def loop : Pattern := .sequence [.edge, .oneOf [.word "for", .word "while"], .gap, .exactly '(']

/-- The number of loops in the file. -/
def loopCount (s : Source) : Nat := (loop.findAll s.bare).length

end Source

end ModuleAudit.Java
