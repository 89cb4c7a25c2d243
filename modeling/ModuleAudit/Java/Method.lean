import ModuleAudit.Java.Bracket
import ModuleAudit.Java.Token
import ModuleAudit.Pattern.Search
import ModuleAudit.Text.Lines

/-!
# Methods of a Java text

`methodsOf` recovers the methods that a text declares with a body, without parsing it: a name before
an opening parenthesis counts when a type stands before it and a brace follows the parameters.
Places are found in the bare copy of the text, where neither comments nor literals can mislead, and
the parameters and the body are cut out of the copy that still has its literals.
-/

namespace ModuleAudit.Java

open ModuleAudit.Text (isBlank isIdent isWord isAlphanumeric lineNumber)

/-- A method with its body. A constructor has the empty return type. -/
structure Method where
  name : List Char
  returnType : List Char
  params : List Char
  body : List Char
  line : Nat
  /-- Where the body starts: the offset after its opening brace. -/
  bodyStart : Nat
  /-- Where the body ends: the offset of its closing brace, or of the end of the text. -/
  bodyEnd : Nat
  deriving DecidableEq, Repr

namespace Method

/-- The body with the contents of its literals blanked out. -/
def bare (m : Method) : List Char := bareOf m.body

end Method

/-- The part of a text between two offsets. -/
def slice (s : List Char) (start stop : Nat) : List Char := (s.drop start).take (stop - start)

/-! ## The words in front of a name -/

/-- Words before a parenthesis that are not method names. -/
def notMethodNames : List (List Char) :=
  ["if", "for", "while", "switch", "catch", "synchronized", "return", "new", "throw", "try", "else", "do",
    "super", "this", "assert"].map String.toList

/-- Words that may stand before a call, where a declaration has its type. -/
def notReturnTypes : List (List Char) :=
  ["return", "new", "throw", "else", "case", "yield", "assert"].map String.toList

/-- Words that stand before the name of a constructor. -/
def modifiers : List (List Char) :=
  ["public", "protected", "private", "static", "final", "abstract", "synchronized", "native", "default",
    "strictfp"].map String.toList

/-- A character that a name may start with. -/
def startsName (c : Char) : Bool :=
  ('A' ≤ c && c ≤ 'Z') || ('a' ≤ c && c ≤ 'z') || c == '_' || c == '$'

/-- A character of a dotted name. -/
def isDotted (c : Char) : Bool := isIdent c || c == '.'

/-- A name and the parenthesis after it. -/
def callSite : Pattern :=
  .sequence [.edge, .capture 1 (.seq (.char startsName) (.most isIdent)), .gap, .exactly '(']

/-- The brackets of an array type. -/
def arrayMarks : Pattern := .star (.sequence [.gap, .exactly '[', .gap, .exactly ']'])

/-- A type with its arguments and array brackets, at the end of a text. -/
def typeAtEnd : Pattern :=
  .sequence [
    .capture 1 (.sequence [
      .many isDotted,
      .optional (.sequence [
        .gap, .exactly '<', .most fun c => !(";\x7b\x7d()".toList.contains c), .exactly '>']),
      arrayMarks]),
    .gap, .textEnd]

/-- The brace that opens a body, after the exceptions that the method throws. -/
def bodyOpener : Pattern :=
  .sequence [
    .gap,
    .optional (.sequence [
      .word "throws", .blanks,
      .char (fun c => isDotted c || c == ',' || isBlank c),
      .fewest fun c => isDotted c || c == ',' || isBlank c]),
    .gap, .exactly '\x7b']

/-- How far back from a name its type is looked for. -/
def typeReach : Nat := 400

/-- The type of the declaration whose name stands after the reversed text `before`; `none` if the
name is not declared there, and the empty type for a constructor. -/
def declaredType? (before : List Char) : Option (List Char) :=
  match (before.take typeReach).dropWhile isBlank with
  | [] => none
  | c :: rest =>
    if isAlphanumeric c || "_$>]".toList.contains c then
      match typeAtEnd.search? (c :: rest).reverse with
      | none => none
      | some m =>
        let type := m.capture 1
        if notReturnTypes.contains type then none
        else some (if modifiers.contains type then [] else type)
    else none

/-! ## Declarations -/

/-- The method declared at a call site of the bare copy of a text, if there is one. `code` is the copy
that still has its literals. -/
def methodAt? (text code bare : List Char) (site : Match) : Option Method := do
  let name := site.capture 1
  if notMethodNames.contains name then none
  else
    let type ← declaredType? site.start.before
    let close ← closing? '(' ')' 1 site.stop.after
    let tail := site.stop.after.drop (close + 1)
    let opener ← bodyOpener.prefixMatch? tail
    let open_ := site.stop.offset
    let bodyStart := open_ + close + 1 + opener.length
    let bodyEnd := match closing? '\x7b' '\x7d' 1 opener.stop.after with
      | some n => bodyStart + n
      | none => bare.length
    return {
      name
      returnType := type
      params := slice code open_ (open_ + close)
      body := slice code bodyStart bodyEnd
      line := lineNumber text site.start.offset
      bodyStart
      bodyEnd }

/-- The methods declared in a text, given with its two copies, in the order of their names. -/
def methodsIn (text code bare : List Char) : List Method :=
  (callSite.findAll bare).filterMap (methodAt? text code bare)

/-- The methods that a text declares. -/
def methodsOf (s : List Char) : List Method := methodsIn s (codeOf s) (bareOf s)

end ModuleAudit.Java
