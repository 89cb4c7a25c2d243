import ModuleAudit.Condition.Basic
import ModuleAudit.Template.Layout
import ModuleAudit.Template.Segment

/-!
# Filling in templates

`fill` puts the values of facts in place of the fields of a template, from left to right; the first
field that cannot be filled, or the first flaw, ends it. A field names a fact, and after it parts of
its value: an item in square brackets or a part after a dot.
-/

namespace ModuleAudit.Template

open ModuleAudit.Text (digitValue? quote hexDigits)

/-- A whole number written with digits only. -/
def index? (s : List Char) : Except Fault (Option Nat) := do
  match ← FieldLayout.readNumber s with
  | (some n, []) => return some n
  | _ => return none

/-- The complaint about a part without a name. -/
def emptyPart : Fault := .badValue "Empty attribute in format string"

/-- Follows the parts that a field names after its fact; at most `fuel` of them. -/
def follow : (fuel : Nat) → Subject → List Char → Except Fault Subject
  | _, s, [] => .ok s
  | fuel + 1, s, '[' :: rest => do
    let name := rest.takeWhile (· != ']')
    match rest.drop name.length with
    | [] => .error (.badValue "Missing ']' in format string")
    | _ :: after =>
      let position ← index? name
      if name.isEmpty then .error emptyPart
      else
        let item ← match position with
          | some n => s.itemAt n
          | none => s.itemNamed (String.ofList name)
        follow fuel item after
  | fuel + 1, s, '.' :: rest => do
    let name := rest.takeWhile fun c => c != '.' && c != '['
    if name.isEmpty then .error emptyPart
    else
      match s.part? (String.ofList name) with
      | some part => follow fuel part (rest.drop name.length)
      | none => .error (.missingPart s.kindOf.name (String.ofList name))
  | _, _, _ => .error (.badValue "Only '.' or '[' may follow ']' in format field specifier")

/-- What a field names. Facts have no positions. -/
def lookUp (facts : Facts) (name : List Char) : Except Fault Subject := do
  let first := name.takeWhile fun c => c != '.' && c != '['
  let position ← index? first
  if first.isEmpty || position.isSome then
    .error (.badValue "Format string contains positional fields")
  else
    match facts.lookup (String.ofList first) with
    | none => .error (.missingKey (String.ofList first))
    | some v => follow name.length (.value v) (name.drop first.length)

/-- Quoted text with everything beyond ASCII as escapes. -/
def asciiOnly (s : String) : String :=
  String.ofList (s.toList.flatMap fun c =>
    if c.toNat < 0x80 then [c]
    else if c.toNat < 0x100 then '\\' :: 'x' :: hexDigits 2 c.toNat
    else if c.toNat < 0x10000 then '\\' :: 'u' :: hexDigits 4 c.toNat
    else '\\' :: 'U' :: hexDigits 8 c.toNat)

/-- A subject after the conversion that a field asks for. -/
def convert (s : Subject) : Option Char → Except Fault Subject
  | none => .ok s
  | some 's' => return .value (.text (← s.plain))
  | some 'r' => return .value (.text (← s.shown?))
  | some 'a' => return .value (.text (asciiOnly (← s.shown?)))
  | some c => .error (.badValue ("Unknown conversion specifier " ++ FieldLayout.visible 0x7f c))

/-- Puts the values of facts in place of the fields of a template. Layouts may hold fields, `depth`
levels deep. -/
def fillAt (facts : Facts) : (depth : Nat) → List Char → Except Fault (List Char)
  | 0, _ => .error (.badValue "Max string recursion exceeded")
  | depth + 1, template => do
    let parts ← (segments template).mapM fun
      | .error flaw => .error (.badValue flaw.message)
      | .ok (.literal s) => .ok s
      | .ok (.field f) => do
        let s ← convert (← lookUp facts f.name) f.conversion
        let layout ← if f.layout.contains '\x7b' then fillAt facts depth f.layout else pure f.layout
        FieldLayout.apply layout s
    return parts.flatten

/-- A template with the values of facts in place of its fields. -/
def fill (facts : Facts) (template : String) : Except Fault String := do
  return String.ofList (← fillAt facts 2 template.toList)

end ModuleAudit.Template
