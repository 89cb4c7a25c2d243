import ModuleAudit.Checks.Basic

/-!
# Cursor fields

How a connector marks the fields by which it reads only what is new (212, 215 and 216).
-/

namespace ModuleAudit.Cursor

open ModuleAudit.Check (listed)
open ModuleAudit.Java (Source)

/-- A setter called with `true`. -/
def setTrue (setter : String) : Pattern :=
  .sequence [.edge, .word setter, .gap, .exactly '(', .gap, .word "true", .gap, .exactly ')']

/-- The setters that mark a cursor field. -/
def flags : List String := ["setCursorField", "setSourceCursorField", "setCursorFieldLocked"]

/-- Whether a file marks cursor fields where it stands. -/
def inlineIn (s : Source) : Bool := (setTrue "setCursorField").found s.code

/-- The setters of a text that are not called with `true`. -/
def unset (setters : List String) (s : List Char) : List String :=
  setters.filter fun setter => !(setTrue setter).found s

/-- Setters called with `true`, in a row. -/
def listedFlags (setters : List String) : String := listed (setters.map (· ++ "(true)"))

/-! ## Names -/

/-- A cursor field picked by a fixed name. -/
def fixedName : Pattern :=
  .sequence [
    .edge, .word "setCursorField", .gap, .exactly '(', .most (· != ';'), .exactly '"',
    .oneOf [.word "updated_at", .word "modified_date"], .exactly '"']

/-- No cursor field is picked by a fixed name. -/
def fieldNames : Check := .ofFiles fun f =>
  if !f.primary.mentions ["identifyCursorFields", "setCursorField", "SyncStateRequest"] then
    .ok "no incremental sync features (full refresh only)"
  else if fixedName.found f.primary.code then
    .violation "cursor field name appears hard-coded; search fields by priority instead"
  else .ok "no hard-coded cursor field names"

/-! ## Identification -/

/-- A call that marks a cursor field. -/
def anySetter : Pattern :=
  .sequence [.edge, .word "set", .optional (.word "Source"), .word "CursorField", .gap, .exactly '(']

/-- A class of helpers that something is called on. -/
def helperClass : Pattern :=
  .sequence [
    .edge,
    .capture 1 (.sequence [
      .char fun c => 'A' ≤ c && c ≤ 'Z', .most Text.isWord, .oneOf [.word "Util", .word "Helper"]]),
    .gap, .exactly '.']

/-- A log line or a return without a value. -/
def idleStatement : Pattern :=
  .oneOf [
    .sequence [.edge, .word "log", .gap, .exactly '.'],
    .sequence [.edge, .word "return", .gap, .exactly ';']]

/-- The verdict on a body that is to mark the cursor fields. `inline` tells whether they are marked
elsewhere in the class. -/
def judgeBody (body : List Char) (inline : Bool) : Verdict :=
  if anySetter.found body then
    match unset flags body with
    | [] => .ok "identifyCursorFields() sets all cursor flags"
    | missing => .warn ("identifyCursorFields() may not call " ++ listedFlags missing)
  else
    match helperClass.search? body with
    | some m => .ok ("identifyCursorFields() delegates to " ++ String.ofList (m.capture 1))
    | none =>
      if inline then .ok "cursor fields set inline during schema building"
      else if (Text.trim body).isEmpty || idleStatement.found body then
        .violation "identifyCursorFields() is a no-op; incremental sync is not supported"
      else .warn "could not verify the identifyCursorFields() implementation"

/-- The cursor fields are marked. -/
def identification : Check := .ofFiles fun f =>
  let inline := inlineIn f.primary
  match f.primary.method? "identifyCursorFields" with
  | some m => judgeBody m.bare inline
  | none =>
    if inline then
      match unset (flags.drop 1) f.primary.code with
      | [] => .ok "cursor fields set inline during schema building"
      | missing => .warn ("inline cursor setting without " ++ listedFlags missing)
    else .warn "no cursor field identification; connector is full-refresh only"

/-- What marks the cursor fields is called. -/
def invocation : Check := .ofFiles fun f =>
  let inline := (f.firstWith inlineIn).isSome
  let calls := f.primary.calls "identifyCursorFields" false
  if !calls.isEmpty then
    .ok ("identifyCursorFields() called at line(s) " ++ listed ((calls.take 3).map toString))
  else if inline then .ok "cursor fields set inline during schema building"
  else if f.primary.declares "identifyCursorFields" then
    .violation "identifyCursorFields() is declared but never called; no cursor fields are marked"
  else .warn "no cursor field identification; connector is full-refresh only"

end ModuleAudit.Cursor
