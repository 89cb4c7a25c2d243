import ModuleAudit.Markup.Malformed
import ModuleAudit.Markup.Tag

/-!
# Entities and values

A document type may declare entities, which stand for texts, and what the attributes of an element
are. `Value.text` is the value of an attribute with its references replaced. No entity may contain
itself, and all texts that entities stand for together may not be out of proportion to the document
(`Budget`).
-/

namespace ModuleAudit.Markup

/-- What an entity stands for. -/
inductive Entity
  /-- A text of some bytes. -/
  | internal (text : List Char) (size : Nat)
  /-- Kept in another document; `binary` when it is not text. -/
  | external (binary : Bool)
  deriving Repr

/-- What is declared of an attribute of an element. -/
structure AttributeRule where
  element : QualifiedName
  name : QualifiedName
  /-- Whether blanks around and between the words of a value do not count. -/
  inWords : Bool
  /-- The value where none is given. -/
  value : Option String
  deriving Repr

/-- What a document type declares. -/
structure Declarations where
  entities : List (List Char × Entity) := []
  /-- Of two rules for one attribute of an element the first counts. -/
  rules : List AttributeRule := []
  /-- Whether there may be declarations that are not read. -/
  incomplete : Bool := false
  /-- Whether the document says that it needs no declarations from outside. -/
  standalone : Bool := false
  deriving Repr

namespace Declarations

/-- Whether an entity that is not declared may be declared where it is not read. -/
def mayHide (d : Declarations) : Bool := d.incomplete && !d.standalone

/-- The rules for the attributes of an element. -/
def rulesFor (d : Declarations) (element : QualifiedName) : List AttributeRule :=
  d.rules.filter (·.element == element)

/-- Adds a rule. One that gives a value, or that identifies elements, does not follow another for
the same attribute. -/
def addRule (d : Declarations) (identifies : Bool) (rule : AttributeRule) : Declarations :=
  let isKnown := (d.rulesFor rule.element).any (·.name == rule.name)
  if isKnown && (identifies || rule.value.isSome) then d else { d with rules := d.rules ++ [rule] }

/-- Adds an entity, unless its name is taken. -/
def addEntity (d : Declarations) (name : List Char) (e : Entity) : Declarations :=
  if (predefined.lookup name).isSome || (d.entities.lookup name).isSome then d
  else { d with entities := (name, e) :: d.entities }

end Declarations

/-! ## The proportion of entities to the document -/

/-- How much entities have added to a document. -/
structure Budget where
  /-- The bytes of the document. -/
  size : Nat
  /-- The document after the part at hand. -/
  rest : List Char
  /-- The bytes of the document up to there, if they have been counted. -/
  counted : Option Nat := none
  /-- The bytes of attributes that are read a second time. -/
  reread : Nat := 0
  /-- The bytes that entities have added. -/
  added : Nat := 0

namespace Budget

/-- How many bytes may be read whatever adds them. -/
def alwaysAllowed : Nat := 8 * 1024 * 1024

/-- How many times as long as the document what is read may be. -/
def greatestFactor : Nat := 100

/-- The bytes of the document that have been read, and the budget that remembers them. -/
def direct (b : Budget) : Nat × Budget :=
  match b.counted with
  | some n => (n + b.reread, b)
  | none =>
    let n := b.size - byteLength b.rest
    (n + b.reread, { b with counted := some n })

end Budget

/-- Reading that keeps to a budget. -/
abbrev Reading := StateT Budget (Except Malformed)

namespace Reading

/-- Ends the reading: the part at hand is not well-formed. -/
def fail {α : Type} (cause : Cause) : Reading α := throw ⟨cause, none⟩

/-- Ends the reading: the document is not well-formed at a place. -/
def failAt {α : Type} (cause : Cause) (place : List Char) : Reading α := throw ⟨cause, some place⟩

/-- Goes on after a part of the document. -/
def advance (rest : List Char) : Reading Unit :=
  modify fun b => { b with rest, counted := none }

/-- Adds bytes that come from an entity. -/
def charge (bytes : Nat) : Reading Unit := do
  let b ← get
  let added := b.added + bytes
  if b.size + b.reread + added < Budget.alwaysAllowed then set { b with added }
  else
    let (direct, b) := b.direct
    let total := direct + added
    if total < Budget.alwaysAllowed || total ≤ Budget.greatestFactor * direct then
      set { b with added }
    else fail .amplification

/-- Runs a reading whose errors have a place that some function finds in the document. -/
def placing {α : Type} (f : Malformed → Malformed) (x : Reading α) : Reading α := fun b =>
  (x b).mapError f

end Reading

/-! ## Values -/

namespace Value

/-- The blanks that count between the words of a value: one between two words. -/
def inWords (s : String) : String :=
  " ".intercalate ((s.splitOn " ").filter fun w => !w.isEmpty)

/-- Goes on with the value of an attribute. `expand` adds what an entity stands for; in the text of
an entity (`folds` is false) errors have no place. At most `fuel` parts. -/
def readWith (expand : List Char → String → Reading String) (folds : Bool) :
    (fuel : Nat) → (value : String) → List Char → Reading String
  | 0, value, _ => return value
  | _ + 1, value, [] => return value
  | fuel + 1, value, c :: rest => do
    if c == '&' then
      match scanReference rest with
      | .error (.invalid place) => Reading.failAt .invalidToken place
      | .error .unfinished => Reading.failAt .invalidToken (c :: rest)
      | .ok (.character code, rest') =>
        match characterOf? code with
        | some d => readWith expand folds fuel (value.push d) rest'
        | none => Reading.failAt .invalidCharacterNumber (c :: rest)
      | .ok (.entity name, rest') =>
        let value ← (expand name value).placing fun e =>
          if e.place.isSome then { e with place := some (c :: rest) } else e
        readWith expand folds fuel value rest'
    else if c == '<' then Reading.failAt .invalidToken (c :: rest)
    else if c == '\r' && folds && rest.head? == some '\n' then
      readWith expand folds fuel (value.push ' ') (rest.drop 1)
    else readWith expand folds fuel (value.push (if isSpace c then ' ' else c)) rest

/-- Adds what an entity stands for to the value of an attribute; `depth` bounds the nesting, and
`within` holds the entities that are being replaced. Errors have a place if they are errors of the
reference. -/
def expand (d : Declarations) : (depth : Nat) → (within : List (List Char)) → List Char → String →
    Reading String
  | 0, _, _, _ => Reading.fail .recursiveEntity
  | depth + 1, within, name, value => do
    match predefined.lookup name with
    | some c =>
      modify fun b => { b with added := b.added + 1 }
      return value.push c
    | none =>
      match d.entities.lookup name with
      | none => if d.mayHide then return value else Reading.fail .undefinedEntity
      | some (.external true) => Reading.failAt .binaryEntity []
      | some (.external false) => Reading.failAt .externalEntityInAttribute []
      | some (.internal text size) =>
        if within.contains name then Reading.fail .recursiveEntity
        else
          Reading.charge size
          (readWith (expand d depth (name :: within)) false (text.length + 1) value text).placing
            Malformed.placeless

/-- The value of an attribute as it is written: in the document or, if `folds` is false, in the text
of an entity, with `within` for the entities that are being replaced. Errors have places in what is
written. -/
def text (d : Declarations) (folds : Bool) (within : List (List Char)) (words : Bool)
    (written : List Char) : Reading String := do
  let value ← readWith (expand d (d.entities.length + 1) within) folds (written.length + 1) "" written
  return if words then inWords value else value

/-- Whether a value has to be read again to be replaced: it has references, or white space that does
not stand alone between two words. -/
def needsRereading (written : List Char) : Bool :=
  written.any (fun c => c == '&' || (isSpace c && c != ' ')) ||
    written.head? == some ' ' || written.getLast? == some ' ' ||
    (written.zip (written.drop 1)).any fun (a, b) => a == ' ' && b == ' '

end Value

/-! ## The texts of entities -/

/-- What a percent sign begins. -/
inductive Percent
  /-- A reference to a parameter entity. -/
  | reference
  /-- The sign alone. -/
  | sign
  deriving DecidableEq, Repr

/-- What a percent sign begins, after it. -/
def scanPercent : Scanner Percent
  | [] => .error .unfinished
  | c :: rest => do
    if isSpace c || c == '%' then return (.sign, c :: rest)
    else
      let (_, rest) ← scanName (c :: rest)
      return (.reference, ← expectChar ';' rest)

/-- The text that an entity is declared to stand for: references to characters are replaced, those
to entities stay, and line ends are made one. Errors have places in the written text. -/
def entityText : (fuel : Nat) → (done : List Char) → List Char → Except Malformed (List Char)
  | 0, done, _ => .ok done.reverse
  | _ + 1, done, [] => .ok done.reverse
  | fuel + 1, done, c :: rest => do
    if c == '&' then
      match scanReference rest with
      | .error (.invalid place) => failAt .invalidToken place
      | .error .unfinished => failAt .invalidToken (c :: rest)
      | .ok (.character code, rest') =>
        match characterOf? code with
        | some d => entityText fuel (d :: done) rest'
        | none => failAt .invalidCharacterNumber (c :: rest)
      | .ok (.entity _, _) => entityText fuel (c :: done) rest
    else if c == '%' then
      match scanPercent rest with
      | .error (.invalid place) => failAt .invalidToken place
      | .error .unfinished => failAt .invalidToken (c :: rest)
      | .ok (.sign, place) => failAt .invalidToken place
      | .ok (.reference, _) => failAt .parameterReference (c :: rest)
    else if c == '\r' then
      let rest := if rest.head? == some '\n' then rest.drop 1 else rest
      entityText fuel ('\n' :: done) rest
    else entityText fuel (c :: done) rest

end ModuleAudit.Markup
