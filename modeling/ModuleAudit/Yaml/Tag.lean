import ModuleAudit.Json.Reading
import ModuleAudit.Text.Utf8
import ModuleAudit.Value.Whole
import ModuleAudit.Yaml.Spot

/-!
# Tags, anchors and directives of YAML

What stands beside the content of a node, and the lines before a document that start with a percent
sign.
-/

namespace ModuleAudit.Yaml

/-- A tag as it is written. -/
structure WrittenTag where
  /-- The short name in front of the tag, unless it is written in full. -/
  handle : Option String
  suffix : String
  deriving DecidableEq, Repr

/-- A line before a document. -/
inductive Directive
  /-- The version of YAML, of which the first number counts. -/
  | version (major : Nat)
  /-- A short name for the start of tags. -/
  | handle (name start : String)
  | unknown
  deriving DecidableEq, Repr

/-! ## Names -/

/-- The name at the front, and what follows it. -/
def takeName (s : List Spot) : Except Failure (String × List Spot) :=
  match spanWhile isNameChar s with
  | ([], _) => .error .malformed
  | (name, rest) => .ok (String.ofList name, rest)

/-- Whether a character may follow the name of an anchor. -/
def followsAnchor (c : Char) : Bool := isGap c || "?:,]\x7d%@\x60".toList.contains c

/-- The name of an anchor, and what follows it. -/
def anchorName (s : List Spot) : Except Failure (String × List Spot) := do
  let (name, rest) ← takeName s
  if endsOr followsAnchor rest then return (name, rest) else .error .malformed

/-! ## Tags -/

/-- Whether a character may occur in a tag as it is. -/
def isTagChar (c : Char) : Bool := c.isAlphanum || "-;/?:@&=+$,_.!~*'()[]".toList.contains c

/-- The bytes that escapes at the front stand for, and what follows them. -/
def escapedBytes : List Spot → Except Failure (List UInt8 × List Spot)
  | x :: a :: b :: rest =>
    if x.char == '%' then
      match Json.hexValue? a.char, Json.hexValue? b.char with
      | some a, some b => do
        let (bytes, rest) ← escapedBytes rest
        return (UInt8.ofNat (16 * a + b) :: bytes, rest)
      | _, _ => .error .malformed
    else .ok ([], x :: a :: b :: rest)
  | s => if front? s == some '%' then .error .malformed else .ok ([], s)

/-- The text of a tag, with its escapes carried out, and what follows it. -/
def tagChars : (fuel : Nat) → List Spot → Except Failure (List Char × List Spot)
  | 0, s => .ok ([], s)
  | fuel + 1, s => do
    let (plain, rest) := spanWhile isTagChar s
    if front? rest == some '%' then
      let (bytes, rest) ← escapedBytes rest
      match Text.Utf8.decodeStrict? bytes with
      | none => .error .malformed
      | some escaped =>
        let (more, rest) ← tagChars fuel rest
        return (plain ++ escaped ++ more, rest)
    else return (plain, rest)

/-- The text of a tag, which is not empty, and what follows it. -/
def tagText (s : List Spot) : Except Failure (String × List Spot) := do
  if endsOr (fun c => !isTagChar c && c != '%') s then .error .malformed
  else
    let (text, rest) ← tagChars (lengthOf s + 1) s
    return (String.ofList text, rest)

/-- The short name at the front: an exclamation mark, or a name between two of them. -/
def tagHandle (s : List Spot) : Except Failure (String × List Spot) :=
  match s with
  | x :: rest =>
    if x.char != '!' then .error .malformed
    else if front? rest == some ' ' then .ok ("!", rest)
    else
      let (name, rest) := spanWhile isNameChar rest
      match rest with
      | y :: rest =>
        if y.char == '!' then .ok (String.ofList ('!' :: name ++ ['!']), rest)
        else .error .malformed
      | [] => .error .malformed
  | [] => .error .malformed

/-- Whether the tag at the front, whose first mark is passed, has another mark, and so a short
name. -/
def hasHandle (s : List Spot) : Bool :=
  (s.takeWhile fun x => x.char != ' ' && !isBreak x.char).any (·.char == '!')

/-- The tag that starts after its mark; `s` starts with the mark. -/
def writtenTag (s : List Spot) : Except Failure (WrittenTag × List Spot) := do
  let body := s.drop 1
  let (tag, rest) ←
    if front? body == some '<' then do
      let (text, rest) ← tagText (body.drop 1)
      if front? rest == some '>' then pure (WrittenTag.mk none text, rest.drop 1)
      else .error .malformed
    else if atGap body then pure (WrittenTag.mk none "!", body)
    else do
      let (handle, rest) ← if hasHandle body then tagHandle s else pure ("!", body)
      let (text, rest) ← tagText rest
      pure (WrittenTag.mk (some handle) text, rest)
  if atSpace rest then return (tag, rest) else .error .malformed

/-! ## Directives -/

/-- The number at the front, and what follows it. -/
def takeNumber (s : List Spot) : Except Failure (Nat × List Spot) :=
  match spanWhile Char.isDigit s with
  | ([], _) => .error .malformed
  | (digits, rest) =>
    if digits.length > Value.mostDigits then .error (.fault (.tooManyDigits digits.length))
    else .ok (Json.digitsValue digits, rest)

/-- The version in a directive, and what follows it. -/
def versionDirective (s : List Spot) : Except Failure (Directive × List Spot) := do
  let (major, rest) ← takeNumber (skipSpaces s)
  if front? rest == some '.' then
    let (_, rest) ← takeNumber (rest.drop 1)
    if atSpace rest then return (.version major, rest) else .error .malformed
  else .error .malformed

/-- The short name in a directive with what it stands for, and what follows. -/
def handleDirective (s : List Spot) : Except Failure (Directive × List Spot) := do
  let (name, rest) ← tagHandle (skipSpaces s)
  if front? rest == some ' ' then
    let (start, rest) ← tagText (skipSpaces rest)
    if atSpace rest then return (.handle name start, rest) else .error .malformed
  else .error .malformed

/-- The directive that starts after its mark, and what follows its line. -/
def directive (s : List Spot) : Except Failure (Directive × List Spot) := do
  let (name, rest) ← takeName s
  if !atSpace rest then .error .malformed
  else
    let (d, rest) ←
      if name == "YAML" then versionDirective rest
      else if name == "TAG" then handleDirective rest
      else pure (.unknown, rest.dropWhile (!isBreak ·.char))
    return (d, ← restOfLine rest)

end ModuleAudit.Yaml
