import ModuleAudit.Markup.Grammar

/-!
# Prologs

`scanWord` splits what stands around the outermost element into words, and `readProlog` follows the
grammar over them: it collects what is declared and ends where the outermost element starts.
-/

namespace ModuleAudit.Markup

/-! ## Words -/

/-- Whether characters are those of a name, with a prefix or without, or not. -/
inductive NameShape
  | plain
  | withPrefix
  | token
  deriving DecidableEq

/-- The word of some characters, last first. -/
def NameShape.word (shape : NameShape) (done : List Char) : Word :=
  match shape with
  | plain => .name done.reverse false
  | withPrefix => .name done.reverse true
  | token => .nameToken

/-- Whether a character may follow a word: white space or one of some signs. -/
def mayFollow (signs : String) (c : Char) : Bool := isSpace c || signs.toList.contains c

/-- Whether a character is a sign of repetition. -/
def isRepetition (c : Char) : Bool := c == '?' || c == '*' || c == '+'

/-- Goes on with the characters of a name. The end of the text ends a name too. -/
def scanNameWord : (shape : NameShape) → (done : List Char) → Scanner Word
  | shape, done, [] => .ok (shape.word done, [])
  | shape, done, c :: rest =>
    if isNameChar c then scanNameWord shape (c :: done) rest
    else if c == ':' then
      if shape != .plain then scanNameWord .token (c :: done) rest
      else
        match rest with
        | [] => .error .unfinished
        | d :: _ =>
          if isNameChar d then scanNameWord .withPrefix (c :: done) rest
          else if d.toNat < 0x80 then scanNameWord .token (c :: done) rest
          else .error (.invalid rest)
    else if mayFollow ">),|[%" c then .ok (shape.word done, c :: rest)
    else if isRepetition c && shape != .token then .ok (.repeated, rest)
    else .error (.invalid (c :: rest))

/-- A name after a number sign. -/
def scanMarker : Scanner Word
  | [] => .error .unfinished
  | c :: rest =>
    if isNameStart c then
      let (name, after) := rest.span isNameChar
      if after.head?.all (mayFollow ")>%|") then .ok (.marker (c :: name), after)
      else .error (.invalid after)
    else .error (.invalid (c :: rest))

/-- A literal, after its opening quote. -/
def scanLiteral (quote : Char) : Scanner Word := fun s => do
  let (written, rest) ← scanLiteralBody quote [] s
  if rest.head?.all (mayFollow ">%[") then return (.literal written s, rest)
  else .error (.invalid rest)

/-- What follows a closing parenthesis. -/
def scanCloseParen : Scanner Word
  | [] => .ok (.closeParen none, [])
  | c :: rest =>
    if isRepetition c then .ok (.closeParen (some c), rest)
    else if mayFollow ">,|)" c then .ok (.closeParen none, c :: rest)
    else .error (.invalid (c :: rest))

/-- What follows a closing bracket. -/
def scanCloseBracket : Scanner Word
  | [']'] => .error .unfinished
  | ']' :: '>' :: rest => .ok (.conditionalEnd, rest)
  | s => .ok (.closeBracket, s)

/-- Whether a keyword of a declaration may hold a character. -/
def isKeywordChar (c : Char) : Bool := c.isAlpha || c == '_'

/-- The start of a declaration, after its exclamation mark. A percent sign behind the keyword has to
start a reference. -/
def scanDeclaration : Scanner Word
  | [] => .error .unfinished
  | '-' :: rest => do return (.comment, ← scanComment rest)
  | '[' :: rest => .ok (.conditional, rest)
  | c :: rest => do
    if !isKeywordChar c then .error (.invalid (c :: rest))
    else
      let (more, after) := rest.span isKeywordChar
      match after with
      | [] => .error .unfinished
      | ['%'] => .error .unfinished
      | '%' :: d :: _ =>
        if isSpace d || d == '%' then .error (.invalid after)
        else return (.declaration (c :: more), after)
      | d :: _ =>
        if isSpace d then return (.declaration (c :: more), after) else .error (.invalid after)

/-- What follows an angle bracket. -/
def scanAngle (s : List Char) : Scanner Word
  | [] => .error .unfinished
  | '!' :: rest => scanDeclaration rest
  | '?' :: rest => do
    let (isDeclaration, rest) ← scanInstruction rest
    return (if isDeclaration then .xmlDeclaration else .instruction, rest)
  | c :: rest =>
    if isKeywordChar c || c.toNat ≥ 0x80 then .ok (.element, s) else .error (.invalid (c :: rest))

/-- The first word of a text that is not empty. -/
def scanWord : Scanner Word
  | [] => .error .unfinished
  | '<' :: rest => scanAngle ('<' :: rest) rest
  | '>' :: rest => .ok (.close, rest)
  | '[' :: rest => .ok (.openBracket, rest)
  | ']' :: rest => scanCloseBracket rest
  | '(' :: rest => .ok (.openParen, rest)
  | ')' :: rest => scanCloseParen rest
  | '|' :: rest => .ok (.bar, rest)
  | ',' :: rest => .ok (.comma, rest)
  | '#' :: rest => scanMarker rest
  | '%' :: rest => do
    let (p, rest) ← scanPercent rest
    return (if p == .reference then .parameterReference else .percent, rest)
  | c :: rest =>
    if isQuote c then scanLiteral c rest
    else if isSpace c then .ok (.space, skipSpace rest)
    else if isNameStart c then scanNameWord .plain [c] rest
    else if isNameChar c || c == ':' then scanNameWord .token [c] rest
    else .error (.invalid (c :: rest))

/-! ## The declaration of a document -/

/-- A setting of the declaration at the start of a document. -/
structure Setting where
  name : List Char
  /-- The text from the name on. -/
  place : List Char
  value : List Char
  /-- The text from the value on. -/
  valuePlace : List Char

/-- Whether the value of a setting may hold a character. -/
def isSettingChar (c : Char) : Bool := c.isAlphanum || c == '.' || c == '-' || c == '_'

/-- The next setting, which has to follow white space, and the text after it. An error is the place
of it. -/
def readSetting (s : List Char) : Except (List Char) (Option Setting × List Char) :=
  match s with
  | [] => .ok (none, [])
  | c :: rest =>
    if !isSpace c then .error s
    else
      match skipSpace rest with
      | [] => .ok (none, s)
      | place =>
        let (name, after) := place.span fun c => c != '=' && !isSpace c && c.toNat < 0x80
        let behind := skipSpace after
        if behind.head? != some '=' || name.isEmpty then .error behind
        else
          match skipSpace (behind.drop 1) with
          | [] => .error []
          | quote :: valuePlace =>
            let (value, after) := valuePlace.span isSettingChar
            if !isQuote quote then .error (quote :: valuePlace)
            else if after.head? != some quote then .error after
            else .ok (some ⟨name, place, value, valuePlace⟩, after.drop 1)

/-- Whether the document stands alone, given the setting that says so and the text after it. -/
def readStandalone (setting : Setting) (s : List Char) : Except (List Char) Bool := do
  let alone ←
    if setting.name != "standalone".toList then .error setting.place
    else if setting.value == "yes".toList then pure true
    else if setting.value == "no".toList then pure false
    else .error setting.valuePlace
  let rest := skipSpace s
  if rest.isEmpty then return alone else .error rest

/-- Whether the document stands alone, given the settings: a version, an encoding and a word on
standing alone, in this order, the last two as far as they are given. -/
def readSettings (s : List Char) : Except (List Char) Bool := do
  match ← readSetting s with
  | (none, rest) => .error rest
  | (some version, rest) =>
    if version.name != "version".toList then .error version.place
    else
      match ← readSetting rest with
      | (none, _) => return false
      | (some second, rest) =>
        if second.name != "encoding".toList then readStandalone second rest
        else if !second.value.head?.any Char.isAlpha then .error second.valuePlace
        else
          match ← readSetting rest with
          | (none, _) => return false
          | (some third, rest) => readStandalone third rest

/-- Whether the document stands alone, given the text from its declaration on and the text after the
declaration. -/
def readDeclaration (s rest : List Char) : Except Malformed Bool :=
  let behind := s.drop "<?xml".length
  let settings := behind.take (behind.length - rest.length - "?>".length)
  match readSettings settings with
  | .ok alone => .ok alone
  | .error place => failAt .badDeclaration (behind.drop (settings.length - place.length))

/-! ## The declarations -/

/-- Whether a public identifier may hold a character. -/
def isPublicIdChar (c : Char) : Bool := c.isAlphanum || " \r\n-'()+,./:=?;!*#@$_%".toList.contains c

/-- What has been read of a prolog. -/
structure Prolog where
  expecting : Expecting := .document
  declarations : Declarations := {}
  /-- Whether further declarations count. After a reference that is not followed, they do only in a
  document that stands alone. -/
  keeps : Bool := true

namespace Prolog

/-- The place in the document of an error in a literal, whose errors have places in what is
written. -/
def inLiteral (written place : List Char) (e : Malformed) : Malformed :=
  { e with place := e.place.map fun p => place.drop (written.length - p.length) }

/-- Reads what a word declares; the word stands at `s` and before `rest`. -/
def declare (p : Prolog) (s rest : List Char) : Declared → Reading Prolog
  | .nothing => return p
  | .element => return p
  | .xmlDeclaration => do
    let standalone ← readDeclaration s rest
    return { p with declarations := { p.declarations with standalone } }
  | .doctypeOutside => return { p with declarations := { p.declarations with incomplete := true } }
  | .publicId written place => do
    match (written.span isPublicIdChar).2 with
    | [] => return p
    | wrong => Reading.failAt .badPublicId (place.drop (written.length - wrong.length))
  | .unreadReference =>
    return { p with
      declarations := { p.declarations with incomplete := true }
      keeps := p.declarations.standalone }
  | .entityText name written place => do
    if p.keeps then
      let text ← (entityText (written.length + 1) [] written).mapError (inLiteral written place)
      match name with
      | none => return p
      | some name =>
        let e := Entity.internal text (byteLength text)
        return { p with declarations := p.declarations.addEntity name e }
    else return p
  | .entityOutside name binary =>
    if p.keeps then
      return { p with declarations := p.declarations.addEntity name (.external binary) }
    else return p
  | .attributeRule a value => do
    if p.keeps then
      let value ← match value with
        | none => pure none
        | some (written, place) =>
          some <$> (Value.text p.declarations true [] a.inWords written).placing (inLiteral written place)
      let rule : AttributeRule := ⟨a.element, a.name, a.inWords, value⟩
      return { p with declarations := p.declarations.addRule a.identifies rule }
    else return p

/-- What is wrong with a word that is not expected. -/
def unexpected : Word → Cause
  | .parameterReference => .parameterReference
  | .xmlDeclaration => .misplacedDeclaration
  | _ => .grammar

/-- Reads a prolog up to the outermost element, which starts the text after it. At most `fuel`
words. -/
def read : (fuel : Nat) → Prolog → List Char → Reading (Declarations × List Char)
  | 0, _, s => Reading.failAt .noElement s
  | _ + 1, _, [] => Reading.failAt .noElement []
  | fuel + 1, p, s =>
    match scanWord s with
    | .error (.invalid place) => Reading.failAt .invalidToken place
    | .error .unfinished => Reading.failAt .unclosedToken s
    | .ok (w, rest) =>
      match p.expecting.next w with
      | none => Reading.failAt (unexpected w) s
      | some (_, .element) => return (p.declarations, s)
      | some (expecting, declared) => do
        Reading.advance rest
        let p ← (p.declare s rest declared).placing (·.orAt s)
        read fuel { p with expecting } rest

end Prolog

end ModuleAudit.Markup
