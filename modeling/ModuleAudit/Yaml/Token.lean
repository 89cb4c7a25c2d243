import ModuleAudit.Yaml.Scalar
import ModuleAudit.Yaml.Tag

/-!
# The tokens of a YAML text

`Tokens.ofText` turns a text into tokens. Indentation becomes tokens that open and close
collections, and a key is marked in front although only the colon after it tells that it is one:
until then it is a pending key, which has to be short and on one line. Where a text breaks the rules
the tokens end, with the failure.
-/

namespace ModuleAudit.Yaml

/-- A token. -/
inductive Token
  | directive (d : Directive)
  | documentStart
  | documentEnd
  | sequenceStart
  | mappingStart
  /-- The end of a collection that indentation delimits. -/
  | blockEnd
  | flowSequenceStart
  | flowSequenceEnd
  | flowMappingStart
  | flowMappingEnd
  | entry
  | comma
  | key
  | value
  | aliasOf (name : String)
  | anchor (name : String)
  | tag (t : WrittenTag)
  | scalar (content : String) (isPlain : Bool)
  deriving DecidableEq, Repr

/-- Something that is a key if a colon follows. -/
structure PendingKey where
  /-- How many tokens stand before it. -/
  before : Nat
  /-- Whether it has to be a key, because it starts a line of a mapping. -/
  required : Bool
  spot : Spot
  deriving Repr

/-- How far the reading of tokens has come. -/
structure Progress where
  /-- The tokens, the last first. -/
  tokens : List Token := []
  count : Nat := 0
  /-- The columns of the open collections that indentation delimits, the innermost first. -/
  columns : List Nat := []
  /-- How many collections between brackets are open. -/
  depth : Nat := 0
  /-- Whether what comes next may be a key. -/
  keyAllowed : Bool := true
  /-- The pending keys, by depth. -/
  pending : List (Nat × PendingKey) := []

namespace Progress

/-- Whether collections between brackets are open. -/
def inFlow (p : Progress) : Bool := p.depth != 0

/-- The least column of what belongs to the innermost collection's entries. -/
def leastColumn (p : Progress) : Nat := (p.columns.head?.map (· + 1)).getD 0

/-- With a token at the end. -/
def emit (p : Progress) (t : Token) :
    Progress := { p with tokens := t :: p.tokens, count := p.count + 1 }

/-- With tokens put in after a number of tokens. -/
def insert (p : Progress) (before : Nat) (ts : List Token) : Progress :=
  let later := p.count - before
  { p with
    tokens := p.tokens.take later ++ ts.reverse ++ p.tokens.drop later
    count := p.count + ts.length }

/-- With the collections closed that lie deeper than a column; with all closed if there is none. -/
def close (p : Progress) (column : Option Nat) : List Nat → Progress
  | [] => { p with columns := [] }
  | c :: outer =>
    if column.all (· < c) then (p.emit .blockEnd).close column outer
    else { p with columns := c :: outer }

/-- With the collections closed that indentation has left. -/
def closeTo (p : Progress) (column : Option Nat) : Progress :=
  if p.inFlow then p else p.close column p.columns

/-- Whether a column opens a collection. -/
def opens (p : Progress) (column : Nat) : Bool := p.leastColumn ≤ column

/-- With a collection opened at a column, if it opens one; its token goes after a number of
tokens. -/
def openAt (p : Progress) (column before : Nat) (t : Token) : Progress :=
  if p.opens column then { p.insert before [t] with columns := column :: p.columns } else p

/-! ## Pending keys -/

/-- Whether a pending key can no longer be a key at a place: it is on another line or too long. -/
def isStale (k : PendingKey) (x : Spot) : Bool :=
  k.spot.line != x.line || x.index > k.spot.index + 1024

/-- Without the pending keys that can no longer be keys. -/
def dropStale (p : Progress) (x : Spot) : Except Failure Progress :=
  if p.pending.any fun (_, k) => isStale k x && k.required then .error .malformed
  else .ok { p with pending := p.pending.filter fun (_, k) => !isStale k x }

/-- The pending key at the current depth. -/
def pendingKey? (p : Progress) : Option PendingKey := p.pending.lookup p.depth

/-- Without a pending key at the current depth. -/
def forgetKey (p : Progress) : Progress := { p with pending := p.pending.filter (·.1 != p.depth) }

/-- Without a pending key at the current depth, which must not have been a key for certain. -/
def dropKey (p : Progress) : Except Failure Progress :=
  if p.pendingKey?.any (·.required) then .error .malformed else .ok p.forgetKey

/-- With a pending key at a place, if one may stand there. -/
def holdKey (p : Progress) (x : Spot) : Except Failure Progress := do
  if p.keyAllowed then
    let p ← p.dropKey
    let required := !p.inFlow && p.columns.head? == some x.column
    return { p with pending := (p.depth, ⟨p.count, required, x⟩) :: p.pending }
  else return p

/-- With keys allowed or not. -/
def allowKey (p : Progress) (allowed : Bool) : Progress := { p with keyAllowed := allowed }

end Progress

open Progress

/-! ## The kinds of tokens -/

/-- After a directive or a mark between documents all collections are closed. -/
def betweenDocuments (p : Progress) : Except Failure Progress := do
  return ((← (p.closeTo none).dropKey).allowKey false)

/-- The opening bracket `x` of a collection. -/
def openBracket (p : Progress) (x : Spot) (t : Token) : Except Failure Progress := do
  let p ← p.holdKey x
  return { (p.emit t).allowKey true with depth := p.depth + 1 }

/-- The closing bracket of a collection. -/
def closeBracket (p : Progress) (t : Token) : Except Failure Progress := do
  let p ← p.dropKey
  return { (p.emit t).allowKey false with depth := p.depth - 1 }

/-- The comma between entries. -/
def commaToken (p : Progress) :
    Except Failure Progress := do return (← p.dropKey).allowKey true |>.emit .comma

/-- The dash `x` before an entry. -/
def entryToken (p : Progress) (x : Spot) : Except Failure Progress := do
  if !p.inFlow && !p.keyAllowed then .error .malformed
  else
    let p := if p.inFlow then p else p.openAt x.column p.count .sequenceStart
    return (← (p.allowKey true).dropKey).emit .entry

/-- The question mark `x` before a key. -/
def keyToken (p : Progress) (x : Spot) : Except Failure Progress := do
  if !p.inFlow && !p.keyAllowed then .error .malformed
  else
    let p := if p.inFlow then p else p.openAt x.column p.count .mappingStart
    return (← (p.allowKey !p.inFlow).dropKey).emit .key

/-- The colon `x` after a key. What is pending was the key. -/
def valueToken (p : Progress) (x : Spot) : Except Failure Progress := do
  match p.pendingKey? with
  | some k =>
    let p := p.forgetKey.insert k.before [.key]
    let p := if p.inFlow then p else p.openAt k.spot.column k.before .mappingStart
    return (p.allowKey false).emit .value
  | none =>
    if !p.inFlow && !p.keyAllowed then .error .malformed
    else
      let p := if p.inFlow then p else p.openAt x.column p.count .mappingStart
      return (← (p.allowKey !p.inFlow).dropKey).emit .value

/-- A token that may be a key or stand before one, with what follows it. -/
def keyLike (p : Progress) (x : Spot) (read : Except Failure (Token × List Spot)) :
    Except Failure (Progress × List Spot) := do
  let p := (← p.holdKey x).allowKey false
  let (t, rest) ← read
  return (p.emit t, rest)

/-- The quoted scalar that starts after its quote, with what follows it. -/
def quotedToken (double : Bool) (rest : List Spot) : Except Failure (Token × List Spot) := do
  let (content, rest) ← quotedScalar double rest
  return (.scalar (String.ofList content) false, rest)

/-- The plain scalar at the front, with what follows it. -/
def plainToken (p : Progress) (x : Spot) (s : List Spot) :
    Except Failure (Progress × List Spot) := do
  let p := (← p.holdKey x).allowKey false
  let scalar := plainScalar p.inFlow p.leastColumn s
  return ((p.emit (.scalar (String.ofList scalar.content) true)).allowKey scalar.breaksLine, scalar.rest)

/-- The block that starts with an indicator, with what follows it. -/
def blockToken (p : Progress) (folded : Bool) (rest : List Spot) :
    Except Failure (Progress × List Spot) := do
  let p ← (p.allowKey true).dropKey
  let (content, rest) ← blockScalar folded p.leastColumn rest
  return (p.emit (.scalar (String.ofList content) false), rest)

/-- Whether a plain scalar can start at the front. -/
def startsPlain (inFlow : Bool) (x : Spot) (rest : List Spot) : Bool :=
  !(isGap x.char || "-?:,[]\x7b\x7d#&*!|>'\"%@\x60".toList.contains x.char) ||
    (!atGap rest && (x.char == '-' || (!inFlow && (x.char == '?' || x.char == ':'))))

/-! ## Reading tokens -/

/-- Reads the token that starts with `x`. -/
def readToken (p : Progress) (x : Spot) (rest : List Spot) :
    Except Failure (Progress × List Spot) := do
  let s := x :: rest
  let plain := if startsPlain p.inFlow x rest then plainToken p x s else .error .malformed
  if x.column == 0 && x.char == '%' then
    let p ← betweenDocuments p
    let (d, rest) ← directive rest
    return (p.emit (.directive d), rest)
  else if x.column == 0 && marksDocument '-' s then
    return ((← betweenDocuments p).emit .documentStart, s.drop 3)
  else if x.column == 0 && marksDocument '.' s then
    return ((← betweenDocuments p).emit .documentEnd, s.drop 3)
  else
    match x.char with
    | '[' => return (← openBracket p x .flowSequenceStart, rest)
    | '\x7b' => return (← openBracket p x .flowMappingStart, rest)
    | ']' => return (← closeBracket p .flowSequenceEnd, rest)
    | '\x7d' => return (← closeBracket p .flowMappingEnd, rest)
    | ',' => return (← commaToken p, rest)
    | '-' => if atGap rest then return (← entryToken p x, rest) else plain
    | '?' => if p.inFlow || atGap rest then return (← keyToken p x, rest) else plain
    | ':' => if p.inFlow || atGap rest then return (← valueToken p x, rest) else plain
    | '*' => keyLike p x ((anchorName rest).map fun (name, rest) => (.aliasOf name, rest))
    | '&' => keyLike p x ((anchorName rest).map fun (name, rest) => (.anchor name, rest))
    | '!' => keyLike p x ((writtenTag s).map fun (t, rest) => (.tag t, rest))
    | '|' => if p.inFlow then .error .malformed else blockToken p false rest
    | '>' => if p.inFlow then .error .malformed else blockToken p true rest
    | '\'' => keyLike p x (quotedToken false rest)
    | '"' => keyLike p x (quotedToken true rest)
    | _ => plain

/-- What follows the spaces, comments and line breaks at the front, and whether a line break was
among them. -/
def skipToToken (inComment breaksLine : Bool) : List Spot → List Spot × Bool
  | [] => ([], breaksLine)
  | x :: rest =>
    if isBreak x.char then skipToToken false true rest
    else if inComment || x.char == '#' then skipToToken true breaksLine rest
    else if x.char == ' ' || (x.char == '\ufeff' && x.index == 0) then
      skipToToken false breaksLine rest
    else (x :: rest, breaksLine)

/-- The tokens of a text, and the failure that they end with if they do not reach its end. -/
structure Tokens where
  list : List Token
  failure : Option Failure := none
  deriving DecidableEq, Repr

/-- The tokens in front of a failure. A pending key holds back the tokens from its place on, because
what it is comes out only after it; one that is stale at the place `s` that has been reached holds
back nothing. -/
def tokensBefore (failure : Failure) (p : Progress) (s : List Spot) : Tokens :=
  let holding := p.pending.filter fun (_, k) => s.head?.all (!isStale k ·)
  let ready := holding.foldl (fun n (_, k) => min n k.before) p.count
  ⟨p.tokens.reverse.take ready, some failure⟩

/-- Reads tokens up to the end of the text. -/
def readTokens : (fuel : Nat) → Progress → List Spot → Tokens
  | 0, p, s => tokensBefore .malformed p s
  | fuel + 1, p, last =>
    let (s, breaksLine) := skipToToken false false last
    let p := if breaksLine && !p.inFlow then p.allowKey true else p
    match s with
    | [] =>
      let p := p.closeTo none
      ⟨p.tokens.reverse, if p.pendingKey?.any (·.required) then some .malformed else none⟩
    | x :: rest =>
      match (do readToken ((← p.dropStale x).closeTo (some x.column)) x rest) with
      | .ok (p, rest) => readTokens fuel p rest
      | .error failure => tokensBefore failure p last

/-- The tokens of a text. -/
def Tokens.ofText (s : List Char) : Tokens :=
  if s.all isAllowed then readTokens (s.length + 1) {} (spots s) else ⟨[], some .malformed⟩

end ModuleAudit.Yaml
