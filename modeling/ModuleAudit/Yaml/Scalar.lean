import ModuleAudit.Json.Reading
import ModuleAudit.Yaml.Spot

/-!
# Scalars of YAML

A scalar is written plainly, between quotes, or as a block of lines. Over a line break a plain or
quoted scalar goes on: one break becomes a space, further ones are kept (`foldBreaks`). A block
keeps its breaks or folds them, and what follows its last line depends on its header.
-/

namespace ModuleAudit.Yaml

/-- What a gap with line breaks comes to: the first break and those after it. -/
def foldBreaks (first : List Char) (others : List Char) : List Char :=
  if first != ['\n'] then first ++ others else if others.isEmpty then [' '] else others

/-! ## Plain scalars -/

/-- Whether a plain scalar ends before the first character. In a flow collection some indicators end
it too. -/
def endsPlain (inFlow : Bool) (s : List Spot) : Bool :=
  match s with
  | [] => true
  | x :: rest =>
    isGap x.char ||
      (x.char == ':' &&
        endsOr (fun c => isGap c || (inFlow && ",[]\x7b\x7d".toList.contains c)) rest) ||
      (inFlow && ",?[]\x7b\x7d".toList.contains x.char)

/-- The characters of a plain scalar up to a gap or its end, and what follows them. -/
def plainRun (inFlow : Bool) : List Spot → List Char × List Spot
  | [] => ([], [])
  | x :: rest =>
    if endsPlain inFlow (x :: rest) then ([], x :: rest)
    else
      let (run, rest) := plainRun inFlow rest
      (x.char :: run, rest)

/-- The breaks of a gap after its first one, and what follows the gap; no breaks at all where
documents are divided. -/
def plainBreaks : List Spot → Option (List Char) × List Spot
  | [] => (some [], [])
  | x :: rest =>
    if x.char == ' ' then plainBreaks rest
    else if isBreak x.char then
      if atDocumentMark rest then (none, rest)
      else
        let (breaks, rest) := plainBreaks rest
        (breaks.map (normalBreak x.char :: ·), rest)
    else (some [], x :: rest)

/-- A gap in a plain scalar. -/
structure PlainGap where
  /-- What stands for the gap if the scalar goes on; empty if it cannot. -/
  text : List Char
  breaksLine : Bool
  rest : List Spot

/-- The gap at the front. -/
def plainGap (s : List Spot) : PlainGap :=
  let (spaces, s) := spanWhile (· == ' ') s
  match takeBreak s with
  | ([], _) => ⟨spaces, false, s⟩
  | (first, rest) =>
    if atDocumentMark rest then ⟨[], true, rest⟩
    else
      match plainBreaks rest with
      | (some breaks, rest) => ⟨foldBreaks first breaks, true, rest⟩
      | (none, rest) => ⟨[], true, rest⟩

/-- A plain scalar. -/
structure PlainScalar where
  content : List Char
  /-- Whether a line break stands between the scalar and what follows it. -/
  breaksLine : Bool
  rest : List Spot

/-- A plain scalar that goes on after the gap `gap`, as far as the lines start at the column `least`
or beyond. -/
def plainFrom (inFlow : Bool) (least : Nat) : (fuel : Nat) → PlainGap → PlainScalar
  | 0, gap => ⟨[], gap.breaksLine, gap.rest⟩
  | fuel + 1, gap =>
    match if front? gap.rest == some '#' then ([], gap.rest) else plainRun inFlow gap.rest with
    | ([], _) => ⟨[], gap.breaksLine, gap.rest⟩
    | (run, rest) =>
      let next := plainGap rest
      let outdented := !inFlow && next.rest.head?.any (·.column < least)
      let more := if next.text.isEmpty || front? next.rest == some '#' || outdented
        then ⟨[], next.breaksLine, next.rest⟩ else plainFrom inFlow least fuel next
      ⟨gap.text ++ run ++ more.content, more.breaksLine, more.rest⟩

/-- The plain scalar at the front. -/
def plainScalar (inFlow : Bool) (least : Nat) (s : List Spot) : PlainScalar :=
  plainFrom inFlow least (lengthOf s + 1) ⟨[], false, s⟩

/-! ## Quoted scalars -/

/-- The breaks after the first one of a gap in quotes. No document may end inside quotes. -/
def quotedBreaks (atStart : Bool) : List Spot → Except Failure (List Char × List Spot)
  | [] => .ok ([], [])
  | x :: rest =>
    if atStart && atDocumentMark (x :: rest) then .error .malformed
    else if isBlankChar x.char then quotedBreaks false rest
    else if isBreak x.char then do
      let (breaks, rest) ← quotedBreaks true rest
      return (normalBreak x.char :: breaks, rest)
    else .ok ([], x :: rest)

/-- What the gap at the front of quoted text comes to, and what follows it. -/
def quotedGap (s : List Spot) : Except Failure (List Char × List Spot) := do
  let (blanks, s) := spanWhile isBlankChar s
  match takeBreak s with
  | ([], _) => if s.isEmpty then .error .malformed else return (blanks, s)
  | (first, rest) =>
    let (breaks, rest) ← quotedBreaks true rest
    return (foldBreaks first breaks, rest)

/-- The scalar in single quotes that starts after its quote. A quote in it is written twice. -/
def singleQuoted : (fuel : Nat) → List Spot → Except Failure (List Char × List Spot)
  | 0, _ => .error .malformed
  | _, [] => .error .malformed
  | fuel + 1, x :: rest =>
    if x.char == '\'' then
      match rest with
      | y :: more =>
        if y.char == '\'' then do
          let (content, rest) ← singleQuoted fuel more
          return ('\'' :: content, rest)
        else .ok ([], rest)
      | [] => .ok ([], [])
    else if isGap x.char then do
      let (gap, rest) ← quotedGap (x :: rest)
      let (content, rest) ← singleQuoted fuel rest
      return (gap ++ content, rest)
    else do
      let (content, rest) ← singleQuoted fuel rest
      return (x.char :: content, rest)

/-- The character of an escape of one letter. -/
def shortEscape? (c : Char) : Option Char :=
  [('0', '\x00'), ('a', '\x07'), ('b', '\x08'), ('t', '\t'), ('\t', '\t'), ('n', '\n'), ('v', '\x0b'),
    ('f', '\x0c'), ('r', '\r'), ('e', '\x1b'), (' ', ' '), ('"', '"'), ('\\', '\\'), ('/', '/'),
    ('N', '\x85'), ('_', '\xa0'), ('L', '\u2028'), ('P', '\u2029')].lookup c

/-- How many hexadecimal digits follow the letter of an escape. -/
def escapeWidth? (c : Char) : Option Nat := [('x', 2), ('u', 4), ('U', 8)].lookup c

/-- The greatest number of the numbers that a system reads into one word. -/
def greatestWord : Nat := Nat.pow 2 31 - 1

/-- The character with a number. Halves of a character are replaced. -/
def charOfCode (n : Nat) : Except Failure Char :=
  if n > greatestWord then .error (.fault .wordOverflow)
  else if n ≥ 0x110000 then .error (.fault (.badValue "chr() arg not in range(0x110000)"))
  else .ok (if n.isValidChar then Char.ofNat n else '\ufffd')

/-- The number that hexadecimal digits spell, if there are as many as are asked for. -/
def hexNumber? (width : Nat) (digits : List Char) : Option Nat :=
  if digits.length < width then none
  else digits.foldl (fun n c => return 16 * (← n) + (← Json.hexValue? c)) (some 0)

/-- What the escape comes to that starts after its backslash, and what follows it. -/
def escape (s : List Spot) : Except Failure (List Char × List Spot) :=
  match s with
  | [] => .error .malformed
  | x :: rest =>
    match shortEscape? x.char, escapeWidth? x.char with
    | some c, _ => .ok ([c], rest)
    | none, some width =>
      match hexNumber? width (charsOf (rest.take width)) with
      | some n => return ([← charOfCode n], rest.drop width)
      | none => .error .malformed
    | none, none => if isBreak x.char then quotedBreaks true rest else .error .malformed

/-- The scalar in double quotes that starts after its quote. -/
def doubleQuoted : (fuel : Nat) → List Spot → Except Failure (List Char × List Spot)
  | 0, _ => .error .malformed
  | _, [] => .error .malformed
  | fuel + 1, x :: rest =>
    if x.char == '"' then .ok ([], rest)
    else do
      let (part, rest) ←
        if x.char == '\\' then escape rest
        else if isGap x.char then quotedGap (x :: rest)
        else .ok ([x.char], rest)
      let (content, rest) ← doubleQuoted fuel rest
      return (part ++ content, rest)

/-- The quoted scalar that starts after its quote. -/
def quotedScalar (double : Bool) (s : List Spot) : Except Failure (List Char × List Spot) :=
  if double then doubleQuoted (lengthOf s + 1) s else singleQuoted (lengthOf s + 1) s

/-! ## Blocks -/

/-- What becomes of the line breaks at the end of a block. -/
inductive Chomping
  | strip
  | clip
  | keep
  deriving DecidableEq, Repr

/-- The sign of a block's header. -/
def chomping? (c : Char) : Option Chomping :=
  if c == '+' then some .keep else if c == '-' then some .strip else none

/-- The depth of indentation in a block's header. -/
def increment? (c : Char) : Except Failure (Option Nat) :=
  if c == '0' then .error .malformed
  else .ok (if c.isDigit then some (c.toNat - '0'.toNat) else none)

/-- The header of a block: what becomes of its end, and its depth if it is given; in either
order. -/
def blockHeader (s : List Spot) : Except Failure (Chomping × Option Nat × List Spot) := do
  let (chomping, depth, s) ← match s with
    | [] => pure (Chomping.clip, none, [])
    | x :: rest =>
      match chomping? x.char, rest with
      | some c, [] => pure (c, none, rest)
      | some c, y :: more => do
        match ← increment? y.char with
        | some n => pure (c, some n, more)
        | none => pure (c, none, rest)
      | none, _ => do
        match ← increment? x.char, rest with
        | none, _ => pure (.clip, none, s)
        | some n, [] => pure (.clip, some n, rest)
        | some n, y :: more =>
          match chomping? y.char with
          | some c => pure (c, some n, more)
          | none => pure (.clip, some n, rest)
  if atSpace s then return (chomping, depth, ← restOfLine s) else .error .malformed

/-- The empty lines before a block's first line, the column of that line or of a longer empty line
before it, and what follows. -/
def blockStart : List Spot → List Char × Nat × List Spot
  | [] => ([], 0, [])
  | x :: rest =>
    if x.char == ' ' then
      let (breaks, column, rest) := blockStart rest
      (breaks, max (x.column + 1) column, rest)
    else if isBreak x.char then
      let (breaks, column, rest) := blockStart rest
      (normalBreak x.char :: breaks, column, rest)
    else ([], 0, x :: rest)

/-- The empty lines at the front of lines that start at a column, and what follows. -/
def blockBreaks (column : Nat) : List Spot → List Char × List Spot
  | [] => ([], [])
  | x :: rest =>
    if x.char == ' ' && x.column < column then blockBreaks column rest
    else if isBreak x.char then
      let (breaks, rest) := blockBreaks column rest
      (normalBreak x.char :: breaks, rest)
    else ([], x :: rest)

/-- The lines of a block, which start at a column; `breaks` are the empty lines before the first
one. Gives the text of the lines, the break after the last one, the empty lines after it, and what
follows. -/
def blockLines (folded : Bool) (column : Nat) :
    (fuel : Nat) → (breaks : List Char) → List Spot → List Char × List Char × List Char × List Spot
  | 0, breaks, s => ([], [], breaks, s)
  | fuel + 1, breaks, s =>
    if !s.head?.any (·.column == column) then ([], [], breaks, s)
    else
      let (line, rest) := spanWhile (!isBreak ·) s
      let (lineBreak, rest) := takeBreak rest
      let (next, rest) := blockBreaks column rest
      if rest.head?.any (·.column == column) then
        let joined :=
          folded && lineBreak == ['\n'] && !frontIs isBlankChar s && !frontIs isBlankChar rest
        let between := if !joined then lineBreak else if next.isEmpty then [' '] else []
        let (more, last, tail, rest) := blockLines folded column fuel next rest
        (breaks ++ line ++ between ++ more, last, tail, rest)
      else (breaks ++ line, lineBreak, next, rest)

/-- The block that starts after its indicator; `least` is the least column that its lines can start
at. -/
def blockScalar (folded : Bool) (least : Nat) (s : List Spot) :
    Except Failure (List Char × List Spot) := do
  let (chomping, depth, s) ← blockHeader s
  let (breaks, column, s) := match depth with
    | some n =>
      let column := max 1 least + n - 1
      let (breaks, s) := blockBreaks column s
      (breaks, column, s)
    | none =>
      let (breaks, column, s) := blockStart s
      (breaks, max (max 1 least) column, s)
  let (content, last, tail, rest) := blockLines folded column (lengthOf s + 1) breaks s
  let ending := match chomping with
    | .strip => []
    | .clip => last
    | .keep => last ++ tail
  return (content ++ ending, rest)

end ModuleAudit.Yaml
