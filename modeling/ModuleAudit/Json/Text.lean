import ModuleAudit.Json.Basic
import ModuleAudit.Number.Text
import ModuleAudit.Text.Quoted

/-!
# Writing JSON

Both writers use ASCII characters only: quotes, backslashes and controls get their short escapes
where JSON has one, everything else outside the visible ASCII range is written in units of 16 bits.
`Json.compact` writes a document on one line; `Json.indented` gives every item and member a line of
its own, two blanks further in than what holds it.
-/

namespace ModuleAudit.Json

open ModuleAudit.Text (hexDigits)

/-- A unit of 16 bits as an escape. -/
def escapeUnit (n : Nat) : List Char := '\\' :: 'u' :: hexDigits 4 n

/-- One character inside a string. -/
def escapeChar (c : Char) : List Char :=
  if c == '"' then ['\\', '"']
  else if c == '\\' then ['\\', '\\']
  else if c == '\n' then ['\\', 'n']
  else if c == '\r' then ['\\', 'r']
  else if c == '\t' then ['\\', 't']
  else if c == '\x08' then ['\\', 'b']
  else if c == '\x0c' then ['\\', 'f']
  else if 0x20 ≤ c.toNat && c.toNat ≤ 0x7e then [c]
  else if c.toNat < 0x10000 then escapeUnit c.toNat
  else
    let n := c.toNat - 0x10000
    escapeUnit (0xd800 + n / 0x400) ++ escapeUnit (0xdc00 + n % 0x400)

/-- A string between its quotes. -/
def quoted (s : String) : List Char := '"' :: s.toList.flatMap escapeChar ++ ['"']

/-- A number; the three values that are not finite have names. -/
def realText : Binary64 → List Char
  | .nan => "NaN".toList
  | .infinite negative => (if negative then "-Infinity" else "Infinity").toList
  | x => (x.text .exact).toList

/-- The text of a document without parts. -/
def atomText : Json → List Char
  | null => "null".toList
  | bool b => (if b then "true" else "false").toList
  | int n => (toString n).toList
  | real x => realText x
  | string s => quoted s
  | array _ => "[]".toList
  | object _ => "\x7b\x7d".toList

/-- A new line with `depth` levels of indentation. -/
def lineBreak (depth : Nat) : List Char := '\n' :: List.replicate (2 * depth) ' '

mutual

/-- A document whose first line starts at `depth` levels of indentation. -/
def indentedAt (depth : Nat) : Json → List Char
  | array (x :: xs) =>
    '[' :: lineBreak (depth + 1) ++ indentedAt (depth + 1) x ++ indentedItems (depth + 1) xs ++
      lineBreak depth ++ [']']
  | object ((k, x) :: ms) =>
    '\x7b' :: lineBreak (depth + 1) ++ quoted k ++ ':' :: ' ' :: indentedAt (depth + 1) x ++
      indentedMembers (depth + 1) ms ++ lineBreak depth ++ ['\x7d']
  | x => atomText x

/-- The items after the first one. -/
def indentedItems (depth : Nat) : List Json → List Char
  | [] => []
  | x :: xs => ',' :: lineBreak depth ++ indentedAt depth x ++ indentedItems depth xs

/-- The members after the first one. -/
def indentedMembers (depth : Nat) : List (String × Json) → List Char
  | [] => []
  | (k, x) :: ms =>
    ',' :: lineBreak depth ++ quoted k ++ ':' :: ' ' :: indentedAt depth x ++ indentedMembers depth ms

end

/-- The document with a line for every item and member. -/
def indented (j : Json) : String := String.ofList (indentedAt 0 j)

mutual

/-- The document on one line, as characters. -/
def compactChars : Json → List Char
  | array (x :: xs) => '[' :: compactChars x ++ compactItems xs ++ [']']
  | object ((k, x) :: ms) =>
    '\x7b' :: quoted k ++ ':' :: compactChars x ++ compactMembers ms ++ ['\x7d']
  | x => atomText x

/-- The items after the first one, on one line. -/
def compactItems : List Json → List Char
  | [] => []
  | x :: xs => ',' :: compactChars x ++ compactItems xs

/-- The members after the first one, on one line. -/
def compactMembers : List (String × Json) → List Char
  | [] => []
  | (k, x) :: ms => ',' :: quoted k ++ ':' :: compactChars x ++ compactMembers ms

end

/-- The document on one line. -/
def compact (j : Json) : String := String.ofList (compactChars j)

end ModuleAudit.Json
