import ModuleAudit.Text.Printable

/-!
# Quoted text

`quote` shows a text on one line between quotes, the way messages name a value that came from
outside. Single quotes are used unless the text holds a single quote and no double quote.
Backslashes, the quote in use and characters that are not printable are escaped.
-/

namespace ModuleAudit.Text

/-- The last `width` hexadecimal digits of a number, in small letters. -/
def hexDigits : (width : Nat) → Nat → List Char
  | 0, _ => []
  | width + 1, n => hexDigits width (n / 16) ++ [Nat.digitChar (n % 16)]

/-- One character of a text between the quotes `q`. -/
def quoteChar (q c : Char) : List Char :=
  if c == q || c == '\\' then ['\\', c]
  else if c == '\n' then ['\\', 'n']
  else if c == '\r' then ['\\', 'r']
  else if c == '\t' then ['\\', 't']
  else if isPrintable c then [c]
  else if c.toNat < 0x100 then '\\' :: 'x' :: hexDigits 2 c.toNat
  else if c.toNat < 0x10000 then '\\' :: 'u' :: hexDigits 4 c.toNat
  else '\\' :: 'U' :: hexDigits 8 c.toNat

/-- The quote put around a text. -/
def quoteFor (s : List Char) : Char := if s.contains '\x27' && !s.contains '"' then '"' else '\x27'

/-- The text between quotes, on one line. -/
def quote (s : String) : String :=
  let q := quoteFor s.toList
  String.ofList (q :: s.toList.flatMap (quoteChar q) ++ [q])

end ModuleAudit.Text
