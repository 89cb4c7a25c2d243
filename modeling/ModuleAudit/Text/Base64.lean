/-!
# Bytes written in base 64

`Base64.decode?` reads bytes written with sixty-four characters, four for each three bytes.
Characters that do not belong are passed over. A group that is not full has to be filled up with
padding, which ends the text.
-/

namespace ModuleAudit.Text.Base64

/-- The value of a character. -/
def value? (c : Char) : Option Nat :=
  if 'A' ≤ c && c ≤ 'Z' then some (c.toNat - 'A'.toNat)
  else if 'a' ≤ c && c ≤ 'z' then some (c.toNat - 'a'.toNat + 26)
  else if '0' ≤ c && c ≤ '9' then some (c.toNat - '0'.toNat + 52)
  else if c == '+' then some 62
  else if c == '/' then some 63
  else none

/-- Reads on after `place` characters of a group, whose last one has left `left` over, and after
`pads` signs of padding. -/
def decodeFrom (place left pads : Nat) : List Char → Option (List UInt8)
  | [] => if place == 0 then some [] else none
  | c :: rest =>
    if c == '=' then
      if place ≥ 2 && place + pads + 1 ≥ 4 then some [] else
        decodeFrom place left (if place ≥ 2 then pads + 1 else pads) rest
    else
      match value? c with
      | none => decodeFrom place left pads rest
      | some v =>
        match place with
        | 0 => decodeFrom 1 v 0 rest
        | 1 => (decodeFrom 2 (v % 16) 0 rest).map (UInt8.ofNat (left * 4 + v / 16) :: ·)
        | 2 => (decodeFrom 3 (v % 4) 0 rest).map (UInt8.ofNat (left * 16 + v / 4) :: ·)
        | _ => (decodeFrom 0 0 0 rest).map (UInt8.ofNat (left * 64 + v) :: ·)

/-- The bytes that a text spells. -/
def decode? (s : List Char) : Option (List UInt8) := decodeFrom 0 0 0 s

end ModuleAudit.Text.Base64
