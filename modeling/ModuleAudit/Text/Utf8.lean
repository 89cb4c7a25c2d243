/-!
# Reading UTF-8

`Utf8.decode` splits bytes into characters and faulty stretches. A stretch is the longest prefix of
a character's bytes that could still have become one, and at least one byte. `Utf8.decodeLossy` puts
a replacement character in place of each stretch; `Utf8.decodeStrict?` refuses the bytes when there
is one.
-/

namespace ModuleAudit.Text.Utf8

/-- The bytes allowed in second place after a leading byte, and how many bytes follow the leading
byte; `none` when no character starts with the byte. -/
def continuation? (lead : UInt8) : Option (UInt8 × UInt8 × Nat) :=
  if 0xc2 ≤ lead && lead ≤ 0xdf then some (0x80, 0xbf, 1)
  else if lead == 0xe0 then some (0xa0, 0xbf, 2)
  else if lead == 0xed then some (0x80, 0x9f, 2)
  else if 0xe1 ≤ lead && lead ≤ 0xef then some (0x80, 0xbf, 2)
  else if lead == 0xf0 then some (0x90, 0xbf, 3)
  else if 0xf1 ≤ lead && lead ≤ 0xf3 then some (0x80, 0xbf, 3)
  else if lead == 0xf4 then some (0x80, 0x8f, 3)
  else none

/-- The payload of the leading byte of a character with `n` further bytes. -/
def leadBits (lead : UInt8) (n : Nat) : Nat := lead.toNat % Nat.pow 2 (6 - n)

/-- Reads `n` further bytes of a character of which `code` has been read, the first of them between
`lo` and `hi`, with the bytes that remain. `none` marks a faulty stretch, which ends before the
byte that does not fit. -/
def decodeRest (code : Nat) (lo hi : UInt8) : Nat → List UInt8 → Option Char × List UInt8
  | 0, bytes => (some (Char.ofNat code), bytes)
  | _ + 1, [] => (none, [])
  | n + 1, b :: rest =>
    if lo ≤ b && b ≤ hi then decodeRest (code * 64 + b.toNat % 64) 0x80 0xbf n rest
    else (none, b :: rest)

theorem length_decodeRest_le (code : Nat) (lo hi : UInt8) (n : Nat) (bytes : List UInt8) :
    (decodeRest code lo hi n bytes).2.length ≤ bytes.length := by
  induction n generalizing code lo hi bytes with
  | zero => simp [decodeRest]
  | succ n ih =>
    cases bytes with
    | nil => simp [decodeRest]
    | cons b rest =>
      rw [decodeRest]
      split
      · exact Nat.le_succ_of_le (ih ..)
      · exact Nat.le_refl _

/-- The characters that the bytes spell, with `none` for each faulty stretch. -/
def decode : List UInt8 → List (Option Char)
  | [] => []
  | b :: rest =>
    if b < 0x80 then some (Char.ofNat b.toNat) :: decode rest
    else
      match continuation? b with
      | none => none :: decode rest
      | some (lo, hi, n) =>
        let read := decodeRest (leadBits b n) lo hi n rest
        read.1 :: decode read.2
termination_by bytes => bytes.length
decreasing_by
  all_goals first
    | exact Nat.lt_succ_self _
    | exact Nat.lt_succ_of_le (length_decodeRest_le ..)

/-- The text with a replacement character for each faulty stretch. -/
def decodeLossy (bytes : List UInt8) : List Char := (decode bytes).map (·.getD '\ufffd')

/-- The text, if no stretch is faulty. -/
def decodeStrict? (bytes : List UInt8) : Option (List Char) := (decode bytes).mapM id

end ModuleAudit.Text.Utf8
