/-!
# Matching brackets

`closing?` finds the bracket that closes the one in front of a text, counting the brackets opened in
between.
-/

namespace ModuleAudit.Java

/-- How many characters stand before the closing bracket that brings `depth` open brackets down to
none; `none` if there is no such bracket. -/
def closing? (opener closer : Char) (depth : Nat) : List Char → Option Nat
  | [] => none
  | c :: rest =>
    if c == opener then (closing? opener closer (depth + 1) rest).map (· + 1)
    else if c == closer then
      if depth ≤ 1 then some 0 else (closing? opener closer (depth - 1) rest).map (· + 1)
    else (closing? opener closer depth rest).map (· + 1)

/-- The offset of the bracket that closes the one at `offset`. -/
def closingAt? (opener closer : Char) (s : List Char) (offset : Nat) : Option Nat :=
  (closing? opener closer 1 (s.drop (offset + 1))).map (· + (offset + 1))

end ModuleAudit.Java
