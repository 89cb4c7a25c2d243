import ModuleAudit.Number.Binary64

/-!
# Sums and products of double-precision numbers

The exact sum or product, rounded once to the nearest number.
-/

namespace ModuleAudit.Binary64

/-- The number nearest to a signed ratio. A ratio of zero gives zero without a sign. -/
def ofSigned (num : Int) (den : Nat) : Binary64 := ofRatio (num < 0) num.natAbs den

/-- The sum of two numbers. -/
def add : Binary64 → Binary64 → Binary64
  | nan, _ | _, nan => nan
  | infinite s, infinite t => if s == t then infinite s else nan
  | infinite s, _ => infinite s
  | _, infinite t => infinite t
  | finite s m e, finite s' m' e' =>
    if m == 0 && m' == 0 then zero (s && s')
    else
      let (n, d) := signedRatio s m e
      let (n', d') := signedRatio s' m' e'
      ofSigned (n * d' + n' * d) (d * d')

/-- The product of two numbers. -/
def mul : Binary64 → Binary64 → Binary64
  | nan, _ | _, nan => nan
  | infinite s, infinite t => infinite (s != t)
  | infinite s, finite t m _ => if m == 0 then nan else infinite (s != t)
  | finite s m _, infinite t => if m == 0 then nan else infinite (s != t)
  | finite s m e, finite s' m' e' =>
    let (n, d) := ratio m e
    let (n', d') := ratio m' e'
    ofRatio (s != s') (n * n') (d * d')

/-- The number with the other sign. -/
def neg : Binary64 → Binary64
  | nan => nan
  | infinite s => infinite (!s)
  | finite s m e => finite (!s) m e

end ModuleAudit.Binary64
