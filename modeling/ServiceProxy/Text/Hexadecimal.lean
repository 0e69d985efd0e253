/-! Numbers written with letters for the digits above nine. -/

set_option autoImplicit false

namespace ServiceProxy

def hexValue? (c : Char) : Option Nat :=
  if c.isDigit then some (c.toNat - '0'.toNat)
  else if 'a' ≤ c ∧ c ≤ 'f' then some (c.toNat - 'a'.toNat + 10)
  else if 'A' ≤ c ∧ c ≤ 'F' then some (c.toNat - 'A'.toNat + 10)
  else none

/-- The number that some digits stand for in a base of at most sixteen. -/
def baseValue? (base : Nat) (digits : List Char) : Option Nat :=
  digits.foldlM (fun n c => (hexValue? c).map (n * base + ·)) 0

end ServiceProxy
