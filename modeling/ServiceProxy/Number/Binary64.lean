/-! Non-negative binary floating-point numbers of double precision, in exact arithmetic.
A number is `mantissa · 2 ^ exponent`; a quotient of naturals is rounded to the nearest one,
and of two equally near to the one with the even mantissa. -/

set_option autoImplicit false

namespace ServiceProxy

structure Binary64 where
  mantissa : Nat
  exponent : Int
  deriving DecidableEq, Repr, Inhabited

namespace Binary64

def leastExponent : Int := -1074

def greatestExponent : Int := 971

def zero : Binary64 := ⟨0, leastExponent⟩

def shift (num den : Nat) (power : Int) : Nat × Nat :=
  match power with
  | .ofNat k => (num * Nat.pow 2 k, den)
  | .negSucc k => (num, den * Nat.pow 2 (k + 1))

def roundHalfEven (num den : Nat) : Nat :=
  let low := num / den
  let rest := num % den
  if 2 * rest < den then low
  else if den < 2 * rest then low + 1
  else low + low % 2

/-- The exponent at which the quotient has 53 bits, or the least one. -/
def scaleOf (num den : Nat) : Int :=
  let guess : Int := (num.log2 : Int) - (den.log2 : Int) - 52
  -- By the lengths in bits the guess is right or one too great.
  let (n, d) := shift num den (-guess)
  max leastExponent (if n / d < Nat.pow 2 52 then guess - 1 else guess)

/-- Nothing where the quotient rounds beyond the greatest finite number. -/
def ofRatio? (num den : Nat) : Option Binary64 :=
  if num = 0 then some zero
  else
    let exponent := scaleOf num den
    let (n, d) := shift num den (-exponent)
    let mantissa := roundHalfEven n d
    -- Rounding up may carry into a 54th bit.
    let rounded : Binary64 :=
      if mantissa = Nat.pow 2 53 then ⟨Nat.pow 2 52, exponent + 1⟩ else ⟨mantissa, exponent⟩
    if greatestExponent < rounded.exponent then none else some rounded

def ofDecimal? (digits : Nat) (power : Int) : Option Binary64 :=
  match power with
  | .ofNat k => ofRatio? (digits * Nat.pow 10 k) 1
  | .negSucc k => ofRatio? digits (Nat.pow 10 (k + 1))

def ratio (x : Binary64) : Nat × Nat := shift x.mantissa 1 x.exponent

def times? (x y : Binary64) : Option Binary64 :=
  ofRatio? (x.ratio.1 * y.ratio.1) (x.ratio.2 * y.ratio.2)

def over? (x y : Binary64) : Option Binary64 :=
  ofRatio? (x.ratio.1 * y.ratio.2) (x.ratio.2 * y.ratio.1)

end Binary64

end ServiceProxy
