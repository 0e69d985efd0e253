import ServiceProxy.Number.Binary64
import ServiceProxy.Text.Decimal

/-! Shortest decimals: the fewest digits that read back as a given binary number, and of those
the nearest to it. -/

set_option autoImplicit false

namespace ServiceProxy

inductive Tie where
  | toEven
  | up
  deriving DecidableEq, Repr

structure ShortDecimal where
  digits : Nat
  exponent : Int
  deriving DecidableEq, Repr

namespace Binary64

/-- Quarter units of the last binary place: the number itself and the ends of the interval of
reals that round to it. -/
def centre (x : Binary64) : Nat := 4 * x.mantissa

def upper (x : Binary64) : Nat := 4 * x.mantissa + 2

def lower (x : Binary64) : Nat :=
  -- Below a power of two the numbers lie twice as close.
  if x.mantissa = Nat.pow 2 52 ∧ leastExponent < x.exponent then 4 * x.mantissa - 1 else 4 * x.mantissa - 2

/-- Quarter units on a scale that they share with multiples of `10 ^ power`. -/
def scaledQuarters (x : Binary64) (power : Int) (quarters : Nat) : Nat :=
  quarters * Nat.pow 2 (x.exponent - 2).toNat * Nat.pow 10 (-power).toNat

def scaledGrid (x : Binary64) (power : Int) (multiple : Nat) : Nat :=
  multiple * Nat.pow 10 power.toNat * Nat.pow 2 (2 - x.exponent).toNat

/-- The multiple of `10 ^ power` rounds to the number; the ends do if the mantissa is even. -/
def covers (x : Binary64) (power : Int) (multiple : Nat) : Bool :=
  let point := scaledGrid x power multiple
  let low := scaledQuarters x power x.lower
  let high := scaledQuarters x power x.upper
  if x.mantissa % 2 = 0 then low ≤ point && point ≤ high else low < point && point < high

/-- The one of a number's two neighbours on a decimal grid that reads back as the number. -/
def onGrid? (tie : Tie) (x : Binary64) (power : Int) : Option ShortDecimal :=
  let centre := scaledQuarters x power x.centre
  let below := centre / scaledGrid x power 1
  let above := below + 1
  match x.covers power below, x.covers power above with
  | false, false => none
  | true, false => some ⟨below, power⟩
  | false, true => some ⟨above, power⟩
  | true, true =>
    let middle := scaledGrid x power below + scaledGrid x power above
    if 2 * centre < middle then some ⟨below, power⟩
    else if middle < 2 * centre then some ⟨above, power⟩
    else
      match tie with
      | .up => some ⟨above, power⟩
      | .toEven => some (if below % 2 = 0 then ⟨below, power⟩ else ⟨above, power⟩)

/-- The number of digits before the decimal point; zero and less count zeros after it. -/
def magnitude (x : Binary64) : Int :=
  let (num, den) := x.ratio
  if den ≤ num then (Nat.toDigits 10 (num / den)).length
  else
    let places := (Nat.toDigits 10 (den / num)).length
    if num * Nat.pow 10 (places - 1) = den then 2 - (places : Int) else 1 - (places : Int)

/-- Seventeen digits always suffice. -/
def shortest? (tie : Tie) (x : Binary64) : Option ShortDecimal :=
  (List.range 17).findSome? fun i : Nat => x.onGrid? tie (x.magnitude - (i + 1 : Nat))

end Binary64

namespace ShortDecimal

/-- Without zeros at the end, which only a carry into a new place leaves. -/
def trimmed (d : ShortDecimal) : List Char × Int :=
  let digits := Nat.toDigits 10 d.digits
  let kept := (digits.reverse.dropWhile (· = '0')).reverse
  (kept, d.exponent + (digits.length - kept.length))

def positional (d : ShortDecimal) : List Char :=
  let (digits, exponent) := d.trimmed
  let point := digits.length + exponent
  if 0 ≤ exponent then digits ++ List.replicate exponent.toNat '0' ++ ['.', '0']
  else if 0 < point then digits.take point.toNat ++ ['.'] ++ digits.drop point.toNat
  else ['0', '.'] ++ List.replicate (-point).toNat '0' ++ digits

def lead (d : ShortDecimal) : Int :=
  let (digits, exponent) := d.trimmed
  digits.length + exponent - 1

def scientific (d : ShortDecimal) : List Char :=
  let (digits, _) := d.trimmed
  let fraction := digits.drop 1
  digits.take 1 ++ (if fraction.isEmpty then [] else '.' :: fraction) ++
    ['e', if d.lead < 0 then '-' else '+'] ++ Nat.toDigits 10 d.lead.natAbs

end ShortDecimal

structure FloatStyle where
  tie : Tie
  /-- Whether a number whose leading digit has this decimal exponent is written positionally. -/
  isPositional : Int → Bool

def FloatStyle.write (style : FloatStyle) (negative : Bool) (x : Binary64) : String :=
  let body :=
    if x.mantissa = 0 then ['0', '.', '0']
    else
      match x.shortest? style.tie with
      | none => []
      | some d => if style.isPositional d.lead then d.positional else d.scientific
  String.ofList (if negative then '-' :: body else body)

end ServiceProxy
