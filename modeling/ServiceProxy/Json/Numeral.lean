import ServiceProxy.Datum.Basic
import ServiceProxy.Number.Shortest

/-! Numbers of JSON text.

A number without fraction and exponent that fits 64 bits is an integer. All others are floating
point: the leading digits that fit 64 bits are taken as a whole number and scaled by a power of
ten, each step rounded. -/

set_option autoImplicit false

namespace ServiceProxy.Json

structure Numeral where
  negative : Bool
  whole : List Char
  fraction : List Char := []
  power : Option Int := none
  deriving DecidableEq, Repr

namespace Numeral

def powerAfter? (cs : List Char) : Option (Int × List Char) :=
  let (negative, rest) := match cs with
    | '+' :: rest => (false, rest)
    | '-' :: rest => (true, rest)
    | rest => (false, rest)
  let (digits, rest) := rest.span Char.isDigit
  if digits.isEmpty then none
  else
    let size : Int := Decimal.value digits
    some (if negative then -size else size, rest)

def fractionAfter? (cs : List Char) : Option (List Char × List Char) :=
  let (digits, rest) := cs.span Char.isDigit
  if digits.isEmpty then none else some (digits, rest)

def scanPower? (n : Numeral) (cs : List Char) : Option (Numeral × List Char) :=
  match cs with
  | 'e' :: rest | 'E' :: rest => do
    let (power, rest) ← powerAfter? rest
    return ({ n with power := some power }, rest)
  | rest => some (n, rest)

def scanFraction? (n : Numeral) (cs : List Char) : Option (Numeral × List Char) :=
  match cs with
  | '.' :: rest => do
    let (fraction, rest) ← fractionAfter? rest
    scanPower? { n with fraction } rest
  | rest => scanPower? n rest

/-- The number at the start of a text. A leading zero stands alone. -/
def scan? (cs : List Char) : Option (Numeral × List Char) :=
  let (negative, rest) := match cs with
    | '-' :: rest => (true, rest)
    | rest => (false, rest)
  let (whole, rest) := rest.span Char.isDigit
  match whole with
  | [] => none
  | '0' :: _ :: _ => none
  | _ => scanFraction? { negative, whole } rest

def digitValue (c : Char) : Nat := c.toNat - '0'.toNat

/-- Digits taken up into a significand of 64 bits, with the count of those that no longer fit.
Once one does not fit, none after it is taken. -/
def takeUp (state : Nat × Nat) (c : Char) : Nat × Nat :=
  let (significand, dropped) := state
  let next := significand * 10 + digitValue c
  if dropped = 0 ∧ next < UInt64.size then (next, 0) else (significand, dropped + 1)

def scaled (n : Numeral) : Nat × Int :=
  let (whole, dropped) := n.whole.foldl takeUp (0, 0)
  let (significand, ignored) := n.fraction.foldl takeUp (whole, 0)
  (significand, dropped - (n.fraction.length - ignored : Nat) + n.power.getD 0)

def powerOfTen (k : Nat) : Binary64 := (Binary64.ofDecimal? 1 k).getD .zero

/-- Division by a power of ten, in steps of at most 308 places. -/
def shrink (x : Binary64) (places : Nat) : Binary64 :=
  if h : places ≤ 308 then (x.over? (powerOfTen places)).getD .zero
  else if x.mantissa = 0 then x
  else shrink ((x.over? (powerOfTen 308)).getD .zero) (places - 308)
termination_by places
decreasing_by omega

def real? (n : Numeral) : Option Binary64 :=
  let (significand, power) := n.scaled
  let x := (Binary64.ofRatio? significand 1).getD .zero
  match power with
  | .negSucc k => some (shrink x (k + 1))
  | .ofNat k =>
    if x.mantissa = 0 then some x
    else if k ≤ 308 then x.times? (powerOfTen k)
    else none

/-- Positional from `0.00001` up to below `10 ^ 16`; a tie goes to the even digit. -/
def style : FloatStyle := ⟨.toEven, fun lead => -5 ≤ lead ∧ lead ≤ 15⟩

def asReal (n : Numeral) : Datum :=
  match n.real? with
  | none => .unfit
  | some x => .real (style.write n.negative x)

/-- Negative zero is no integer. -/
def datum (n : Numeral) : Datum :=
  let size := Decimal.value n.whole
  if n.fraction ≠ [] ∨ n.power.isSome then n.asReal
  else if n.negative then
    if 0 < size ∧ size ≤ Nat.pow 2 63 then .integer (-(size : Int)) else n.asReal
  else if size < UInt64.size then .integer size
  else n.asReal

end Numeral

end ServiceProxy.Json
