import ServiceProxy.Datum.Basic
import ServiceProxy.Number.Shortest
import ServiceProxy.Toml.Text

/-! Numbers of TOML text. Integers have 64 bits with sign; floating-point numbers are rounded
once, to the nearest. -/

set_option autoImplicit false

namespace ServiceProxy.Toml

/-- Digits of some kind, where single underscores may stand between two of them. -/
def digitsAfter? (isDigit : Char → Bool) (read : List Char) : List Char → Option (List Char × List Char)
  | '_' :: c :: rest => if isDigit c then digitsAfter? isDigit (c :: read) rest else none
  | '_' :: [] => none
  | c :: rest =>
    if isDigit c then digitsAfter? isDigit (c :: read) rest else some (read.reverse, c :: rest)
  | [] => some (read.reverse, [])

def digits? (isDigit : Char → Bool) : List Char → Option (List Char × List Char)
  | c :: rest => if isDigit c then digitsAfter? isDigit [c] rest else none
  | [] => none

def whole? : List Char → Option (List Char × List Char)
  | '0' :: rest => some (['0'], rest)
  | cs => digits? Char.isDigit cs

def based? (base : Nat) (isDigit : Char → Bool) (cs : List Char) : Option (Datum × List Char) := do
  let (digits, rest) ← digits? isDigit cs
  let n ← baseValue? base digits
  if n < Nat.pow 2 63 then return (.integer n, rest) else none

def sign (cs : List Char) : Bool × List Char :=
  match cs with
  | '-' :: rest => (true, rest)
  | '+' :: rest => (false, rest)
  | rest => (false, rest)

def negateIf (negative : Bool) (n : Nat) : Int := if negative then -(n : Int) else n

/-- The decimal `digits · 10 ^ power`, rounded; decimals far out of range are not computed. -/
def round? (digits : List Char) (power : Int) : Option Binary64 :=
  let n := Decimal.value digits
  let magnitude := digits.length + power
  if n = 0 ∨ magnitude < -400 then some .zero
  else if 400 + (digits.length : Int) < magnitude then none
  else Binary64.ofDecimal? n power

/-- Always positional; a tie goes up. -/
def style : FloatStyle := ⟨.up, fun _ => true⟩

/-- A number beyond the greatest finite one is refused if it is positive. -/
def real? (negative : Bool) (digits : List Char) (power : Int) : Option Datum :=
  match round? digits power with
  | some x => some (.real (style.write negative x))
  | none => if negative then some (.real "-inf") else none

def exponent? (cs : List Char) : Option (Int × List Char) :=
  match cs with
  | 'e' :: rest | 'E' :: rest => do
    let (negative, rest) := sign rest
    let (digits, rest) ← digits? Char.isDigit rest
    return (negateIf negative (Decimal.value digits), rest)
  | rest => some (0, rest)

def special? (negative : Bool) : List Char → Option (Datum × List Char)
  | 'i' :: 'n' :: 'f' :: rest => some (.real (if negative then "-inf" else "inf"), rest)
  | 'n' :: 'a' :: 'n' :: rest => some (.real "NaN", rest)
  | _ => none

def integer? (negative : Bool) (digits : List Char) : Option Datum :=
  let n := Decimal.value digits
  if n < Nat.pow 2 63 ∨ (negative ∧ n = Nat.pow 2 63) then some (.integer (negateIf negative n)) else none

def decimal? (negative : Bool) (cs : List Char) : Option (Datum × List Char) := do
  let (whole, rest) ← whole? cs
  match rest with
  | '.' :: rest =>
    let (fraction, rest) ← digits? Char.isDigit rest
    let (power, rest) ← exponent? rest
    let datum ← real? negative (whole ++ fraction) (power - fraction.length)
    return (datum, rest)
  | 'e' :: _ | 'E' :: _ =>
    let (power, rest) ← exponent? rest
    let datum ← real? negative whole power
    return (datum, rest)
  | rest => return (← integer? negative whole, rest)

def number? (cs : List Char) : Option (Datum × List Char) :=
  match cs with
  | '0' :: 'x' :: rest => based? 16 (fun c => (hexValue? c).isSome) rest
  | '0' :: 'o' :: rest => based? 8 (fun c => '0' ≤ c && c ≤ '7') rest
  | '0' :: 'b' :: rest => based? 2 (fun c => c = '0' || c = '1') rest
  | cs =>
    let (negative, rest) := sign cs
    (special? negative rest) <|> (decimal? negative rest)

end ServiceProxy.Toml
