/-! Decimal text of natural numbers. Main statement: reading a written number gives it back. -/

set_option autoImplicit false

namespace ServiceProxy.Decimal

/-- Digits without leading zeros; zero is the single digit `0`. -/
def text (n : Nat) : String := String.ofList (Nat.toDigits 10 n)

def value (digits : List Char) : Nat := Nat.ofDigitChars 10 digits 0

/-- Leading zeros are allowed, an empty text is not. -/
def read? (digits : List Char) : Option Nat :=
  if digits ≠ [] ∧ digits.all Char.isDigit then some (value digits) else none

@[simp] theorem toList_text (n : Nat) : (text n).toList = Nat.toDigits 10 n := by
  simp [text]

theorem value_toDigits (n : Nat) : value (Nat.toDigits 10 n) = n :=
  Nat.ofDigitChars_toDigits (by decide) (by decide)

theorem text_injective {m n : Nat} (same : text m = text n) : m = n := by
  have digits := congrArg String.toList same
  rw [toList_text, toList_text] at digits
  rw [← value_toDigits m, digits, value_toDigits]

def port (p : UInt16) : String := text p.toNat

end ServiceProxy.Decimal
