import ServiceProxy.Text.Decimal

/-! Dates and times of TOML text. Only their form and ranges matter; none of a description's
fields is a moment in time. Each reader gives the text after what it has read. -/

set_option autoImplicit false

namespace ServiceProxy.Toml

def fixed? (count : Nat) (cs : List Char) : Option (Nat × List Char) :=
  let digits := cs.take count
  if digits.length = count ∧ digits.all Char.isDigit then some (Decimal.value digits, cs.drop count)
  else none

def after? (c : Char) : List Char → Option (List Char)
  | d :: rest => if d = c then some rest else none
  | [] => none

def isLeapYear (year : Nat) : Bool := year % 4 = 0 && (year % 100 ≠ 0 || year % 400 = 0)

def daysIn (year month : Nat) : Nat :=
  if month = 2 then (if isLeapYear year then 29 else 28)
  else if month = 4 ∨ month = 6 ∨ month = 9 ∨ month = 11 then 30
  else 31

def date? (cs : List Char) : Option (List Char) := do
  let (year, rest) ← fixed? 4 cs
  let (month, rest) ← fixed? 2 (← after? '-' rest)
  let (day, rest) ← fixed? 2 (← after? '-' rest)
  if 1 ≤ month ∧ month ≤ 12 ∧ 1 ≤ day ∧ day ≤ daysIn year month then return rest else none

def fraction? (cs : List Char) : Option (List Char) :=
  match cs with
  | '.' :: rest =>
    let (digits, rest) := rest.span Char.isDigit
    if digits.isEmpty then none else some rest
  | rest => some rest

/-- A time of day; leap seconds are allowed. -/
def time? (cs : List Char) : Option (List Char) := do
  let (hour, rest) ← fixed? 2 cs
  let (minute, rest) ← fixed? 2 (← after? ':' rest)
  let (second, rest) ← fixed? 2 (← after? ':' rest)
  if hour ≤ 23 ∧ minute ≤ 59 ∧ second ≤ 60 then fraction? rest else none

def offset? (cs : List Char) : Option (List Char) :=
  match cs with
  | 'Z' :: rest | 'z' :: rest => some rest
  | '+' :: rest | '-' :: rest => do
    let (hour, rest) ← fixed? 2 rest
    let (minute, rest) ← fixed? 2 (← after? ':' rest)
    if hour ≤ 23 ∧ minute ≤ 59 then return rest else none
  | _ => none

def timeOfDate? (cs : List Char) : Option (List Char) :=
  match cs with
  | 'T' :: rest | 't' :: rest | ' ' :: rest => do
    let rest ← time? rest
    return (offset? rest).getD rest
  | _ => none

def moment? (cs : List Char) : Option (List Char) :=
  match date? cs with
  | some rest => some ((timeOfDate? rest).getD rest)
  | none => time? cs

end ServiceProxy.Toml
