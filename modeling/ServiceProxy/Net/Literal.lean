import ServiceProxy.Net.Family
import ServiceProxy.Text.Decimal

/-! IP literals in text form.

An IPv4 literal is four decimal octets without leading zeros. An IPv6 literal is a list of
groups of one to four hexadecimal digits; the last two groups may be written as an IPv4
literal, and one `::` may stand for one or more zero groups. -/

set_option autoImplicit false

namespace ServiceProxy.Literal

def isOctet (digits : List Char) : Bool :=
  match digits with
  | [] => false
  | ['0'] => true
  | d :: ds => d != '0' && ds.length ≤ 2 && (d :: ds).all Char.isDigit && Decimal.value (d :: ds) ≤ 255

def isIPv4 (text : List Char) : Bool :=
  let octets := text.splitOn '.'
  octets.length == 4 && octets.all isOctet

def isHexDigit (c : Char) : Bool :=
  c.isDigit || ('a' ≤ c && c ≤ 'f') || ('A' ≤ c && c ≤ 'F')

def isGroup (digits : List Char) : Bool :=
  1 ≤ digits.length && digits.length ≤ 4 && digits.all isHexDigit

/-- The number of 16-bit groups that pieces between colons stand for. Only the last piece may
be an IPv4 literal, and only where `tail` allows it. -/
def groupCount? (tail : Bool) : List (List Char) → Option Nat
  | [] => some 0
  | [last] => if isGroup last then some 1 else if tail && isIPv4 last then some 2 else none
  | piece :: rest => if isGroup piece then (groupCount? tail rest).map (· + 1) else none

/-- The groups of one side of a `::`, where nothing at all stands for no groups. -/
def sideCount? (tail : Bool) (side : List Char) : Option Nat :=
  if side.isEmpty then some 0 else groupCount? tail (side.splitOn ':')

def splitGap? : List Char → Option (List Char × List Char)
  | [] => none
  | [_] => none
  | ':' :: ':' :: rest => some ([], rest)
  | c :: rest => (splitGap? rest).map fun sides => (c :: sides.1, sides.2)

def isIPv6 (text : List Char) : Bool :=
  match splitGap? text with
  | none => groupCount? true (text.splitOn ':') == some 8
  | some (head, tail) =>
    match sideCount? false head, sideCount? true tail with
    -- The gap stands for one group at least.
    | some h, some t => h + t ≤ 7
    | _, _ => false

def family? (text : String) : Option Family :=
  if isIPv4 text.toList then some .ipv4
  else if isIPv6 text.toList then some .ipv6
  else none

end ServiceProxy.Literal
