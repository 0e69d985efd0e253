import ServiceProxy.Net.Literal

/-! Socket addresses in text form: `a.b.c.d:port`, `[v6]:port` and `[v6%scope]:port`. -/

set_option autoImplicit false

namespace ServiceProxy.SocketAddress

def isNumberBelow (bound : Nat) (digits : List Char) : Bool :=
  match Decimal.read? digits with
  | some n => n < bound
  | none => false

def isPort (digits : List Char) : Bool := isNumberBelow UInt16.size digits

def isScoped (inside : List Char) : Bool :=
  match inside.splitOn '%' with
  | [address] => Literal.isIPv6 address
  | [address, scope] => Literal.isIPv6 address && isNumberBelow UInt32.size scope
  | _ => false

def isValid (text : String) : Bool :=
  match text.toList with
  | '[' :: rest =>
    match rest.splitOn ']' with
    | [inside, ':' :: port] => isScoped inside && isPort port
    | _ => false
  | chars =>
    match chars.splitOn ':' with
    | [address, port] => Literal.isIPv4 address && isPort port
    | _ => false

end ServiceProxy.SocketAddress
