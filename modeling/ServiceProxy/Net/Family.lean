/-! The two IP families, their names and their wildcard listener addresses. -/

set_option autoImplicit false

namespace ServiceProxy

inductive Family where
  | ipv4
  | ipv6
  deriving DecidableEq, Repr, Inhabited

namespace Family

def name : Family → String
  | .ipv4 => "IPv4"
  | .ipv6 => "IPv6"

/-- The address a listener binds to accept traffic of the family. The IPv6 one carries its
quotes, because a bare `::` is no scalar of the document. -/
def wildcard : Family → String
  | .ipv4 => "0.0.0.0"
  | .ipv6 => "\"::\""

/-- A label names a family whatever the case of its ASCII letters. -/
def ofLabel? (label : String) : Option Family :=
  let lower := label.toList.map Char.toLower
  if lower = "ipv4".toList then some .ipv4
  else if lower = "ipv6".toList then some .ipv6
  else none

def unknownText (label : String) : String := "unknown IP family `" ++ label ++ "`"

@[simp] theorem ofLabel?_name (f : Family) : ofLabel? f.name = some f := by
  cases f <;> rfl

end Family

end ServiceProxy
