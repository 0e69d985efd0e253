import ServiceProxy.Text.Unprintable

/-! Text in double quotes, as messages show it. -/

set_option autoImplicit false

namespace ServiceProxy.Quoted

def escape (c : Char) : List Char :=
  if c = '\x00' then ['\\', '0']
  else if c = '\t' then ['\\', 't']
  else if c = '\r' then ['\\', 'r']
  else if c = '\n' then ['\\', 'n']
  else if c = '"' then ['\\', '"']
  else if c = '\\' then ['\\', '\\']
  else if Unprintable.contains c then ['\\', 'u', '{'] ++ Nat.toDigits 16 c.toNat ++ ['}']
  else [c]

def text (s : String) : String := "\"" ++ String.ofList (s.toList.flatMap escape) ++ "\""

end ServiceProxy.Quoted
