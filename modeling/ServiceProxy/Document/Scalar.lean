import ServiceProxy.Net.Family
import ServiceProxy.Text.Blank

/-! Which addresses the document can carry. Addresses are written unquoted, so they have to be
plain scalars; a listener may in addition use the quoted IPv6 wildcard. -/

set_option autoImplicit false

namespace ServiceProxy.Scalar

/-- Characters with a meaning in flow or comment position. -/
def indicators : List Char := ['#', ',', '{', '}', '[', ']', '"', '\x27']

/-- Characters with a meaning at the start of a scalar. -/
def leaders : List Char := ['-', '?', '*', '&', '!', '|', '>', '%', '@', '\x60']

/-- Words that read back as something else than text, in lower case. -/
def reserved : List (List Char) :=
  ["~", "null", "true", "false", "yes", "no", "on", "off"].map String.toList

def isForbidden (c : Char) : Bool := isBlank c || isControl c || indicators.contains c

def isPlainChars : List Char → Bool
  | [] => false
  | c :: cs =>
    !(c :: cs).any isForbidden && !leaders.contains c && !reserved.contains ((c :: cs).map Char.toLower)

def isPlain (text : String) : Bool := isPlainChars text.toList

def isListener (text : String) : Bool := text == Family.ipv6.wildcard || isPlain text

end ServiceProxy.Scalar
