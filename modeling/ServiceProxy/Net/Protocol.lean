/-! Transport protocols of service ports. -/

set_option autoImplicit false

namespace ServiceProxy

abbrev Port := UInt16

inductive Protocol where
  | tcp
  | udp
  | sctp
  deriving DecidableEq, Repr, Inhabited

namespace Protocol

def name : Protocol → String
  | .tcp => "TCP"
  | .udp => "UDP"
  | .sctp => "SCTP"

def proxyable : Protocol → Bool
  | .tcp => true
  | .udp => true
  | .sctp => false

end Protocol

end ServiceProxy
