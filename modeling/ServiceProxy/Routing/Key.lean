import ServiceProxy.Net.Family
import ServiceProxy.Net.Protocol
import ServiceProxy.Text.Decimal

/-! Routing keys: what a listener accepts. The text of a key names its listener and its
cluster, and distinct keys have distinct texts. -/

set_option autoImplicit false

namespace ServiceProxy.Routing

structure Key where
  family : Family
  port : Port
  protocol : Protocol
  deriving DecidableEq, Repr, Inhabited

namespace Key

def text (k : Key) : String :=
  k.family.name ++ "_" ++ Decimal.port k.port ++ "_" ++ k.protocol.name

end Key

end ServiceProxy.Routing
