import ServiceProxy.Description.Host
import ServiceProxy.Description.Service

/-! A load-balancer description: the service to expose, if any, and the hosts behind it. -/

set_option autoImplicit false

namespace ServiceProxy

structure Description where
  service : Option Service := none
  nodes : List Host := []
  deriving DecidableEq, Repr, Inhabited

end ServiceProxy
