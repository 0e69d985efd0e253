import ServiceProxy.Routing.Key

/-! Services: the ports a balancer accepts traffic on and the families it accepts it in. -/

set_option autoImplicit false

namespace ServiceProxy

structure ServicePort where
  listen : Port
  target : Port
  protocol : Protocol := .tcp
  deriving DecidableEq, Repr, Inhabited

def ServicePort.key (p : ServicePort) (family : Family) : Routing.Key :=
  ⟨family, p.listen, p.protocol⟩

structure Service where
  ports : List ServicePort := []
  families : List Family := []
  healthCheckPort : Port := 0
  deriving DecidableEq, Repr, Inhabited

namespace Service

def isEmpty (s : Service) : Bool := s.ports.isEmpty || s.families.isEmpty

/-- Every port in every family, families first, each with its position in the port list. -/
def bindings (s : Service) : List (Family × Nat × ServicePort) :=
  s.families.flatMap fun family => s.ports.zipIdx.map fun (port, index) => (family, index, port)

end Service

end ServiceProxy
