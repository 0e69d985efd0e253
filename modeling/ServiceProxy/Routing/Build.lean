import ServiceProxy.Description.Basic
import ServiceProxy.Routing.Model

/-! The routing model of a description. Every proxyable port gets an entry in every family of
its service, with the nodes that have an address in that family behind it. A later port takes
the place of an earlier one with the same key. -/

set_option autoImplicit false

namespace ServiceProxy.Routing

def backend? (family : Family) (port : ServicePort) (node : Host) : Observed (Option Endpoint) :=
  match node.address? family with
  | some address => return some ⟨address, port.target, port.protocol⟩
  | none => do
    Observed.emit (.familyMissing node.name family)
    return none

def backends (family : Family) (port : ServicePort) : List Host → Observed (List Endpoint)
  | [] => return []
  | node :: rest => do
    let first ← backend? family port node
    let others ← backends family port rest
    return first.toList ++ others

def listener (family : Family) (port : ServicePort) : Endpoint :=
  ⟨family.wildcard, port.listen, port.protocol⟩

def Model.addBinding (nodes : List Host) (m : Model) (family : Family) (port : ServicePort) :
    Observed Model := do
  if port.protocol.proxyable then
    let key := port.key family
    let cluster ← backends family port nodes
    Observed.emit (.entryBuilt key cluster.length)
    if (m.find? key).isSome then
      Observed.emit (.entryOverwritten key)
    return m.insert key ⟨listener family port, cluster⟩
  else
    Observed.emit (.protocolSkipped port.protocol port.listen)
    return m

def Model.ofDescription (d : Description) : Observed Model :=
  match d.service with
  | none => return .empty 0
  | some service =>
    service.bindings.foldlM (fun m (family, _, port) => m.addBinding d.nodes family port)
      (.empty service.healthCheckPort)

end ServiceProxy.Routing
