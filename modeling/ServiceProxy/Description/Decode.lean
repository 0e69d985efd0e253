import ServiceProxy.Datum.Decode
import ServiceProxy.Description.Basic

/-! The shapes of descriptions: how a data tree gives a service, its ports and the hosts. -/

set_option autoImplicit false

namespace ServiceProxy

def Family.variants : List (String × Family) :=
  [Family.ipv4, .ipv6].map fun f => (f.name, f)

def Protocol.variants : List (String × Protocol) :=
  [Protocol.tcp, .udp, .sctp].map fun p => (p.name, p)

def AddressKind.variants : List (String × AddressKind) :=
  [AddressKind.internal, .external, .hostname].map fun k => (k.name, k)

structure ServicePort.Draft where
  listen : Option Port := none
  target : Option Port := none
  protocol : Option Protocol := none

def ServicePort.shape : Shape ServicePort.Draft ServicePort where
  name := "ServicePort"
  slots := [
    .of "listenPort" [] true (·.listen) (fun p d => { d with listen := some p }) (fun _ => Datum.toPort),
    .of "targetPort" ["nodePort"] true (·.target) (fun p d => { d with target := some p })
      (fun _ => Datum.toPort),
    .of "protocol" [] false (·.protocol) (fun p d => { d with protocol := some p })
      (Datum.toVariant Protocol.variants)]
  blank := {}
  finish d := return ⟨d.listen.getD 0, d.target.getD 0, d.protocol.getD .tcp⟩

structure Service.Draft where
  ports : Option (List ServicePort) := none
  families : Option (List Family) := none
  healthCheckPort : Option Port := none

def Service.shape : Shape Service.Draft Service where
  name := "ServiceDescription"
  slots := [
    .of "ports" [] false (·.ports) (fun p d => { d with ports := some p })
      (fun format => Datum.toList (ServicePort.shape.read format)),
    .of "ipFamilies" [] false (·.families) (fun f d => { d with families := some f })
      (fun format => Datum.toList (Datum.toVariant Family.variants format)),
    .of "healthCheckPort" [] false (·.healthCheckPort) (fun p d => { d with healthCheckPort := some p })
      (fun _ => Datum.toPort)]
  blank := {}
  finish d := return ⟨d.ports.getD [], d.families.getD [], d.healthCheckPort.getD 0⟩

structure NodeAddress.Draft where
  kind : Option AddressKind := none
  address : Option String := none

def NodeAddress.shape : Shape NodeAddress.Draft NodeAddress where
  name := "NodeAddress"
  slots := [
    .of "type" [] true (·.kind) (fun k d => { d with kind := some k })
      (Datum.toVariant AddressKind.variants),
    .of "address" [] true (·.address) (fun a d => { d with address := some a }) (fun _ => Datum.toText)]
  blank := {}
  finish d := return ⟨d.kind.getD .internal, d.address.getD ""⟩

/-- Every member counts, and the last of several with one label decides. -/
def Listing.ofMembers (l : Listing) : Members → Decoded Listing
  | .done => return l
  | .broken => .malformed
  | .more none _ _ => .malformed
  | .more (some label) value tail => do
    let address ← value.toText
    (l.insert label address).ofMembers tail

def Listing.ofDatum (d : Datum) : Decoded Listing :=
  match d.members? with
  | some members => Listing.empty.ofMembers members
  | none => d.unexpected "a map"

structure HostDeclaration.Draft where
  name : Option String := none
  addresses : Option Listing := none
  nodeAddresses : Option (List NodeAddress) := none

def HostDeclaration.Draft.declared (d : HostDeclaration.Draft) : HostDeclaration :=
  ⟨d.name.getD "", d.addresses.getD .empty, d.nodeAddresses.getD []⟩

/-- A declaration is resolved to its host as soon as it has been read to its end. -/
def Host.shape : Shape HostDeclaration.Draft Host where
  name := "RawBackendHost"
  slots := [
    .of "name" [] false (·.name) (fun n d => { d with name := some n }) (fun _ => Datum.toText),
    .of "addresses" [] false (·.addresses) (fun a d => { d with addresses := some a })
      (fun _ => Listing.ofDatum),
    .of "nodeAddresses" [] false (·.nodeAddresses) (fun a d => { d with nodeAddresses := some a })
      (fun format => Datum.toList (NodeAddress.shape.read format))]
  blank := {}
  finish d := d.declared.resolve.adapt fun fault => .mismatch (.address fault)

structure Description.Draft where
  service : Option (Option Service) := none
  nodes : Option (List Host) := none

def Description.shape : Shape Description.Draft Description where
  name := "LoadBalancerDescription"
  slots := [
    .of "service" [] false (·.service) (fun s d => { d with service := some s })
      (fun format => Datum.toOption (Service.shape.read format)),
    .of "nodes" [] false (·.nodes) (fun n d => { d with nodes := some n })
      (fun format => Datum.toList (Host.shape.read format))]
  blank := {}
  finish d := return ⟨d.service.getD none, d.nodes.getD []⟩

end ServiceProxy
