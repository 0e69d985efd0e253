import ServiceProxy.Net.Literal
import ServiceProxy.Observation
import ServiceProxy.Ordered

/-! Backend hosts and how a description declares them.

A host has at most one address per family. A declaration lists addresses that a node reports,
of which the first internal literal of each family counts, and addresses under family labels,
which take precedence. -/

set_option autoImplicit false

namespace ServiceProxy

structure Host where
  name : String := ""
  ipv4 : Option String := none
  ipv6 : Option String := none
  deriving DecidableEq, Repr, Inhabited

namespace Host

def address? (h : Host) : Family → Option String
  | .ipv4 => h.ipv4
  | .ipv6 => h.ipv6

def setAddress (h : Host) (family : Family) (address : String) : Host :=
  match family with
  | .ipv4 => { h with ipv4 := some address }
  | .ipv6 => { h with ipv6 := some address }

@[simp] theorem name_setAddress (h : Host) (f : Family) (a : String) :
    (h.setAddress f a).name = h.name := by
  cases f <;> rfl

theorem address?_setAddress (h : Host) (f g : Family) (a : String) :
    (h.setAddress f a).address? g = if g = f then some a else h.address? g := by
  cases f <;> cases g <;> rfl

end Host

inductive AddressKind where
  | internal
  | external
  | hostname
  deriving DecidableEq, Repr

def AddressKind.name : AddressKind → String
  | .internal => "InternalIP"
  | .external => "ExternalIP"
  | .hostname => "Hostname"

structure NodeAddress where
  kind : AddressKind
  address : String
  deriving DecidableEq, Repr

namespace Host

/-- An internal address counts if it is a literal and its family has no address yet. -/
def consider (h : Host) (reported : NodeAddress) : Observed Host :=
  match reported.kind with
  | .internal =>
    match Literal.family? reported.address with
    | none => do
      Observed.emit (.addressSkipped h.name reported.address)
      return h
    | some family =>
      if (h.address? family).isSome then return h else return h.setAddress family reported.address
  | .external => return h
  | .hostname => return h

def ofNodeAddresses (name : String) (reported : List NodeAddress) : Observed Host :=
  reported.foldlM consider { name }

end Host

structure Listing where
  pairs : List (String × String)
  ascending : Ascending pairs
  deriving DecidableEq, Repr

namespace Listing

def empty : Listing := ⟨[], .nil⟩

def insert (l : Listing) (label address : String) : Listing :=
  ⟨Ordered.place label address l.pairs, Ordered.ascending_place l.ascending⟩

end Listing

structure HostDeclaration where
  name : String := ""
  addresses : Listing := .empty
  nodeAddresses : List NodeAddress := []
  deriving DecidableEq, Repr

inductive AddressFault where
  | unknownFamily (label : String)
  | notLiteral (address : String)
  | otherFamily (address : String) (listed actual : Family)
  deriving DecidableEq, Repr

def AddressFault.message : AddressFault → String
  | .unknownFamily label => Family.unknownText label
  | .notLiteral address => "address `" ++ address ++ "` is not an IP literal"
  | .otherFamily address listed actual =>
    "address `" ++ address ++ "` is listed under " ++ listed.name ++ " but is an " ++ actual.name ++
      " address"

namespace HostDeclaration

def checkListed (label address : String) : Except AddressFault Family :=
  match Family.ofLabel? label with
  | none => .error (.unknownFamily label)
  | some listed =>
    match Literal.family? address with
    | none => .error (.notLiteral address)
    | some actual => if actual = listed then .ok listed else .error (.otherFamily address listed actual)

def overlay (h : Host) : List (String × String) → Except AddressFault Host
  | [] => .ok h
  | (label, address) :: rest =>
    match checkListed label address with
    | .error fault => .error fault
    | .ok family => overlay (h.setAddress family address) rest

/-- Reported addresses first, then the labelled ones in label order; the first labelled one
that is refused decides. -/
def resolve (d : HostDeclaration) : ExceptT AddressFault Observed Host := do
  let host ← Host.ofNodeAddresses d.name d.nodeAddresses
  ExceptT.mk (pure (overlay host d.addresses.pairs))

end HostDeclaration

end ServiceProxy
