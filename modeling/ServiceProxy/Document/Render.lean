import ServiceProxy.Document.Layout
import ServiceProxy.Document.Scalar
import ServiceProxy.Observation

/-! Rendering a routing model. A model renders when the document can carry all its addresses;
otherwise the first address that it cannot carry is named, in the order of the document's
entries, each listener before its cluster. -/

set_option autoImplicit false

namespace ServiceProxy.Routing

inductive AddressRole where
  | listener
  | backend
  deriving DecidableEq, Repr

namespace AddressRole

def name : AddressRole → String
  | .listener => "listener address"
  | .backend => "backend address"

def accepts : AddressRole → String → Bool
  | .listener => Scalar.isListener
  | .backend => Scalar.isPlain

end AddressRole

structure Unrepresentable where
  role : AddressRole
  address : String
  deriving DecidableEq, Repr

namespace Unrepresentable

def message (u : Unrepresentable) : String :=
  "cannot represent " ++ u.role.name ++ " `" ++ u.address ++ "` in proxy configuration"

end Unrepresentable

namespace Entry

/-- The addresses of an entry, the listener's first. -/
def addresses (e : Entry) : List Unrepresentable :=
  ⟨.listener, e.listener.address⟩ :: e.cluster.map fun backend => ⟨.backend, backend.address⟩

end Entry

namespace Model

def offender? (m : Model) : Option Unrepresentable :=
  (m.sortedEntries.flatMap fun (_, entry) => entry.addresses).find? fun u => !u.role.accepts u.address

def document (m : Model) : String :=
  Document.unlines (Document.lines m.healthCheckPort m.sortedEntries)

def render (m : Model) : ExceptT Unrepresentable Observed String := do
  match m.offender? with
  | some offender => throw offender
  | none =>
    let text := m.document
    Observed.emit (.documentRendered m.size text.utf8ByteSize)
    return text

end Model

end ServiceProxy.Routing
