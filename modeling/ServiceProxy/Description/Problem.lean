import ServiceProxy.Description.Service

/-! Problems of a service: what strict compilation refuses and lenient compilation reports.
All of them are found, in a fixed order: the missing families, then zero ports in port order,
then the bindings whose routing key an earlier binding already has. -/

set_option autoImplicit false

namespace ServiceProxy

inductive PortField where
  | listenPort
  | targetPort
  deriving DecidableEq, Repr

def PortField.name : PortField → String
  | .listenPort => "listenPort"
  | .targetPort => "targetPort"

inductive Problem where
  | duplicateKey (key : Routing.Key) (index : Nat)
  | zeroPort (field : PortField) (index : Nat)
  | noFamilies
  deriving DecidableEq, Repr

def Problem.text : Problem → String
  | .duplicateKey key index =>
    "ports[" ++ Decimal.text index ++ "] maps to routing key " ++ key.text ++
      " already used by an earlier port"
  | .zeroPort field index => "ports[" ++ Decimal.text index ++ "]." ++ field.name ++ " must be non-zero"
  | .noFamilies => "service declares ports but no IP families"

def Problem.joined (problems : List Problem) : String :=
  String.intercalate ", " (problems.map Problem.text)

namespace Service

def familyProblems (s : Service) : List Problem :=
  if !s.ports.isEmpty && s.families.isEmpty then [.noFamilies] else []

def zeroPorts (index : Nat) (port : ServicePort) : List Problem :=
  (if port.listen = 0 then [Problem.zeroPort .listenPort index] else []) ++
    (if port.target = 0 then [Problem.zeroPort .targetPort index] else [])

def portProblems (s : Service) : List Problem :=
  s.ports.zipIdx.flatMap fun (port, index) => zeroPorts index port

/-- The bindings whose key is among the keys before them. -/
def repeatedKeys (seen : List Routing.Key) : List (Family × Nat × ServicePort) → List Problem
  | [] => []
  | (family, index, port) :: rest =>
    if port.protocol.proxyable then
      let key := port.key family
      if key ∈ seen then .duplicateKey key index :: repeatedKeys seen rest
      else repeatedKeys (key :: seen) rest
    else repeatedKeys seen rest

def problems (s : Service) : List Problem :=
  s.familyProblems ++ s.portProblems ++ repeatedKeys [] s.bindings

end Service

end ServiceProxy
