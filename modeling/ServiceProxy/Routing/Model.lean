import ServiceProxy.Ordered
import ServiceProxy.Routing.Key

/-! Routing models: a finite map from routing keys to entries, and the port that health checks
go to. The map is kept as an enumeration of its entries; what is read from a model does not
depend on the order of that enumeration. -/

set_option autoImplicit false

namespace ServiceProxy.Routing

structure Endpoint where
  address : String
  port : Port
  protocol : Protocol
  deriving DecidableEq, Repr, Inhabited

structure Entry where
  listener : Endpoint
  cluster : List Endpoint
  deriving DecidableEq, Repr, Inhabited

structure Model where
  healthCheckPort : Port
  entries : List (Key × Entry)
  distinct : (entries.map Prod.fst).Nodup
  deriving DecidableEq, Repr

/-- The entries with one key set; a key that is there already keeps its place. -/
def assign (key : Key) (entry : Entry) : List (Key × Entry) → List (Key × Entry)
  | [] => [(key, entry)]
  | (k, e) :: rest => if k = key then (key, entry) :: rest else (k, e) :: assign key entry rest

theorem map_fst_assign (key : Key) (entry : Entry) (entries : List (Key × Entry)) :
    (assign key entry entries).map Prod.fst =
      if key ∈ entries.map Prod.fst then entries.map Prod.fst else entries.map Prod.fst ++ [key] := by
  induction entries with
  | nil => simp [assign]
  | cons head rest ih =>
    obtain ⟨k, e⟩ := head
    by_cases same : k = key
    · simp [assign, same]
    · simp only [assign, same, if_false, List.map_cons, ih, List.mem_cons, Ne.symm same, false_or]
      split <;> rfl

theorem lookup_assign (key other : Key) (entry : Entry) (entries : List (Key × Entry)) :
    (assign key entry entries).lookup other =
      if other = key then some entry else entries.lookup other := by
  induction entries with
  | nil =>
    by_cases same : other = key
    · simp [assign, same]
    · simp [assign, List.lookup_cons, same, beq_false_of_ne same]
  | cons head rest ih =>
    obtain ⟨k, e⟩ := head
    by_cases place : k = key
    · subst place
      by_cases same : other = k
      · simp [assign, same]
      · simp [assign, List.lookup_cons, same, beq_false_of_ne same]
    · rw [assign, if_neg place, List.lookup_cons, List.lookup_cons, ih]
      by_cases same : other = k
      · subst same
        simp [place]
      · simp [beq_false_of_ne same]

namespace Model

def empty (healthCheckPort : Port) : Model := ⟨healthCheckPort, [], .nil⟩

instance : Inhabited Model := ⟨empty 0⟩

def find? (m : Model) (key : Key) : Option Entry := m.entries.lookup key

def insert (m : Model) (key : Key) (entry : Entry) : Model where
  healthCheckPort := m.healthCheckPort
  entries := assign key entry m.entries
  distinct := by
    rw [map_fst_assign]
    split
    · exact m.distinct
    · rename_i absent
      exact List.nodup_append.2 ⟨m.distinct, by simp, by rintro a ha b hb rfl; simp_all⟩

theorem find?_insert (m : Model) (key other : Key) (entry : Entry) :
    (m.insert key entry).find? other = if other = key then some entry else m.find? other :=
  lookup_assign key other entry m.entries

theorem healthCheckPort_insert (m : Model) (key : Key) (entry : Entry) :
    (m.insert key entry).healthCheckPort = m.healthCheckPort := rfl

/-- The entries under their key texts, in ascending byte order. -/
def sortedEntries (m : Model) : List (String × Entry) :=
  Ordered.ofList (m.entries.map fun (key, entry) => (key.text, entry))

def get? (m : Model) (text : String) : Option Entry :=
  (m.entries.find? fun (key, _) => key.text = text).map Prod.snd

def size (m : Model) : Nat := m.entries.length

def isEmpty (m : Model) : Bool := m.entries.isEmpty

def endpointCount (m : Model) : Nat := m.entries.foldr (fun (_, entry) total => entry.cluster.length + total) 0

end Model

end ServiceProxy.Routing
