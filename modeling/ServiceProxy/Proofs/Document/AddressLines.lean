import ServiceProxy.Proofs.Document.Faithful
import ServiceProxy.Proofs.Document.Stems

/-! The address lines of a document. In the text of a document only the addresses of listeners
and of backends stand behind a lead of their indentation, so they can be taken from the lines
without reading the blocks around them. -/

set_option autoImplicit false

namespace ServiceProxy.Document

open Routing

/-- Two texts that differ in a position that both have. -/
def clash (lead other : String) : Bool := (lead.toList.zip other.toList).any fun p => p.1 != p.2

theorem isPrefixOf?_eq_none {lead other : List Char} (differ : (lead.zip other).any fun p => p.1 != p.2)
    (rest : List Char) : lead.isPrefixOf? (other ++ rest) = none := by
  -- The lead clashes within the known text, so the rest is never compared.
  induction lead generalizing other with
  | nil => simp at differ
  | cons a lead ih =>
    cases other with
    | nil => simp at differ
    | cons b other =>
      rw [List.cons_append, isPrefixOf?_cons_cons]
      by_cases same : a = b
      · rw [if_pos same]
        exact ih (by simpa [same] using differ)
      · rw [if_neg same]

theorem after?_eq_none {lead other : String} (differ : clash lead other = true) (rest : String) :
    after? lead (other ++ rest) = none := by
  rw [after?, String.toList_append, isPrefixOf?_eq_none differ, Option.map_none]

def addressOf? (line : String) : Option String :=
  (after? "        address: " line).or (after? "                  address: " line)

def addressTexts (text : String) : List String := (linesOf text).filterMap addressOf?

def unrelated (other : String) : Bool :=
  clash "        address: " other && clash "                  address: " other

theorem addressOf?_eq_none {other : String} (different : unrelated other = true) (rest : String) :
    addressOf? (other ++ rest) = none := by
  obtain ⟨listener, backend⟩ := Bool.and_eq_true_iff.1 different
  rw [addressOf?, after?_eq_none listener, after?_eq_none backend, Option.or_none]

theorem addressOf?_listener (address : String) :
    addressOf? ("      " ++ "  address: " ++ address) = some address := by
  have lead : "      " ++ "  address: " = "        address: " := by decide
  rw [addressOf?, lead, after?_append, Option.some_or]

theorem addressOf?_backend (address : String) :
    addressOf? ("                " ++ "  address: " ++ address) = some address := by
  have lead : "                " ++ "  address: " = "                  address: " := by decide
  rw [addressOf?, lead, after?_append, after?_eq_none (by decide), Option.none_or]

/-- At an indentation where addresses are found, a socket address holds its own address only. -/
theorem filterMap_socketLines {pad : String}
    (found : ∀ address, addressOf? (pad ++ "  address: " ++ address) = some address)
    (head : addressOf? (pad ++ "socket_address:") = none)
    (others : unrelated (pad ++ "  port_value: ") = true ∧ unrelated (pad ++ "  protocol: ") = true)
    (e : Endpoint) : (socketLines pad e).filterMap addressOf? = [e.address] := by
  have port := addressOf?_eq_none others.1 (Decimal.port e.port)
  have protocol := addressOf?_eq_none others.2 e.protocol.name
  simp only [socketLines, List.filterMap_cons, List.filterMap_nil, head, found, port, protocol]

theorem silent_of_unrelated {stems : List String} (different : ∀ stem ∈ stems, unrelated stem = true) :
    Silent addressOf? stems :=
  fun stem member => addressOf?_eq_none (different stem member)

theorem filterMap_listenerLines (name : String) (e : Endpoint) :
    (listenerLines name e).filterMap addressOf? = [e.address] := by
  have silent : Silent addressOf? listenerStems := silent_of_unrelated (by decide +kernel)
  have socket := filterMap_socketLines addressOf?_listener (by decide) (by decide) e
  have target : addressOf? ("            cluster: cluster_" ++ name) = none :=
    addressOf?_eq_none (by decide) name
  rw [filterMap_listenerLines_of_silent silent, socket, target]
  rfl

theorem filterMap_backendLines (healthCheckPort : Port) (e : Endpoint) :
    (backendLines healthCheckPort e).filterMap addressOf? = [e.address] := by
  have silent : Silent addressOf? backendStems := silent_of_unrelated (by decide)
  have socket := filterMap_socketLines addressOf?_backend (by decide) (by decide) e
  have checked : addressOf? ("                port_value: " ++ Decimal.port healthCheckPort) = none :=
    addressOf?_eq_none (by decide) _
  rw [filterMap_backendLines_of_silent silent, socket, checked]
  rfl

theorem filterMap_clusterHeadLines (name : String) :
    (clusterHeadLines name).filterMap addressOf? = [] := by
  have silent : Silent addressOf? clusterStems := silent_of_unrelated (by decide +kernel)
  have assigned : addressOf? ("      cluster_name: cluster_" ++ name) = none :=
    addressOf?_eq_none (by decide) name
  rw [filterMap_clusterHeadLines_of_silent silent, assigned]
  rfl

def addressesOf (bindings : List (Key × Entry)) : List String :=
  (bindings.map fun b => b.2.listener.address) ++ bindings.flatMap fun b => b.2.cluster.map Endpoint.address

theorem mem_addressesOf {bindings : List (Key × Entry)} {address : String} :
    address ∈ addressesOf bindings ↔ ∃ b ∈ bindings,
      b.2.listener.address = address ∨ ∃ backend ∈ b.2.cluster, backend.address = address := by
  simp only [addressesOf, List.mem_append, List.mem_map, List.mem_flatMap, and_or_left, exists_or]

theorem filterMap_bindingLines (healthCheckPort : Port) (bindings : List (Key × Entry)) :
    (bindingLines healthCheckPort bindings).filterMap addressOf? = addressesOf bindings := by
  rw [filterMap_bindingLines_of_silent (by decide +kernel) (by decide)]
  simp only [filterMap_listenerLines, filterMap_clusterHeadLines, filterMap_backendLines, List.nil_append,
    ← List.map_eq_flatMap, addressesOf]

theorem addressTexts_document {m : Model} (accepted : ∀ b ∈ m.entries, b.2.Accepted) :
    addressTexts m.document = addressesOf m.sorted := by
  rw [addressTexts, Model.linesOf_document accepted, filterMap_bindingLines]

end ServiceProxy.Document
