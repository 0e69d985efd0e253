import Mathlib.Algebra.BigOperators.Ring.Finset
import Mathlib.Algebra.BigOperators.Group.Finset.Sigma
import ServiceProxy.Proofs.Routing.Building

/-! How much there is in the model of a service. A key stands for a family and a proxied port, and
repeating these adds nothing. Main statement: the entries and the endpoints are counted by the
distinct families, the distinct pairs of a number and a protocol, and the nodes of each family. -/

set_option autoImplicit false

namespace ServiceProxy

namespace Service

def listening (s : Service) : Finset (Port × Protocol) :=
  ((s.ports.filter fun p => p.protocol = .tcp ∨ p.protocol = .udp).map fun p => (p.listen, p.protocol)).toFinset

theorem mem_listening {s : Service} {pair : Port × Protocol} :
    pair ∈ s.listening ↔ ∃ p ∈ s.ports, p.protocol.proxyable = true ∧ (p.listen, p.protocol) = pair := by
  simp only [listening, List.mem_toFinset, List.mem_map, List.mem_filter, decide_eq_true_iff,
    Routing.proxyable_iff, and_assoc]

end Service

def reachableIn (nodes : List Host) (family : Family) : Nat :=
  nodes.countP fun node => (node.address? family).isSome

namespace Routing

def Key.ofPair (part : Family × Port × Protocol) : Key := ⟨part.1, part.2.1, part.2.2⟩

theorem Key.ofPair_injective : Function.Injective Key.ofPair := by
  rintro ⟨family, port, protocol⟩ ⟨family', port', protocol'⟩ same
  cases same
  rfl

namespace Model

variable (s : Service) (nodes : List Host)

theorem toFinset_keys : ((ofDescription ⟨some s, nodes⟩).value.entries.map Prod.fst).toFinset =
    (s.families.toFinset ×ˢ s.listening).image Key.ofPair := by
  ext key
  rw [List.mem_toFinset, mem_keys_ofDescription_iff, Finset.mem_image]
  constructor
  · rintro ⟨family, listed, port, isPort, proxied, rfl⟩
    exact ⟨(family, port.listen, port.protocol), Finset.mem_product.2 ⟨List.mem_toFinset.2 listed,
      Service.mem_listening.2 ⟨port, isPort, proxied, rfl⟩⟩, rfl⟩
  · rintro ⟨⟨family, pair⟩, member, rfl⟩
    obtain ⟨listed, isPair⟩ := Finset.mem_product.1 member
    obtain ⟨port, isPort, proxied, rfl⟩ := Service.mem_listening.1 isPair
    exact ⟨family, List.mem_toFinset.1 listed, port, isPort, proxied, rfl⟩

/-- There is an entry for each family with each pair. -/
theorem size_ofDescription :
    (ofDescription ⟨some s, nodes⟩).value.size = s.families.toFinset.card * s.listening.card := by
  have distinct := (ofDescription ⟨some s, nodes⟩).value.distinct
  calc
    _ = ((ofDescription ⟨some s, nodes⟩).value.entries.map Prod.fst).length := (List.length_map _).symm
    _ = ((s.families.toFinset ×ˢ s.listening).image Key.ofPair).card := by
      rw [← List.toFinset_card_of_nodup distinct, toFinset_keys]
    _ = s.families.toFinset.card * s.listening.card := by
      rw [Finset.card_image_of_injective _ Key.ofPair_injective, Finset.card_product]

theorem length_cluster {key : Key} {entry : Entry}
    (member : (key, entry) ∈ (ofDescription ⟨some s, nodes⟩).value.entries) :
    entry.cluster.length = reachableIn nodes key.family := by
  obtain ⟨-, _, _, _, _, _, _, cluster⟩ := entry_of_mem member
  rw [cluster, List.length_filterMap_eq_countP, reachableIn]
  simp only [Option.isSome_map]

theorem endpointCount_ofDescription :
    (ofDescription ⟨some s, nodes⟩).value.endpointCount =
      s.listening.card * ∑ family ∈ s.families.toFinset, reachableIn nodes family := by
  have distinct := (ofDescription ⟨some s, nodes⟩).value.distinct
  calc
    _ = ((ofDescription ⟨some s, nodes⟩).value.entries.map fun b => b.2.cluster.length).sum :=
      List.foldr_map.symm
    _ = (((ofDescription ⟨some s, nodes⟩).value.entries.map Prod.fst).map
          fun key => reachableIn nodes key.family).sum := by
      rw [List.map_map]
      exact congrArg List.sum (List.map_congr_left fun b member => length_cluster s nodes member)
    _ = ∑ key ∈ (s.families.toFinset ×ˢ s.listening).image Key.ofPair, reachableIn nodes key.family := by
      rw [← List.sum_toFinset _ distinct, toFinset_keys]
    _ = ∑ family ∈ s.families.toFinset, ∑ _pair ∈ s.listening, reachableIn nodes family := by
      rw [Finset.sum_image Key.ofPair_injective.injOn, Finset.sum_product]
      rfl
    _ = s.listening.card * ∑ family ∈ s.families.toFinset, reachableIn nodes family := by
      rw [Finset.mul_sum]
      exact Finset.sum_congr rfl fun family _ => Finset.sum_const_nat fun _ _ => rfl

end Model

end Routing

end ServiceProxy
