import ServiceProxy.Proofs.Outcome
import ServiceProxy.Proofs.Routing.Sorting
import ServiceProxy.Routing.Build

/-! What the model of a service binds. A key is bound exactly when its family and its port are
declared and its protocol is proxied, and the last port declared for the key decides where its
traffic goes, however often families and ports are repeated. -/

set_option autoImplicit false

namespace ServiceProxy.Routing

/-- The last port declared with the number and the protocol of a key. -/
def lastPort? (ports : List ServicePort) (key : Key) : Option ServicePort :=
  ports.reverse.find? fun p => p.listen = key.port ∧ p.protocol = key.protocol

theorem lastPort?_cons (p : ServicePort) (rest : List ServicePort) (key : Key) :
    lastPort? (p :: rest) key = (lastPort? rest key).or
      (if p.listen = key.port ∧ p.protocol = key.protocol then some p else none) := by
  rw [lastPort?, List.reverse_cons, List.find?_append, lastPort?, List.find?_singleton]
  simp only [decide_eq_true_eq]

theorem lastPort?_eq_some_iff {ports : List ServicePort} {key : Key} {p : ServicePort} :
    lastPort? ports key = some p ↔ (p.listen = key.port ∧ p.protocol = key.protocol) ∧
      ∃ earlier later, ports = earlier ++ p :: later ∧
        ∀ q ∈ later, ¬(q.listen = key.port ∧ q.protocol = key.protocol) := by
  rw [lastPort?, List.find?_eq_some_iff_append]
  simp only [decide_eq_true_eq, Bool.not_eq_true', decide_eq_false_iff_not]
  refine and_congr_right fun _ => ?_
  constructor
  · rintro ⟨later, earlier, split, others⟩
    refine ⟨earlier.reverse, later.reverse, ?_, fun q member => others q (List.mem_reverse.1 member)⟩
    rw [← List.reverse_reverse ports, split]
    simp
  · rintro ⟨earlier, later, split, others⟩
    refine ⟨later.reverse, earlier.reverse, ?_, fun q member => others q (List.mem_reverse.1 member)⟩
    rw [split]
    simp

theorem lastPort?_isSome_iff {ports : List ServicePort} {key : Key} :
    (lastPort? ports key).isSome ↔ ∃ p ∈ ports, p.listen = key.port ∧ p.protocol = key.protocol := by
  rw [lastPort?, List.find?_isSome]
  simp only [List.mem_reverse, decide_eq_true_eq]

/-- The hosts that have an address in a family, as backends behind one port. -/
def reachable (nodes : List Host) (family : Family) (target : Port) (protocol : Protocol) :
    List Endpoint :=
  nodes.filterMap fun node => (node.address? family).map fun address => ⟨address, target, protocol⟩

def entryFor (nodes : List Host) (family : Family) (port : ServicePort) : Entry :=
  ⟨listener family port, reachable nodes family port.target port.protocol⟩

def bound? (s : Service) (nodes : List Host) (key : Key) : Option Entry :=
  if key.family ∈ s.families ∧ key.protocol.proxyable then
    (lastPort? s.ports key).map (entryFor nodes key.family)
  else none

theorem value_backends (family : Family) (port : ServicePort) (nodes : List Host) :
    (backends family port nodes).value = reachable nodes family port.target port.protocol := by
  induction nodes with
  | nil => rfl
  | cons node rest ih =>
    unfold backends
    rw [Observed.value_bind, Observed.value_bind, ih, Observed.value_pure, reachable, reachable,
      List.filterMap_cons]
    unfold backend?
    cases node.address? family <;> rfl

namespace Model

theorem value_addBinding (nodes : List Host) (m : Model) (family : Family) (port : ServicePort) :
    (m.addBinding nodes family port).value =
      if port.protocol.proxyable then m.insert (port.key family) (entryFor nodes family port) else m := by
  unfold addBinding
  split
  · rw [Observed.value_bind, value_backends]
    split <;> rfl
  · rfl

def addPorts (nodes : List Host) (family : Family) (ports : List ServicePort) (m : Model) : Model :=
  ports.foldl (fun m port => (m.addBinding nodes family port).value) m

theorem value_ofDescription (s : Service) (nodes : List Host) :
    (ofDescription ⟨some s, nodes⟩).value =
      s.families.foldl (fun m family => m.addPorts nodes family s.ports) (empty s.healthCheckPort) := by
  unfold ofDescription Service.bindings
  rw [value_foldlM, List.foldl_flatMap]
  congr
  funext m family
  -- The index of a port goes into observations only.
  rw [List.foldl_map, addPorts]
  conv => rhs; rw [← List.zipIdx_map_fst 0 s.ports, List.foldl_map]

theorem eq_key_iff {key : Key} {family : Family} {port : ServicePort} :
    key = port.key family ↔
      family = key.family ∧ port.listen = key.port ∧ port.protocol = key.protocol := by
  rw [ServicePort.key, Key.mk.injEq]
  exact ⟨fun h => ⟨h.1.symm, h.2.1.symm, h.2.2.symm⟩, fun h => ⟨h.1.symm, h.2.1.symm, h.2.2.symm⟩⟩

theorem find?_addBinding (nodes : List Host) (m : Model) (family : Family) (port : ServicePort)
    (key : Key) :
    (m.addBinding nodes family port).value.find? key =
      if (family = key.family ∧ key.protocol.proxyable) ∧
          port.listen = key.port ∧ port.protocol = key.protocol then
        some (entryFor nodes family port)
      else m.find? key := by
  rw [value_addBinding]
  by_cases same : key = port.key family
  · have parts := eq_key_iff.1 same
    rw [← parts.2.2]
    cases proxied : port.protocol.proxyable with
    | true => rw [if_pos rfl, find?_insert, if_pos same, if_pos ⟨⟨parts.1, rfl⟩, parts.2.1, rfl⟩]
    | false => simp
  · have parts := fun h => same (eq_key_iff.2 h)
    have other : ¬((family = key.family ∧ key.protocol.proxyable) ∧
        port.listen = key.port ∧ port.protocol = key.protocol) := fun h => parts ⟨h.1.1, h.2⟩
    rw [if_neg other]
    split
    · rw [find?_insert, if_neg same]
    · rfl

theorem find?_addPorts (nodes : List Host) (family : Family) (ports : List ServicePort) (m : Model)
    (key : Key) :
    (m.addPorts nodes family ports).find? key =
      if family = key.family ∧ key.protocol.proxyable then
        ((lastPort? ports key).map (entryFor nodes family)).or (m.find? key)
      else m.find? key := by
  unfold addPorts
  induction ports generalizing m with
  | nil => simp [lastPort?]
  | cons port rest ih =>
    -- Later ports are added after the first and replace what it bound.
    rw [List.foldl_cons, ih, find?_addBinding, lastPort?_cons]
    by_cases asked : family = key.family ∧ key.protocol.proxyable
    · cases lastPort? rest key with
      | some later => simp [asked]
      | none =>
        by_cases same : port.listen = key.port ∧ port.protocol = key.protocol
        · simp [asked, same]
        · simp [asked, same]
    · simp [asked]

/-- A family that is listed again binds its keys to what they are bound to already. -/
theorem find?_addFamilies (nodes : List Host) (ports : List ServicePort) (families : List Family)
    (m : Model) (key : Key) :
    (families.foldl (fun m family => m.addPorts nodes family ports) m).find? key =
      if key.family ∈ families ∧ key.protocol.proxyable then
        ((lastPort? ports key).map (entryFor nodes key.family)).or (m.find? key)
      else m.find? key := by
  induction families generalizing m with
  | nil => simp
  | cons family rest ih =>
    rw [List.foldl_cons, ih, find?_addPorts]
    by_cases proxied : key.protocol.proxyable
    · by_cases same : family = key.family
      · subst same
        cases lastPort? ports key <;> simp [proxied]
      · simp [proxied, same, Ne.symm same]
    · simp [proxied]

theorem find?_ofDescription (s : Service) (nodes : List Host) (key : Key) :
    (ofDescription ⟨some s, nodes⟩).value.find? key = bound? s nodes key := by
  rw [value_ofDescription, find?_addFamilies, bound?]
  have absent : (empty s.healthCheckPort).find? key = none := rfl
  rw [absent, Option.or_none]

theorem healthCheckPort_addPorts (nodes : List Host) (family : Family) (ports : List ServicePort)
    (m : Model) : (m.addPorts nodes family ports).healthCheckPort = m.healthCheckPort := by
  unfold addPorts
  induction ports generalizing m with
  | nil => rfl
  | cons port rest ih =>
    rw [List.foldl_cons, ih, value_addBinding]
    split
    · exact healthCheckPort_insert _ _ _
    · rfl

theorem healthCheckPort_ofDescription (s : Service) (nodes : List Host) :
    (ofDescription ⟨some s, nodes⟩).value.healthCheckPort = s.healthCheckPort := by
  rw [value_ofDescription]
  suffices ∀ (families : List Family) (m : Model),
      (families.foldl (fun m family => m.addPorts nodes family s.ports) m).healthCheckPort =
        m.healthCheckPort from this _ _
  intro families
  induction families with
  | nil => exact fun _ => rfl
  | cons family rest ih =>
    intro m
    rw [List.foldl_cons, ih, healthCheckPort_addPorts]

theorem mem_keys_iff {m : Model} {key : Key} : key ∈ m.entries.map Prod.fst ↔ (m.find? key).isSome := by
  rw [List.mem_map, Option.isSome_iff_exists]
  constructor
  · rintro ⟨⟨_, entry⟩, member, rfl⟩
    exact ⟨entry, mem_entries_iff.1 member⟩
  · rintro ⟨entry, found⟩
    exact ⟨(key, entry), mem_entries_iff.2 found, rfl⟩

end Model

theorem bound?_isSome_iff {s : Service} {nodes : List Host} {key : Key} :
    (bound? s nodes key).isSome ↔ ∃ family ∈ s.families, ∃ port ∈ s.ports,
      port.protocol.proxyable ∧ key = ⟨family, port.listen, port.protocol⟩ := by
  unfold bound?
  constructor
  · intro bound
    split at bound
    · rename_i declared
      rw [Option.isSome_map, lastPort?_isSome_iff] at bound
      obtain ⟨port, member, number, protocol⟩ := bound
      exact ⟨key.family, declared.1, port, member, protocol ▸ declared.2, by rw [number, protocol]⟩
    · cases bound
  · rintro ⟨family, listed, port, member, proxied, rfl⟩
    rw [if_pos ⟨listed, proxied⟩, Option.isSome_map, lastPort?_isSome_iff]
    exact ⟨port, member, rfl, rfl⟩

theorem mem_keys_ofDescription_iff {s : Service} {nodes : List Host} {key : Key} :
    key ∈ (Model.ofDescription ⟨some s, nodes⟩).value.entries.map Prod.fst ↔
      ∃ family ∈ s.families, ∃ port ∈ s.ports,
        port.protocol.proxyable ∧ key = ⟨family, port.listen, port.protocol⟩ := by
  rw [Model.mem_keys_iff, Model.find?_ofDescription, bound?_isSome_iff]

theorem bound?_eq_some_iff {s : Service} {nodes : List Host} {key : Key} {entry : Entry} :
    bound? s nodes key = some entry ↔ (key.family ∈ s.families ∧ key.protocol.proxyable) ∧
      ∃ port, lastPort? s.ports key = some port ∧ entryFor nodes key.family port = entry := by
  unfold bound?
  split
  · rename_i declared
    rw [Option.map_eq_some_iff]
    simp only [declared, true_and]
  · rename_i undeclared
    simp only [undeclared, false_and, reduceCtorEq]

theorem proxyable_iff {p : Protocol} : p.proxyable = true ↔ p = .tcp ∨ p = .udp := by
  cases p <;> decide

theorem wildcard_injective {f g : Family} (same : f.wildcard = g.wildcard) : f = g := by
  cases f <;> cases g <;> simp_all [Family.wildcard]

theorem key_eq_of_listener_eq {k l : Key} (same : Endpoint.mk k.family.wildcard k.port k.protocol =
    ⟨l.family.wildcard, l.port, l.protocol⟩) : k = l := by
  cases k
  cases l
  obtain ⟨address, number, protocol⟩ := Endpoint.mk.inj same
  rw [Key.mk.injEq]
  exact ⟨wildcard_injective address, number, protocol⟩

theorem entry_of_mem {s : Service} {nodes : List Host} {key : Key} {entry : Entry}
    (member : (key, entry) ∈ (Model.ofDescription ⟨some s, nodes⟩).value.entries) :
    entry.listener = ⟨key.family.wildcard, key.port, key.protocol⟩ ∧
      ∃ earlier last later, s.ports = earlier ++ last :: later ∧
        (last.listen = key.port ∧ last.protocol = key.protocol) ∧
        (∀ port ∈ later, ¬(port.listen = key.port ∧ port.protocol = key.protocol)) ∧
        entry.cluster = nodes.filterMap fun node =>
          (node.address? key.family).map fun address => ⟨address, last.target, key.protocol⟩ := by
  rw [Model.mem_entries_iff, Model.find?_ofDescription, bound?_eq_some_iff] at member
  obtain ⟨-, last, found, rfl⟩ := member
  obtain ⟨⟨number, protocol⟩, earlier, later, split, others⟩ := lastPort?_eq_some_iff.1 found
  refine ⟨?_, earlier, last, later, split, ⟨number, protocol⟩, others, ?_⟩
  · rw [entryFor, listener, number, protocol]
  · rw [entryFor, reachable, protocol]

theorem exists_mem_cluster_iff {s : Service} {nodes : List Host} {key : Key} {entry : Entry}
    {address : String} (member : (key, entry) ∈ (Model.ofDescription ⟨some s, nodes⟩).value.entries) :
    (∃ backend ∈ entry.cluster, backend.address = address) ↔
      ∃ host ∈ nodes, host.address? key.family = some address := by
  obtain ⟨-, _, _, _, _, _, _, cluster⟩ := entry_of_mem member
  rw [cluster]
  constructor
  · rintro ⟨backend, isBackend, rfl⟩
    obtain ⟨host, isHost, held⟩ := List.mem_filterMap.1 isBackend
    obtain ⟨address, found, rfl⟩ := Option.map_eq_some_iff.1 held
    exact ⟨host, isHost, found⟩
  · rintro ⟨host, isHost, found⟩
    exact ⟨_, List.mem_filterMap.2 ⟨host, isHost, Option.map_eq_some_iff.2 ⟨address, found, rfl⟩⟩, rfl⟩

theorem nodup_listeners (s : Service) (nodes : List Host) :
    ((Model.ofDescription ⟨some s, nodes⟩).value.entries.map fun b => b.2.listener).Nodup := by
  have keys := (Model.ofDescription ⟨some s, nodes⟩).value.distinct
  rw [List.Nodup, List.pairwise_map] at keys ⊢
  -- A listener says as much as its key: the wildcard tells the family.
  refine keys.imp_of_mem fun {a b} inA inB different same => different ?_
  rw [(entry_of_mem inA).1, (entry_of_mem inB).1] at same
  exact key_eq_of_listener_eq same

/-- The model of a service is fixed by its declarations and its hosts: which keys it binds, and
the listener and the backends of each. -/
theorem ofDescription_exact (s : Service) (nodes : List Host) :
    (Model.ofDescription ⟨some s, nodes⟩).value.healthCheckPort = s.healthCheckPort ∧
    (∀ key, key ∈ (Model.ofDescription ⟨some s, nodes⟩).value.entries.map Prod.fst ↔
      ∃ family ∈ s.families, ∃ port ∈ s.ports, (port.protocol = .tcp ∨ port.protocol = .udp) ∧
        key = ⟨family, port.listen, port.protocol⟩) ∧
    (∀ key entry, (key, entry) ∈ (Model.ofDescription ⟨some s, nodes⟩).value.entries →
      entry.listener = ⟨key.family.wildcard, key.port, key.protocol⟩ ∧
      ∃ earlier last later, s.ports = earlier ++ last :: later ∧
        (last.listen = key.port ∧ last.protocol = key.protocol) ∧
        (∀ port ∈ later, ¬(port.listen = key.port ∧ port.protocol = key.protocol)) ∧
        entry.cluster = nodes.filterMap fun node =>
          (node.address? key.family).map fun address => ⟨address, last.target, key.protocol⟩) ∧
    ((Model.ofDescription ⟨some s, nodes⟩).value.entries.map fun b => b.2.listener).Nodup := by
  refine ⟨Model.healthCheckPort_ofDescription s nodes, fun key => ?_,
    fun key entry member => entry_of_mem member, nodup_listeners s nodes⟩
  rw [mem_keys_ofDescription_iff]
  simp only [proxyable_iff]

end ServiceProxy.Routing
