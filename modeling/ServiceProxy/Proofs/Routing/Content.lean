import Mathlib.Logic.Relation
import ServiceProxy.Proofs.Compiling
import ServiceProxy.Proofs.Routing.Enumeration

/-! What of a description reaches its document. Main statement: descriptions that check the same
port, list the same families, send every proxied port to the same target at last and have the same
addresses in the listed families compile to the same result. -/

set_option autoImplicit false

namespace ServiceProxy

namespace Routing

def lastTarget? (ports : List ServicePort) (listen : Port) (protocol : Protocol) : Option Port :=
  ((ports.filter fun p => p.listen = listen ∧ p.protocol = protocol).map ServicePort.target).getLast?

def addressesIn (nodes : List Host) (family : Family) : List String :=
  nodes.filterMap fun node => node.address? family

theorem lastTarget?_eq (ports : List ServicePort) (key : Key) :
    lastTarget? ports key.port key.protocol = (lastPort? ports key).map ServicePort.target := by
  rw [lastTarget?, List.getLast?_map, List.getLast?_filter, lastPort?]

theorem lastTarget?_append (earlier later : List ServicePort) (listen : Port) (protocol : Protocol) :
    lastTarget? (earlier ++ later) listen protocol =
      (lastTarget? later listen protocol).or (lastTarget? earlier listen protocol) := by
  simp only [lastTarget?, List.filter_append, List.map_append, List.getLast?_append]

theorem lastTarget?_cons (p : ServicePort) (rest : List ServicePort) (listen : Port)
    (protocol : Protocol) :
    lastTarget? (p :: rest) listen protocol = (lastTarget? rest listen protocol).or
      (if p.listen = listen ∧ p.protocol = protocol then some p.target else none) := by
  rw [← List.singleton_append, lastTarget?_append]
  unfold lastTarget?
  by_cases same : p.listen = listen ∧ p.protocol = protocol <;> simp [same]

theorem lastTarget?_isSome {ports : List ServicePort} {p : ServicePort} (member : p ∈ ports) :
    (lastTarget? ports p.listen p.protocol).isSome := by
  have found : (lastPort? ports ⟨.ipv4, p.listen, p.protocol⟩).isSome :=
    lastPort?_isSome_iff.2 ⟨p, member, rfl, rfl⟩
  rwa [lastTarget?_eq ports ⟨.ipv4, p.listen, p.protocol⟩, Option.isSome_map]

def entryTo (key : Key) (addresses : List String) (target : Port) : Entry :=
  ⟨⟨key.family.wildcard, key.port, key.protocol⟩,
    addresses.map fun address => ⟨address, target, key.protocol⟩⟩

theorem bound?_eq (s : Service) (nodes : List Host) (key : Key) :
    bound? s nodes key =
      if key.family ∈ s.families ∧ key.protocol.proxyable then
        (lastTarget? s.ports key.port key.protocol).map (entryTo key (addressesIn nodes key.family))
      else none := by
  have entries : (lastPort? s.ports key).map (entryFor nodes key.family) =
      ((lastPort? s.ports key).map ServicePort.target).map
        (entryTo key (addressesIn nodes key.family)) := by
    rw [Option.map_map]
    refine Option.map_congr fun port found => ?_
    obtain ⟨⟨number, protocol⟩, -⟩ := lastPort?_eq_some_iff.1 found
    rw [entryFor, listener, reachable, number, protocol, Function.comp_apply, entryTo, addressesIn,
      List.map_filterMap]
  rw [bound?, lastTarget?_eq, entries]

/-- What two services with their hosts have to share for their documents to be the same. -/
structure SameContent (s : Service) (nodes : List Host) (t : Service) (others : List Host) : Prop where
  healthCheckPort : s.healthCheckPort = t.healthCheckPort
  families (family : Family) : family ∈ s.families ↔ family ∈ t.families
  targets (listen : Port) (protocol : Protocol) : protocol = .tcp ∨ protocol = .udp →
    lastTarget? s.ports listen protocol = lastTarget? t.ports listen protocol
  addresses (family : Family) : family ∈ s.families → addressesIn nodes family = addressesIn others family

section

variable {s t : Service} {nodes others : List Host}

theorem SameContent.bound? (same : SameContent s nodes t others) (key : Key) :
    bound? s nodes key = bound? t others key := by
  have declares : (key.family ∈ s.families ∧ key.protocol.proxyable) ↔
      (key.family ∈ t.families ∧ key.protocol.proxyable) := and_congr_left' (same.families key.family)
  rw [bound?_eq, bound?_eq]
  by_cases declared : key.family ∈ s.families ∧ key.protocol.proxyable
  · rw [if_pos declared, if_pos (declares.1 declared), same.addresses key.family declared.1,
      same.targets key.port key.protocol (proxyable_iff.1 declared.2)]
  · rw [if_neg declared, if_neg fun h => declared (declares.2 h)]

theorem SameContent.readsAs (same : SameContent s nodes t others) :
    (Model.ofDescription ⟨some s, nodes⟩).value.ReadsAs (Model.ofDescription ⟨some t, others⟩).value := by
  have ports : (Model.ofDescription ⟨some s, nodes⟩).value.healthCheckPort =
      (Model.ofDescription ⟨some t, others⟩).value.healthCheckPort := by
    rw [Model.healthCheckPort_ofDescription, Model.healthCheckPort_ofDescription, same.healthCheckPort]
  refine Model.readsAs_of_perm ports (Model.perm_of_find? fun key => ?_)
  rw [Model.find?_ofDescription, Model.find?_ofDescription, same.bound? key]

theorem SameContent.value_compile (same : SameContent s nodes t others) :
    (Description.compile false ⟨some s, nodes⟩).run.value =
      (Description.compile false ⟨some t, others⟩).run.value := by
  rw [Description.value_compile, Description.value_compile, Bool.false_and, Bool.false_and,
    if_neg Bool.false_ne_true, if_neg Bool.false_ne_true, Description.value_compileModel,
    Description.value_compileModel, same.readsAs.render]

end

/-- A description with one part changed that its document does not show. -/
inductive Retouched : Description → Description → Prop
  /-- A host under another name, or with other addresses in families that are not listed. -/
  | host {s : Service} {before after : List Host} {old new : Host}
      (same : ∀ family ∈ s.families, old.address? family = new.address? family) :
      Retouched ⟨some s, before ++ old :: after⟩ ⟨some s, before ++ new :: after⟩
  | families {s : Service} {nodes : List Host} {listed : List Family}
      (same : ∀ family, family ∈ s.families ↔ family ∈ listed) :
      Retouched ⟨some s, nodes⟩ ⟨some { s with families := listed }, nodes⟩
  | unproxied {s : Service} {nodes : List Host} {before after : List ServicePort} {port : ServicePort}
      (skipped : port.protocol.proxyable = false) :
      Retouched ⟨some { s with ports := before ++ port :: after }, nodes⟩
        ⟨some { s with ports := before ++ after }, nodes⟩
  /-- A port that a later one with the same number and protocol replaces. -/
  | shadowed {s : Service} {nodes : List Host} {before after : List ServicePort} {port : ServicePort}
      (replaced : ∃ later ∈ after, later.listen = port.listen ∧ later.protocol = port.protocol) :
      Retouched ⟨some { s with ports := before ++ port :: after }, nodes⟩
        ⟨some { s with ports := before ++ after }, nodes⟩
  | swapped {s : Service} {nodes : List Host} {before after : List ServicePort} {p q : ServicePort}
      (apart : ¬(p.listen = q.listen ∧ p.protocol = q.protocol)) :
      Retouched ⟨some { s with ports := before ++ p :: q :: after }, nodes⟩
        ⟨some { s with ports := before ++ q :: p :: after }, nodes⟩

theorem SameContent.of_ports {s : Service} {ports : List ServicePort} (nodes : List Host)
    (targets : ∀ listen protocol, protocol = .tcp ∨ protocol = .udp →
      lastTarget? s.ports listen protocol = lastTarget? ports listen protocol) :
    SameContent s nodes { s with ports := ports } nodes where
  healthCheckPort := rfl
  families _ := Iff.rfl
  targets := targets
  addresses _ _ := rfl

theorem Retouched.sameContent {d e : Description} (retouched : Retouched d e) :
    ∃ s nodes t others, d = ⟨some s, nodes⟩ ∧ e = ⟨some t, others⟩ ∧ SameContent s nodes t others := by
  cases retouched with
  | @host s before after old new same =>
    refine ⟨s, _, s, _, rfl, rfl, ⟨rfl, fun _ => Iff.rfl, fun _ _ _ => rfl, fun family listed => ?_⟩⟩
    simp only [addressesIn, List.filterMap_append, List.filterMap_cons, same family listed]
  | @families s nodes listed same =>
    exact ⟨s, nodes, _, nodes, rfl, rfl, ⟨rfl, same, fun _ _ _ => rfl, fun _ _ => rfl⟩⟩
  | @unproxied s nodes before after port skipped =>
    refine ⟨_, nodes, _, nodes, rfl, rfl, .of_ports nodes fun listen protocol proxied => ?_⟩
    have other : ¬(port.listen = listen ∧ port.protocol = protocol) := by
      rintro ⟨-, rfl⟩
      rw [proxyable_iff.2 proxied] at skipped
      cases skipped
    simp only [lastTarget?_append, lastTarget?_cons, if_neg other, Option.or_none]
  | @shadowed s nodes before after port replaced =>
    refine ⟨_, nodes, _, nodes, rfl, rfl, .of_ports nodes fun listen protocol _ => ?_⟩
    obtain ⟨later, member, number, transport⟩ := replaced
    simp only [lastTarget?_append, lastTarget?_cons]
    by_cases same : port.listen = listen ∧ port.protocol = protocol
    · -- The later port answers for this number and protocol, so that the earlier is never asked.
      have found := lastTarget?_isSome member
      rw [number, transport, same.1, same.2] at found
      rw [Option.or_of_isSome found]
    · rw [if_neg same, Option.or_none]
  | @swapped s nodes before after p q apart =>
    refine ⟨_, nodes, _, nodes, rfl, rfl, .of_ports nodes fun listen protocol _ => ?_⟩
    simp only [lastTarget?_append, lastTarget?_cons]
    -- At most one of the two speaks for a number and a protocol.
    by_cases first : p.listen = listen ∧ p.protocol = protocol
    · have second : ¬(q.listen = listen ∧ q.protocol = protocol) := fun second =>
        apart ⟨first.1.trans second.1.symm, first.2.trans second.2.symm⟩
      simp only [if_neg second, Option.or_none]
    · simp only [if_neg first, Option.or_none]

/-- Lenient compilation sees the content of a description only. So whatever is retouched, however
often and in whichever direction, the result stays the same. -/
theorem compile_eq_of_sameContent :
    (∀ (s t : Service) (nodes others : List Host), SameContent s nodes t others →
      (Description.compile false ⟨some s, nodes⟩).run.value =
        (Description.compile false ⟨some t, others⟩).run.value) ∧
    ∀ d e : Description, Relation.EqvGen Retouched d e →
      (d.compile false).run.value = (e.compile false).run.value := by
  refine ⟨fun s t nodes others => SameContent.value_compile, fun d e chain => ?_⟩
  induction chain with
  | rel d e retouched =>
    obtain ⟨s, nodes, t, others, rfl, rfl, same⟩ := retouched.sameContent
    exact same.value_compile
  | refl d => rfl
  | symm d e _ ih => exact ih.symm
  | trans d e f _ _ first second => exact first.trans second

def exposed : Service := ⟨[⟨80, 30080, .tcp⟩, ⟨53, 30053, .udp⟩], [.ipv4], 32000⟩

def hosts : List Host := [⟨"a", some "10.0.0.1", none⟩, ⟨"b", some "10.0.0.2", none⟩]

def disguised : Service :=
  ⟨[⟨53, 30053, .udp⟩, ⟨80, 1, .tcp⟩, ⟨9999, 31999, .sctp⟩, ⟨80, 30080, .tcp⟩], [.ipv4, .ipv4], 32000⟩

def disguisedHosts : List Host :=
  [⟨"x", some "10.0.0.1", some "fd00::1"⟩, ⟨"y", none, some "fd00::2"⟩, ⟨"z", some "10.0.0.2", none⟩]

theorem sameContent_disguised : SameContent exposed hosts disguised disguisedHosts where
  healthCheckPort := rfl
  families family := by simp [exposed, disguised]
  targets listen protocol proxied := by
    have nothing : lastTarget? [] listen protocol = none := rfl
    simp only [exposed, disguised, lastTarget?_cons, nothing, Option.none_or]
    rcases proxied with rfl | rfl
    · by_cases here : 80 = listen <;> simp [here]
    · by_cases here : 53 = listen <;> simp [here]
  addresses family listed := by
    obtain rfl := List.mem_singleton.1 listed
    rfl

theorem compile_exposed : (Description.compile false ⟨some exposed, hosts⟩).run.value =
    .ok (Model.ofDescription ⟨some exposed, hosts⟩).value.document := by
  have accepted : ∀ b ∈ (Model.ofDescription ⟨some exposed, hosts⟩).value.entries, b.2.Accepted := by
    decide +kernel
  have rendered := Model.render_eq_ok_iff.2 ⟨accepted, rfl⟩
  rw [Description.value_compile, Description.value_compileModel, rendered]
  rfl

theorem compile_eq_of_sameContent_disguised :
    SameContent exposed hosts disguised disguisedHosts ∧
    Relation.EqvGen Retouched ⟨some exposed, ⟨"c", none, none⟩ :: hosts⟩
      ⟨some exposed, ⟨"d", none, some "fd00::3"⟩ :: hosts⟩ ∧
    (Description.compile false ⟨some exposed, hosts⟩).run.value =
      .ok (Model.ofDescription ⟨some exposed, hosts⟩).value.document ∧
    (Description.compile false ⟨some disguised, disguisedHosts⟩).run.value =
      .ok (Model.ofDescription ⟨some exposed, hosts⟩).value.document ∧
    (Description.compile false ⟨some exposed, ⟨"c", none, none⟩ :: hosts⟩).run.value =
      (Description.compile false ⟨some exposed, ⟨"d", none, some "fd00::3"⟩ :: hosts⟩).run.value := by
  have retouched : Relation.EqvGen Retouched ⟨some exposed, ⟨"c", none, none⟩ :: hosts⟩
      ⟨some exposed, ⟨"d", none, some "fd00::3"⟩ :: hosts⟩ :=
    .rel _ _ (@Retouched.host exposed [] hosts _ _ fun family listed => by
      obtain rfl := List.mem_singleton.1 listed
      rfl)
  obtain ⟨byContent, byRetouching⟩ := compile_eq_of_sameContent
  have same := byContent exposed disguised hosts disguisedHosts sameContent_disguised
  exact ⟨sameContent_disguised, retouched, compile_exposed, same.symm.trans compile_exposed,
    byRetouching _ _ retouched⟩

end Routing

end ServiceProxy
