import ServiceProxy.Proofs.Description.Problems
import ServiceProxy.Proofs.Document.AddressLines
import ServiceProxy.Proofs.Strictness

/-! The port lines of a document. In the text of a document the ports of listeners, of backends
and of health checks each stand at an indentation of their own. Main statement: in a document
that strict compilation lets through, the port of health checks is the only one that may be zero. -/

set_option autoImplicit false

namespace ServiceProxy

open Routing

namespace Document

inductive PortRole where
  | listener
  | backend
  | check
  deriving DecidableEq

namespace PortRole

def lead : PortRole → String
  | .listener => "        port_value: "
  | .backend => "                  port_value: "
  | .check => "                port_value: "

/-- The ports of a document in some role, in the order of its lines; `none` where there is no
port behind the lead. -/
def portsOf (role : PortRole) (text : String) : List (Option Port) :=
  ((linesOf text).filterMap (after? role.lead)).map fun digits => Decimal.readPort? digits.toList

def ofListener (role : PortRole) (e : Endpoint) : List Port :=
  if role = .listener then [e.port] else []

def ofBackend (role : PortRole) (healthCheckPort : Port) (e : Endpoint) : List Port :=
  (if role = .check then [healthCheckPort] else []) ++ if role = .backend then [e.port] else []

def ofBindings (role : PortRole) (healthCheckPort : Port) (bindings : List (Key × Entry)) : List Port :=
  (bindings.flatMap fun b => role.ofListener b.2.listener) ++
    bindings.flatMap fun b => b.2.cluster.flatMap (role.ofBackend healthCheckPort)

theorem after?_lead (role other : PortRole) (digits : String) :
    after? role.lead (other.lead ++ digits) = if role = other then some digits else none := by
  by_cases same : role = other
  · rw [if_pos same, same, after?_append]
  · rw [if_neg same]
    refine after?_eq_none ?_ digits
    cases role <;> cases other <;> first | exact absurd rfl same | decide

/-- A text that clashes with what stands in front of any port. -/
def apart (other : String) : Bool := [listener, backend, check].all fun role => clash role.lead other

theorem after?_of_apart {other : String} (different : apart other = true) (role : PortRole)
    (rest : String) : after? role.lead (other ++ rest) = none := by
  have listed : role ∈ [listener, backend, check] := by cases role <;> decide
  exact after?_eq_none (List.all_eq_true.1 different role listed) rest

theorem silent_of_apart {stems : List String} (different : ∀ stem ∈ stems, apart stem = true) (role : PortRole) :
    Silent (after? role.lead) stems :=
  fun stem member => after?_of_apart (different stem member) role

theorem filterMap_socketLines (role : PortRole) {place : PortRole} {pad : String}
    (lead : pad ++ "  port_value: " = place.lead)
    (others : apart (pad ++ "socket_address:") = true ∧ apart (pad ++ "  address: ") = true ∧
      apart (pad ++ "  protocol: ") = true) (e : Endpoint) :
    (socketLines pad e).filterMap (after? role.lead) =
      if role = place then [Decimal.port e.port] else [] := by
  obtain ⟨head, address, protocol⟩ := others
  have head := after?_of_apart head role ""
  rw [String.append_empty] at head
  rw [socketLines, List.filterMap_cons_none head,
    List.filterMap_cons_none (after?_of_apart address role e.address), lead, List.filterMap_cons,
    List.filterMap_cons_none (after?_of_apart protocol role e.protocol.name), List.filterMap_nil, after?_lead]
  by_cases same : role = place <;> simp [same]

theorem filterMap_listenerLines (role : PortRole) (name : String) (e : Endpoint) :
    (listenerLines name e).filterMap (after? role.lead) = (role.ofListener e).map Decimal.port := by
  have silent : Silent (after? role.lead) listenerStems := silent_of_apart (by decide +kernel) role
  have target : after? role.lead ("            cluster: cluster_" ++ name) = none :=
    after?_of_apart (by decide) role name
  have socket : (socketLines "      " e).filterMap (after? role.lead) =
      if role = .listener then [Decimal.port e.port] else [] :=
    filterMap_socketLines role (by decide) (by decide) e
  rw [filterMap_listenerLines_of_silent silent, socket, target, ofListener]
  split <;> rfl

theorem filterMap_backendLines (role : PortRole) (healthCheckPort : Port) (e : Endpoint) :
    (backendLines healthCheckPort e).filterMap (after? role.lead) =
      (role.ofBackend healthCheckPort e).map Decimal.port := by
  have silent : Silent (after? role.lead) backendStems := silent_of_apart (by decide) role
  have checked : after? role.lead ("                port_value: " ++ Decimal.port healthCheckPort) =
      if role = .check then some (Decimal.port healthCheckPort) else none :=
    after?_lead role .check _
  have socket : (socketLines "                " e).filterMap (after? role.lead) =
      if role = .backend then [Decimal.port e.port] else [] :=
    filterMap_socketLines role (by decide) (by decide) e
  rw [filterMap_backendLines_of_silent silent, checked, socket, ofBackend]
  cases role <;> rfl

theorem filterMap_clusterHeadLines (role : PortRole) (name : String) :
    (clusterHeadLines name).filterMap (after? role.lead) = [] := by
  have silent : Silent (after? role.lead) clusterStems := silent_of_apart (by decide +kernel) role
  have assigned : after? role.lead ("      cluster_name: cluster_" ++ name) = none :=
    after?_of_apart (by decide) role name
  rw [filterMap_clusterHeadLines_of_silent silent, assigned]
  rfl

theorem filterMap_bindingLines (role : PortRole) (healthCheckPort : Port)
    (bindings : List (Key × Entry)) :
    (bindingLines healthCheckPort bindings).filterMap (after? role.lead) =
      (role.ofBindings healthCheckPort bindings).map Decimal.port := by
  -- Among these lines are empty ones, which clash with nothing although no lead fits into them.
  have before : (adminLines ++ ["static_resources:", "  listeners:"]).filterMap (after? role.lead) = [] := by
    cases role <;> decide +kernel
  have between : ["", "  clusters:"].filterMap (after? role.lead) = [] := by cases role <;> decide
  rw [filterMap_bindingLines_of_silent before between]
  simp only [filterMap_listenerLines, filterMap_clusterHeadLines, filterMap_backendLines, List.nil_append,
    ofBindings, List.map_append, List.map_flatMap]

theorem portsOf_document (role : PortRole) {m : Model} (accepted : ∀ b ∈ m.entries, b.2.Accepted) :
    role.portsOf m.document = (role.ofBindings m.healthCheckPort m.sorted).map some := by
  rw [portsOf, Model.linesOf_document accepted, filterMap_bindingLines, List.map_map]
  exact List.map_congr_left fun port _ => Decimal.readPort?_port port

theorem mem_ofBindings {role : PortRole} {healthCheckPort p : Port} {bindings : List (Key × Entry)} :
    p ∈ role.ofBindings healthCheckPort bindings ↔ ∃ b ∈ bindings,
      (role = .listener ∧ p = b.2.listener.port) ∨
      ∃ e ∈ b.2.cluster, (role = .check ∧ p = healthCheckPort) ∨ (role = .backend ∧ p = e.port) := by
  have listener (e : Endpoint) : p ∈ role.ofListener e ↔ role = .listener ∧ p = e.port := by
    unfold ofListener
    split <;> simp [*]
  have backend (e : Endpoint) : p ∈ role.ofBackend healthCheckPort e ↔
      (role = .check ∧ p = healthCheckPort) ∨ (role = .backend ∧ p = e.port) := by
    cases role <;> simp [ofBackend]
  simp only [ofBindings, List.mem_append, List.mem_flatMap, listener, backend, and_or_left, exists_or]

end PortRole

def IsNonZero (port : Option Port) : Prop := ∃ p, port = some p ∧ p ≠ 0

theorem isNonZero_some (p : Port) : IsNonZero (some p) ↔ p ≠ 0 := by simp [IsNonZero]

end Document

theorem Service.nonzero_of_problems_eq_nil {s : Service} (valid : s.problems = []) {port : ServicePort}
    (member : port ∈ s.ports) : port.listen ≠ 0 ∧ port.target ≠ 0 := by
  rw [problems_eq, List.append_eq_nil_iff, List.append_eq_nil_iff, List.map_eq_nil_iff] at valid
  exact zeroFields_eq_nil_iff.1 valid.1.2 port member

namespace Description

open Document

/-- Some host can be reached behind a proxied port. -/
def Reaches (d : Description) : Prop := ∃ s, d.service = some s ∧
  (∃ port ∈ s.ports, port.protocol.proxyable) ∧
    ∃ family ∈ s.families, ∃ host ∈ d.nodes, (host.address? family).isSome

theorem exists_backend_iff {d : Description} :
    (∃ b ∈ (Model.ofDescription d).value.entries, ∃ e, e ∈ b.2.cluster) ↔ d.Reaches := by
  obtain ⟨_ | s, nodes⟩ := d
  · simp [Reaches, Model.ofDescription, Model.empty]
  · constructor
    · rintro ⟨⟨key, entry⟩, bound, backend, isBackend⟩
      obtain ⟨family, listed, port, isPort, proxied, rfl⟩ :=
        mem_keys_ofDescription_iff.1 (List.mem_map_of_mem bound)
      obtain ⟨host, isHost, found⟩ := (exists_mem_cluster_iff bound).1 ⟨backend, isBackend, rfl⟩
      exact ⟨s, rfl, ⟨port, isPort, proxied⟩, family, listed, host, isHost, found ▸ rfl⟩
    · rintro ⟨service, same, ⟨port, isPort, proxied⟩, family, listed, host, isHost, held⟩
      obtain rfl : s = service := Option.some.inj same
      obtain ⟨address, found⟩ := Option.isSome_iff_exists.1 held
      obtain ⟨⟨key, entry⟩, bound, rfl⟩ := List.mem_map.1
        (mem_keys_ofDescription_iff.2 ⟨family, listed, port, isPort, proxied, rfl⟩)
      obtain ⟨backend, isBackend, -⟩ := (exists_mem_cluster_iff bound).2 ⟨host, isHost, found⟩
      exact ⟨_, bound, backend, isBackend⟩

theorem nonzero_of_mem_entries {d : Description} (valid : d.problems = []) {b : Key × Entry}
    (bound : b ∈ (Model.ofDescription d).value.entries) :
    b.2.listener.port ≠ 0 ∧ ∀ e ∈ b.2.cluster, e.port ≠ 0 := by
  obtain ⟨_ | s, nodes⟩ := d
  · cases bound
  · obtain ⟨listener, _, last, _, split, same, -, cluster⟩ := entry_of_mem bound
    have member : last ∈ s.ports := split ▸ List.mem_append_right _ List.mem_cons_self
    obtain ⟨listen, target⟩ := Service.nonzero_of_problems_eq_nil valid member
    rw [listener, cluster]
    refine ⟨same.1 ▸ listen, fun e isBackend => ?_⟩
    obtain ⟨host, -, held⟩ := List.mem_filterMap.1 isBackend
    obtain ⟨_, -, rfl⟩ := Option.map_eq_some_iff.1 held
    exact target

theorem healthCheckPort_of_service {d : Description} {s : Service} (isService : d.service = some s) :
    (Model.ofDescription d).value.healthCheckPort = s.healthCheckPort := by
  obtain ⟨_, nodes⟩ := d
  obtain rfl := isService
  exact Model.healthCheckPort_ofDescription s nodes

section

variable {d : Description} {text : String} (compiled : (d.compile true).run.value = .ok text)

include compiled

theorem isNonZero_of_mem_portsOf {role : PortRole} (other : role ≠ .check) {port : Option Port}
    (member : port ∈ role.portsOf text) : IsNonZero port := by
  obtain ⟨valid, accepted, rfl⟩ := compile_strict_eq_ok_iff.1 compiled
  rw [role.portsOf_document accepted] at member
  obtain ⟨p, held, rfl⟩ := List.mem_map.1 member
  refine ⟨p, rfl, ?_⟩
  obtain ⟨b, written, held⟩ := PortRole.mem_ofBindings.1 held
  have bound := (Model.perm_sorted _).mem_iff.1 written
  obtain ⟨listener, backends⟩ := nonzero_of_mem_entries valid bound
  obtain ⟨-, rfl⟩ | ⟨e, isBackend, ⟨isCheck, -⟩ | ⟨-, rfl⟩⟩ := held
  · exact listener
  · exact absurd isCheck other
  · exact backends e isBackend

theorem mem_checkPorts_iff {port : Option Port} : port ∈ PortRole.check.portsOf text ↔
    d.Reaches ∧ ∃ s, d.service = some s ∧ port = some s.healthCheckPort := by
  obtain ⟨-, accepted, rfl⟩ := compile_strict_eq_ok_iff.1 compiled
  rw [PortRole.check.portsOf_document accepted, List.mem_map]
  constructor
  · rintro ⟨p, held, rfl⟩
    obtain ⟨b, written, held⟩ := PortRole.mem_ofBindings.1 held
    have bound := (Model.perm_sorted _).mem_iff.1 written
    obtain ⟨isListener, -⟩ | ⟨e, isBackend, ⟨-, rfl⟩ | ⟨isBackendPort, -⟩⟩ := held
    · cases isListener
    · have reaches := exists_backend_iff.1 ⟨b, bound, e, isBackend⟩
      obtain ⟨s, isService, -⟩ := id reaches
      exact ⟨reaches, s, isService, congrArg some (healthCheckPort_of_service isService)⟩
    · cases isBackendPort
  · rintro ⟨reaches, s, isService, rfl⟩
    obtain ⟨b, bound, e, isBackend⟩ := exists_backend_iff.2 reaches
    have written := (Model.perm_sorted _).mem_iff.2 bound
    exact ⟨_, PortRole.mem_ofBindings.2 ⟨b, written, .inr ⟨e, isBackend, .inl ⟨rfl, rfl⟩⟩⟩,
      congrArg some (healthCheckPort_of_service isService)⟩

end

/-- In a document that strict compilation lets through, the ports of listeners and of backends
are not zero, and the checks go to the port that the service names for them. So no port is zero
unless that one is and some backend shows it. -/
theorem nonzero_ports_iff (d : Description) (text : String)
    (compiled : (d.compile true).run.value = .ok text) :
    (∀ port ∈ PortRole.listener.portsOf text, IsNonZero port) ∧
    (∀ port ∈ PortRole.backend.portsOf text, IsNonZero port) ∧
    (∀ port, port ∈ PortRole.check.portsOf text ↔
      d.Reaches ∧ ∃ s, d.service = some s ∧ port = some s.healthCheckPort) ∧
    ((∀ (role : PortRole), ∀ port ∈ role.portsOf text, IsNonZero port) ↔
      ∀ s, d.service = some s → s.healthCheckPort = 0 → ¬d.Reaches) := by
  have checked : ∀ port, port ∈ PortRole.check.portsOf text ↔
      d.Reaches ∧ ∃ s, d.service = some s ∧ port = some s.healthCheckPort :=
    fun _ => mem_checkPorts_iff compiled
  refine ⟨fun _ => isNonZero_of_mem_portsOf compiled (by decide),
    fun _ => isNonZero_of_mem_portsOf compiled (by decide), checked, ?_, ?_⟩
  · intro all s isService zero reaches
    -- A backend that is reached shows the port, whatever else the document holds.
    have shown := (checked (some s.healthCheckPort)).2 ⟨reaches, s, isService, rfl⟩
    exact (isNonZero_some _).1 (all .check _ shown) zero
  · intro guarded role port member
    by_cases isCheck : role = .check
    · subst isCheck
      obtain ⟨reaches, s, isService, rfl⟩ := (checked port).1 member
      exact (isNonZero_some _).2 fun zero => guarded s isService zero reaches
    · exact isNonZero_of_mem_portsOf compiled isCheck member

theorem nonzero_ports_dualStack :
    (dualStack.compile true).run.value = .ok (Model.ofDescription dualStack).value.document ∧
    (∀ (role : PortRole), ∀ port ∈ role.portsOf (Model.ofDescription dualStack).value.document,
      IsNonZero port) ∧
    some 32000 ∈ PortRole.check.portsOf (Model.ofDescription dualStack).value.document := by
  obtain ⟨-, -, checked, nonzero⟩ := nonzero_ports_iff dualStack _ compile_dualStack
  have reaches : dualStack.Reaches := ⟨_, rfl, by decide, by decide⟩
  have named : ∀ s, dualStack.service = some s → s.healthCheckPort = 0 → ¬dualStack.Reaches := by
    rintro s isService zero
    obtain rfl := Option.some.inj isService
    cases zero
  exact ⟨compile_dualStack, nonzero.2 named, (checked _).2 ⟨reaches, _, rfl, rfl⟩⟩

/-- A service that names no port for checks, and a host that would be checked. -/
def uncheckedText : String :=
  "[service]\nipFamilies = [\"IPv4\"]\n" ++
  "[[service.ports]]\nlistenPort = 80\ntargetPort = 30000\n" ++
  "[[nodes]]\naddresses.IPv4 = \"10.0.0.1\"\n"

def unchecked : Description where
  service := some ⟨[⟨80, 30000, .tcp⟩], [.ipv4], 0⟩
  nodes := [⟨"", some "10.0.0.1", none⟩]

/-- Strict compilation lets a document through in which a port is zero. -/
theorem zero_port_of_compile_strict :
    (parse .toml uncheckedText).run.value = .ok unchecked ∧
    ¬∀ (d : Description) (text : String), (d.compile true).run.value = .ok text →
      ∀ (role : PortRole), ∀ port ∈ role.portsOf text, IsNonZero port := by
  refine ⟨by decide +kernel, fun all => ?_⟩
  have accepted : ∀ b ∈ (Model.ofDescription unchecked).value.entries, b.2.Accepted := by decide +kernel
  have compiled := compile_strict_eq_ok_iff.2 ⟨by decide +kernel, accepted, rfl⟩
  have shown := (mem_checkPorts_iff compiled).2 ⟨⟨_, rfl, by decide, by decide⟩, _, rfl, rfl⟩
  exact (isNonZero_some 0).1 (all unchecked _ compiled .check _ shown) rfl

end Description

end ServiceProxy
