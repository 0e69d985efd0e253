import ServiceProxy.Proofs.Document.Ports
import ServiceProxy.Proofs.Metrics.Balance
import ServiceProxy.Proofs.Routing.Counting

/-! Counts of a document. Its listeners, its clusters and their endpoints are counted by lines, and
the lines below one belong to it as far as they are indented deeper. Main statement: the counts
are those that the gauges show, they follow from the description, and every endpoint is checked on
the port of its service. -/

set_option autoImplicit false

namespace ServiceProxy

open Routing

namespace Document

/-! ## Lines below a line -/

def indentation (line : String) : Nat := (line.toList.takeWhile (· = ' ')).length

def below (lead : String) : List String → List (List String)
  | [] => []
  | line :: rest =>
    if (field? lead line).isSome then rest.takeWhile (indentation line < indentation ·) :: below lead rest
    else below lead rest

theorem length_below (lead : String) (ls : List String) :
    (below lead ls).length = ls.countP fun line => (field? lead line).isSome := by
  induction ls with
  | nil => rfl
  | cons line rest ih =>
    rw [below, List.countP_cons]
    split
    · rw [List.length_cons, ih]
    · exact ih

theorem below_append_of_none {lead : String} {ls : List String} (plain : ls.filterMap (field? lead) = [])
    (rest : List String) : below lead (ls ++ rest) = below lead rest := by
  rw [List.filterMap_eq_nil_iff] at plain
  induction ls with
  | nil => rfl
  | cons line others ih =>
    rw [List.forall_mem_cons] at plain
    rw [List.cons_append, below, plain.1]
    exact ih plain.2

theorem indentation_append {known : String} (filled : unindented known ≠ "") (rest : String) :
    indentation (known ++ rest) = indentation known := by
  have left : (known.toList.takeWhile (· = ' ')).length ≠ known.toList.length := by
    intro all
    have split := congrArg List.length (List.takeWhile_append_dropWhile (p := (· = ' ')) (l := known.toList))
    rw [List.length_append] at split
    have empty : known.toList.dropWhile (· = ' ') = [] := List.eq_nil_of_length_eq_zero (by omega)
    exact filled (by rw [unindented, empty])
  rw [indentation, String.toList_append, List.takeWhile_append, if_neg left, indentation]

theorem indentation_le_append (known rest : String) : indentation known ≤ indentation (known ++ rest) := by
  rw [indentation, indentation, String.toList_append, List.takeWhile_append]
  split
  · rename_i blank
    rw [blank, List.length_append]
    exact Nat.le_add_right _ _
  · exact Nat.le_refl _

theorem lt_indentation_socketLines {pad : String} {n : Nat} (deep : n < indentation pad) (e : Endpoint) :
    ∀ line ∈ socketLines pad e, n < indentation line := by
  have line (rest : String) : n < indentation (pad ++ rest) := Nat.lt_of_lt_of_le deep (indentation_le_append pad rest)
  have field (name value : String) : n < indentation (pad ++ name ++ value) :=
    Nat.lt_of_lt_of_le (line name) (indentation_le_append (pad ++ name) value)
  simp only [socketLines, List.forall_mem_cons, line, field, true_and]
  exact List.forall_mem_nil _

/-! ## Endpoints of a document -/

def endpointsLead : String := "- lb_endpoints:"

def endpointBlocks (text : String) : List (List String) := below endpointsLead (linesOf text)

def backendBody (b : Port × Endpoint) : List String := (backendLines b.1 b.2).tail

theorem lt_indentation_backendBody (b : Port × Endpoint) : ∀ line ∈ backendBody b, 8 < indentation line := by
  have socket := lt_indentation_socketLines (by decide : 8 < indentation "                ") b.2
  have checked : 8 < indentation ("                port_value: " ++ Decimal.port b.1) :=
    Nat.lt_of_lt_of_le (by decide) (indentation_le_append _ _)
  have lines : backendBody b = ["          - endpoint:", "              health_check_config:",
      "                port_value: " ++ Decimal.port b.1, "              address:"] ++
        socketLines "                " b.2 := rfl
  rw [lines]
  refine List.forall_mem_append.2 ⟨?_, socket⟩
  simp only [List.forall_mem_cons, checked]
  decide

theorem filterMap_backendBody (b : Port × Endpoint) : (backendBody b).filterMap (field? endpointsLead) = [] := by
  have socket : (socketLines "                " b.2).filterMap (field? endpointsLead) = [] :=
    field?_socketLines (by decide) (by decide) b.2
  have before : ["          - endpoint:", "              health_check_config:"].filterMap
      (field? endpointsLead) = [] := by decide
  have checked : field? endpointsLead ("                port_value: " ++ Decimal.port b.1) = none :=
    field?_eq_none (by decide) _
  have address : field? endpointsLead "              address:" = none := by decide
  have lines : backendBody b = ["          - endpoint:", "              health_check_config:"] ++
      ("                port_value: " ++ Decimal.port b.1) :: "              address:" ::
        socketLines "                " b.2 := rfl
  rw [lines, List.filterMap_append, before, List.filterMap_cons_none checked, List.filterMap_cons_none address,
    socket, List.append_nil]

theorem filterMap_endpoints_listenerLines (name : String) (e : Endpoint) :
    (listenerLines name e).filterMap (field? endpointsLead) = [] := by
  have silent : Silent (field? endpointsLead) listenerStems := silent_field? (by decide +kernel)
  have socket : (socketLines "      " e).filterMap (field? endpointsLead) = [] :=
    field?_socketLines (by decide) (by decide) e
  have target : field? endpointsLead ("            cluster: cluster_" ++ name) = none :=
    field?_eq_none (by decide) name
  rw [filterMap_listenerLines_of_silent silent, socket, target]
  rfl

theorem filterMap_endpoints_clusterHeadLines (name : String) :
    (clusterHeadLines name).filterMap (field? endpointsLead) = [] := by
  have silent : Silent (field? endpointsLead) clusterStems := silent_field? (by decide +kernel)
  have assigned : field? endpointsLead ("      cluster_name: cluster_" ++ name) = none :=
    field?_eq_none (by decide) name
  rw [filterMap_clusterHeadLines_of_silent silent, assigned]
  rfl

/-- Blocks that start behind no more than eight blanks end at each other. -/
theorem below_backends (bs : List (Port × Endpoint)) {rest : List String}
    (closed : rest.takeWhile (8 < indentation ·) = []) :
    ((bs.flatMap fun b => backendLines b.1 b.2) ++ rest).takeWhile (8 < indentation ·) = [] ∧
      below endpointsLead ((bs.flatMap fun b => backendLines b.1 b.2) ++ rest) =
        bs.map backendBody ++ below endpointsLead rest := by
  -- The first part is what ends the block in front, so both go through the induction together.
  induction bs with
  | nil => exact ⟨closed, rfl⟩
  | cons b others ih =>
    have lines : backendLines b.1 b.2 = "        - lb_endpoints:" :: backendBody b := rfl
    have opened : (field? endpointsLead "        - lb_endpoints:").isSome := by decide
    have outer : indentation "        - lb_endpoints:" = 8 := by decide
    have inner : ∀ line ∈ backendBody b, decide (8 < indentation line) = true :=
      fun line member => decide_eq_true (lt_indentation_backendBody b line member)
    rw [List.flatMap_cons, List.append_assoc, lines, List.cons_append, below, if_pos opened, outer,
      List.takeWhile_append_of_pos inner, ih.1, List.append_nil,
      below_append_of_none (filterMap_backendBody b), ih.2]
    exact ⟨List.takeWhile_cons_of_neg (by rw [outer]; decide), rfl⟩

theorem below_clusters (cs : List (Key × List (Port × Endpoint))) :
    (cs.flatMap writtenCluster).takeWhile (8 < indentation ·) = [] ∧
      below endpointsLead (cs.flatMap writtenCluster) = cs.flatMap fun c => c.2.map backendBody := by
  induction cs with
  | nil => exact ⟨rfl, rfl⟩
  | cons c others ih =>
    have outer : indentation ("  - name: cluster_" ++ c.1.text) = 2 :=
      indentation_append (by decide) c.1.text
    rw [List.flatMap_cons, writtenCluster, List.append_assoc,
      below_append_of_none (filterMap_endpoints_clusterHeadLines _), (below_backends c.2 ih.1).2, ih.2]
    exact ⟨List.takeWhile_cons_of_neg (by rw [outer]; decide), rfl⟩

theorem below_bindingLines (healthCheckPort : Port) (bindings : List (Key × Entry)) :
    below endpointsLead (bindingLines healthCheckPort bindings) =
      bindings.flatMap fun b => b.2.cluster.map fun e => backendBody (healthCheckPort, e) := by
  have before : (adminLines ++ ["static_resources:", "  listeners:"]).filterMap (field? endpointsLead) = [] := by
    decide +kernel
  have between : ["", "  clusters:"].filterMap (field? endpointsLead) = [] := by decide
  have listeners : ((listenersOf bindings).flatMap fun l => listenerLines l.1.text l.2).filterMap
      (field? endpointsLead) = [] := by
    rw [List.filterMap_flatMap, List.flatMap_eq_nil_iff]
    exact fun l _ => filterMap_endpoints_listenerLines l.1.text l.2
  have clusters := (below_clusters (clustersOf healthCheckPort bindings)).2
  rw [bindingLines_eq, below_append_of_none before, below_append_of_none listeners]
  refine (below_append_of_none between _).trans (clusters.trans ?_)
  simp only [clustersOf, List.flatMap_map, List.map_map]
  rfl

theorem below_config (b : Port × Endpoint) :
    below "health_check_config:" (backendBody b) = [["                port_value: " ++ Decimal.port b.1]] := by
  have before : ["          - endpoint:"].filterMap (field? "health_check_config:") = [] := by decide
  have opened : (field? "health_check_config:" "              health_check_config:").isSome := by decide
  have outer : indentation "              health_check_config:" = 14 := by decide
  have inner : indentation ("                port_value: " ++ Decimal.port b.1) = 16 :=
    indentation_append (by decide) _
  have checked : field? "health_check_config:" ("                port_value: " ++ Decimal.port b.1) = none :=
    field?_eq_none (by decide) _
  have address : field? "health_check_config:" "              address:" = none := by decide
  have socket : (socketLines "                " b.2).filterMap (field? "health_check_config:") = [] :=
    field?_socketLines (by decide) (by decide) b.2
  have lines : backendBody b = ["          - endpoint:"] ++ "              health_check_config:" ::
      ("                port_value: " ++ Decimal.port b.1) :: "              address:" ::
        socketLines "                " b.2 := rfl
  have rest : (("                port_value: " ++ Decimal.port b.1) :: "              address:" ::
      socketLines "                " b.2).filterMap (field? "health_check_config:") = [] := by
    rw [List.filterMap_cons_none checked, List.filterMap_cons_none address, socket]
  -- The block ends at the next line, which is indented no deeper than the line that opens it.
  have nothing := below_append_of_none rest []
  rw [List.append_nil] at nothing
  rw [lines, below_append_of_none before, below, if_pos opened, outer, nothing,
    List.takeWhile_cons_of_pos (by rw [inner]; decide), List.takeWhile_cons_of_neg (by decide)]
  rfl

end Document

namespace Routing.Model

open Document

section

variable {m : Model} (accepted : ∀ b ∈ m.entries, b.2.Accepted)

include accepted

theorem endpointBlocks_document : endpointBlocks m.document =
    m.sorted.flatMap fun b => b.2.cluster.map fun e => backendBody (m.healthCheckPort, e) := by
  rw [endpointBlocks, linesOf_document accepted, below_bindingLines]

theorem length_endpointBlocks_document : (endpointBlocks m.document).length = m.endpointCount := by
  rw [endpointBlocks_document accepted, List.length_flatMap]
  simp only [List.length_map]
  rw [(m.perm_sorted.map fun b => b.2.cluster.length).sum_eq]
  exact List.foldr_map

theorem checked_of_mem_endpointBlocks {block : List String} (member : block ∈ endpointBlocks m.document) :
    ∃ config, below "health_check_config:" block = [config] ∧
      (config.filterMap (field? "port_value: ")).map (fun digits => Decimal.readPort? digits.toList) =
        [some m.healthCheckPort] := by
  rw [endpointBlocks_document accepted] at member
  obtain ⟨b, -, isBlock⟩ := List.mem_flatMap.1 member
  obtain ⟨e, -, rfl⟩ := List.mem_map.1 isBlock
  refine ⟨_, below_config _, ?_⟩
  rw [List.filterMap_cons_some (field?_append (by decide) (by decide) _)]
  exact congrArg (fun port => [port]) (Decimal.readPort?_port m.healthCheckPort)

theorem countP_listenerLead_document :
    ((linesOf m.document).countP fun line => (after? listenerLead line).isSome) = m.size := by
  rw [← List.length_filterMap_eq_countP, ← map_name_items, List.length_map, ← listeners,
    length_listeners_document accepted]

theorem countP_clusterLead_document :
    ((linesOf m.document).countP fun line => (after? clusterLead line).isSome) = m.size := by
  rw [← List.length_filterMap_eq_countP, ← map_name_items, List.length_map, ← clusters,
    length_clusters_document accepted]

end

end Routing.Model

namespace Description

open Document

theorem compile_lenient_eq_ok_iff {d : Description} {text : String} :
    (d.compile false).run.value = .ok text ↔
      (∀ b ∈ (Model.ofDescription d).value.entries, b.2.Accepted) ∧
        text = (Model.ofDescription d).value.document := by
  rw [value_compile_lenient, compileModel_eq_ok_iff, Model.render_eq_ok_iff]

theorem gauges_of_compile {d : Description} {text : String} (compiled : (d.compile false).run.value = .ok text)
    (l : Ledger) :
    (l.postAll (d.compile false).run.samples).entries = some (Model.ofDescription d).value.size ∧
      (l.postAll (d.compile false).run.samples).endpoints = some (Model.ofDescription d).value.endpointCount := by
  have ended : d.verdict false = .ok := congrArg Verdict.ofResult compiled
  rw [samples_compile, ended]
  exact ⟨rfl, rfl⟩

/-- The gauges of a lenient compilation show how many listeners and clusters and how many endpoints
the lines of its document open. The first are the distinct families times the distinct pairs that
are listened on, the others have for each of these pairs the nodes of each family. All endpoints
are checked on the port of the service. -/
theorem counts_agree (d : Description) (s : Service) (text : String) (isService : d.service = some s)
    (compiled : (d.compile false).run.value = .ok text) :
    ∃ entries endpoints : Nat,
      (∀ l : Ledger, (l.postAll (d.compile false).run.samples).entries = some entries ∧
        (l.postAll (d.compile false).run.samples).endpoints = some endpoints) ∧
      ((linesOf text).countP fun line => (after? listenerLead line).isSome) = entries ∧
      ((linesOf text).countP fun line => (after? clusterLead line).isSome) = entries ∧
      entries = s.families.toFinset.card * s.listening.card ∧
      ((linesOf text).countP fun line => (field? endpointsLead line).isSome) = endpoints ∧
      endpoints = s.listening.card * ∑ family ∈ s.families.toFinset, reachableIn d.nodes family ∧
      (endpointBlocks text).length = endpoints ∧
      ∀ block ∈ endpointBlocks text, ∃ config, below "health_check_config:" block = [config] ∧
        (config.filterMap (field? "port_value: ")).map (fun digits => Decimal.readPort? digits.toList) =
          [some s.healthCheckPort] := by
  have gauges := gauges_of_compile compiled
  obtain ⟨accepted, rfl⟩ := compile_lenient_eq_ok_iff.1 compiled
  have blocks := Model.length_endpointBlocks_document accepted
  refine ⟨_, _, gauges, Model.countP_listenerLead_document accepted,
    Model.countP_clusterLead_document accepted, ?_, (length_below _ _).symm.trans blocks, ?_, blocks, ?_⟩
  · obtain ⟨_, nodes⟩ := d
    obtain rfl := isService
    exact Model.size_ofDescription s nodes
  · obtain ⟨_, nodes⟩ := d
    obtain rfl := isService
    exact Model.endpointCount_ofDescription s nodes
  · rw [← healthCheckPort_of_service isService]
    exact fun block member => Model.checked_of_mem_endpointBlocks accepted member

/-- A family and a port that are repeated, a port that is not proxied, and nodes of which one has
both addresses, one has a single address and one has none. -/
def uneven : Description where
  service := some ⟨[⟨80, 30080, .tcp⟩, ⟨53, 30053, .udp⟩, ⟨80, 30081, .tcp⟩, ⟨9999, 31999, .sctp⟩],
    [.ipv4, .ipv6, .ipv4], 32000⟩
  nodes := [⟨"a", some "10.0.0.1", none⟩, ⟨"b", none, none⟩, ⟨"c", some "10.0.0.3", some "fd00::3"⟩]

theorem counts_agree_uneven :
    (uneven.compile false).run.value = .ok (Model.ofDescription uneven).value.document ∧
    (((linesOf (Model.ofDescription uneven).value.document).countP fun line =>
      (after? listenerLead line).isSome) = 4 ∧
    ((linesOf (Model.ofDescription uneven).value.document).countP fun line =>
      (field? endpointsLead line).isSome) = 6) ∧
    ∀ l : Ledger, (l.postAll (uneven.compile false).run.samples).entries = some 4 ∧
      (l.postAll (uneven.compile false).run.samples).endpoints = some 6 := by
  have accepted : ∀ b ∈ (Model.ofDescription uneven).value.entries, b.2.Accepted := by decide +kernel
  have compiled := compile_lenient_eq_ok_iff.2 ⟨accepted, rfl⟩
  obtain ⟨entries, endpoints, gauges, listeners, -, size, lines, count, -⟩ :=
    counts_agree uneven _ _ rfl compiled
  obtain rfl : entries = 4 := size
  obtain rfl : endpoints = 6 := count
  exact ⟨compiled, ⟨listeners, lines⟩, gauges⟩

end Description

end ServiceProxy
