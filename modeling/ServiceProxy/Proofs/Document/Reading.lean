import ServiceProxy.Proofs.Document.Acceptance
import ServiceProxy.Proofs.Text.LineReader

/-! A reader for the proxy's configuration document. Main statement: the reader gives back the
bindings a document was made of and the port its backends are checked on, whatever accepted
addresses the bindings hold. -/

set_option autoImplicit false

namespace ServiceProxy.Document

open Routing

open LineReader

def socket (pad : String) : LineReader Endpoint := do
  fixed [pad ++ "socket_address:"]
  let address ← field (pad ++ "  address: ") some
  let port ← field (pad ++ "  port_value: ") fun text => Decimal.readPort? text.toList
  let protocol ← field (pad ++ "  protocol: ") Protocol.ofName?
  return ⟨address, port, protocol⟩

def filterLines (name : String) : List String := (listenerLines name ⟨"", 0, .tcp⟩).drop 6

def opensListener (line : String) : Bool := (after? "  - name: listener_" line).isSome

def listenerBlock : LineReader (Key × Endpoint) := do
  let key ← field "  - name: listener_" Key.read?
  fixed ["    address:"]
  let listener ← socket "      "
  fixed (filterLines key.text)
  return (key, listener)

def opensBackend (line : String) : Bool := line == "        - lb_endpoints:"

def backendBlock : LineReader (Port × Endpoint) := do
  fixed ["        - lb_endpoints:", "          - endpoint:", "              health_check_config:"]
  let healthCheckPort ← field "                port_value: " fun text => Decimal.readPort? text.toList
  fixed ["              address:"]
  let backend ← socket "                "
  return (healthCheckPort, backend)

def opensCluster (line : String) : Bool := (after? "  - name: cluster_" line).isSome

def clusterBlock : LineReader (Key × List (Port × Endpoint)) := do
  let key ← field "  - name: cluster_" Key.read?
  fixed (clusterHeadLines key.text).tail
  let backends ← allBlocks opensBackend backendBlock
  return (key, backends)

def document : LineReader (List (Key × Endpoint) × List (Key × List (Port × Endpoint))) := do
  fixed (adminLines ++ ["static_resources:", "  listeners:"])
  let listeners ← allBlocks opensListener listenerBlock
  fixed ["", "  clusters:"]
  let clusters ← allBlocks opensCluster clusterBlock
  return (listeners, clusters)

/-- The bindings of a document in the order of the text, and the port that its backends are
checked on, if it has a backend. -/
def decode? (text : String) : Option (List (Key × Entry) × Option Port) := do
  let ((listeners, clusters), rest) ← document.run (linesOf text)
  let bindings := listeners.zipWith (fun l c => (l.1, ⟨l.2, c.2.map Prod.snd⟩)) clusters
  if rest.isEmpty then return (bindings, (clusters.flatMap Prod.snd).head?.map Prod.fst) else none

@[simp] theorem run_socket (pad : String) (e : Endpoint) (rest : List String) :
    (socket pad).run (socketLines pad e ++ rest) = some (e, rest) := by
  simp [socket, socketLines]

theorem run_listenerBlock (key : Key) (listener : Endpoint) (rest : List String) :
    listenerBlock.run (listenerLines key.text listener ++ rest) = some ((key, listener), rest) := by
  have lines : listenerLines key.text listener ++ rest =
      ("  - name: listener_" ++ key.text) :: "    address:" ::
        (socketLines "      " listener ++ (filterLines key.text ++ rest)) := rfl
  rw [lines]
  simp [listenerBlock]

theorem run_backendBlock (healthCheckPort : Port) (backend : Endpoint) (rest : List String) :
    backendBlock.run (backendLines healthCheckPort backend ++ rest) =
      some ((healthCheckPort, backend), rest) := by
  simp [backendBlock, backendLines]

theorem delimits_listener : Delimits opensListener listenerBlock
    (fun l : Key × Endpoint => listenerLines l.1.text l.2) fun _ => True where
  opening l := by simp [listenerLines, opensListener]
  reads l rest _ := run_listenerBlock l.1 l.2 rest
  next _ _ := trivial

theorem delimits_backend : Delimits opensBackend backendBlock
    (fun b : Port × Endpoint => backendLines b.1 b.2) fun _ => True where
  opening b := by simp [backendLines, opensBackend]
  reads b rest _ := run_backendBlock b.1 b.2 rest
  next _ _ := trivial

def writtenCluster (c : Key × List (Port × Endpoint)) : List String :=
  clusterHeadLines c.1.text ++ c.2.flatMap fun b => backendLines b.1 b.2

theorem not_opensBackend_cluster (name : String) : opensBackend ("  - name: cluster_" ++ name) = false := by
  refine beq_false_of_ne fun same => ?_
  -- The indentations differ.
  have chars := congrArg String.toList same
  simp [String.toList_append] at chars

theorem run_clusterBlock (c : Key × List (Port × Endpoint)) (rest : List String)
    (closed : rest.head?.any opensBackend = false) :
    clusterBlock.run (writtenCluster c ++ rest) = some (c, rest) := by
  have backends := delimits_backend.run_allBlocks trivial closed c.2
  have lines : writtenCluster c ++ rest =
      ("  - name: cluster_" ++ c.1.text) :: ((clusterHeadLines c.1.text).tail ++
        ((c.2.flatMap fun b => backendLines b.1 b.2) ++ rest)) := by
    rw [writtenCluster, List.append_assoc]
    rfl
  rw [lines]
  simp [clusterBlock, backends]

theorem delimits_cluster : Delimits opensCluster clusterBlock writtenCluster
    fun rest => rest.head?.any opensBackend = false where
  opening c := by simp [writtenCluster, clusterHeadLines, opensCluster]
  reads c rest closed := run_clusterBlock c rest closed
  next c rest := by simpa [writtenCluster, clusterHeadLines] using not_opensBackend_cluster c.1.text

def listenersOf (bindings : List (Key × Entry)) : List (Key × Endpoint) :=
  bindings.map fun b => (b.1, b.2.listener)

def clustersOf (healthCheckPort : Port) (bindings : List (Key × Entry)) :
    List (Key × List (Port × Endpoint)) :=
  bindings.map fun b => (b.1, b.2.cluster.map fun e => (healthCheckPort, e))

def bindingLines (healthCheckPort : Port) (bindings : List (Key × Entry)) : List String :=
  lines healthCheckPort (bindings.map fun b => (b.1.text, b.2))

theorem bindingLines_eq (healthCheckPort : Port) (bindings : List (Key × Entry)) :
    bindingLines healthCheckPort bindings =
      (adminLines ++ ["static_resources:", "  listeners:"]) ++
        ((listenersOf bindings).flatMap (fun l => listenerLines l.1.text l.2) ++
          "" :: "  clusters:" :: (clustersOf healthCheckPort bindings).flatMap writtenCluster) := by
  simp [bindingLines, lines, listenersOf, clustersOf, List.flatMap_map, writtenCluster, clusterLines]

theorem run_document (healthCheckPort : Port) (bindings : List (Key × Entry)) :
    document.run (bindingLines healthCheckPort bindings) =
      some ((listenersOf bindings, clustersOf healthCheckPort bindings), []) := by
  have ended : ([] : List String).head?.any opensCluster = false := rfl
  have clusters := delimits_cluster.run_allBlocks rfl ended (clustersOf healthCheckPort bindings)
  rw [List.append_nil] at clusters
  have closed : ("" :: "  clusters:" ::
      (clustersOf healthCheckPort bindings).flatMap writtenCluster).head?.any opensListener = false := rfl
  have listeners := delimits_listener.run_allBlocks trivial closed (listenersOf bindings)
  rw [bindingLines_eq, document]
  simp only [StateT.run_bind, run_fixed, Option.bind_eq_bind, Option.bind_some, listeners,
    run_fixed_cons, run_fixed_nil, clusters, StateT.run_pure, Option.pure_def]

theorem zip_listenersOf_clustersOf (healthCheckPort : Port) (bindings : List (Key × Entry)) :
    ((listenersOf bindings).zipWith (fun l c => (l.1, Entry.mk l.2 (c.2.map Prod.snd)))
      (clustersOf healthCheckPort bindings)) = bindings := by
  induction bindings with
  | nil => rfl
  | cons b rest ih =>
    simp only [listenersOf, clustersOf, List.map_cons, List.zipWith_cons_cons, List.map_map] at ih ⊢
    rw [ih]
    simp [Function.comp_def]

/-- The port that the backends of some bindings are checked on, if they have a backend. -/
def checkedPort? (healthCheckPort : Port) (bindings : List (Key × Entry)) : Option Port :=
  if ∀ b ∈ bindings, b.2.cluster = [] then none else some healthCheckPort

theorem head_clustersOf (healthCheckPort : Port) (bindings : List (Key × Entry)) :
    ((clustersOf healthCheckPort bindings).flatMap Prod.snd).head?.map Prod.fst =
      checkedPort? healthCheckPort bindings := by
  unfold checkedPort?
  induction bindings with
  | nil => rfl
  | cons b rest ih =>
    cases backends : b.2.cluster with
    | nil =>
      -- A cluster without backends shows no port, so the rest decides.
      have same : (∀ c ∈ b :: rest, c.2.cluster = []) ↔ ∀ c ∈ rest, c.2.cluster = [] := by
        rw [List.forall_mem_cons, backends, eq_self_iff_true, true_and]
      simp only [same, ← ih]
      simp [clustersOf, backends]
    | cons first others => simp [clustersOf, backends]

/-! ## Every line is one line -/

@[simp] theorem oneLine_port (p : Port) : OneLine (Decimal.port p) := by
  intro member
  have digit := Decimal.isDigit_of_mem_text member
  revert digit
  decide

@[simp] theorem oneLine_protocol (p : Protocol) : OneLine p.name := by
  cases p <;> decide

@[simp] theorem oneLine_key (k : Key) : OneLine k.text := by
  have family : OneLine k.family.name := by cases k.family <;> decide
  have underscore : OneLine "_" := by decide
  simp [Key.text, family, underscore]

theorem oneLine_socketLines {pad : String} (padding : OneLine pad) {e : Endpoint}
    (address : OneLine e.address) : ∀ l ∈ socketLines pad e, OneLine l := by
  simp only [socketLines, List.forall_mem_cons, oneLine_append, padding, address, oneLine_port,
    oneLine_protocol, true_and, and_true]
  decide

theorem oneLine_listenerLines (key : Key) {listener : Endpoint} (address : OneLine listener.address) :
    ∀ l ∈ listenerLines key.text listener, OneLine l := by
  have socket := oneLine_socketLines (by decide : OneLine "      ") address
  simp only [listenerLines, List.forall_mem_append, List.forall_mem_cons, oneLine_append, oneLine_key,
    and_true]
  exact ⟨⟨by decide, socket⟩, by decide +kernel⟩

theorem oneLine_backendLines (healthCheckPort : Port) {backend : Endpoint}
    (address : OneLine backend.address) : ∀ l ∈ backendLines healthCheckPort backend, OneLine l := by
  have socket := oneLine_socketLines (by decide : OneLine "                ") address
  simp only [backendLines, List.forall_mem_append, List.forall_mem_cons, oneLine_append, oneLine_port,
    and_true]
  exact ⟨by decide, socket⟩

theorem oneLine_clusterHeadLines (key : Key) : ∀ l ∈ clusterHeadLines key.text, OneLine l := by
  simp only [clusterHeadLines, List.forall_mem_cons, oneLine_append, oneLine_key, and_true]
  decide +kernel

theorem oneLine_writtenCluster (healthCheckPort : Port) {b : Key × Entry} (accepted : b.2.Accepted) :
    ∀ l ∈ writtenCluster (b.1, b.2.cluster.map fun e => (healthCheckPort, e)), OneLine l := by
  refine List.forall_mem_append.2 ⟨oneLine_clusterHeadLines b.1, fun line member => ?_⟩
  rw [List.flatMap_map, List.mem_flatMap] at member
  obtain ⟨backend, isBackend, isLine⟩ := member
  exact oneLine_backendLines healthCheckPort (oneLine_of_accepts (accepted.backend isBackend)) line isLine

theorem oneLine_bindingLines (healthCheckPort : Port) {bindings : List (Key × Entry)}
    (accepted : ∀ b ∈ bindings, b.2.Accepted) :
    ∀ l ∈ bindingLines healthCheckPort bindings, OneLine l := by
  have listeners : ∀ l ∈ (listenersOf bindings).flatMap fun l => listenerLines l.1.text l.2, OneLine l := by
    intro line member
    rw [listenersOf, List.flatMap_map, List.mem_flatMap] at member
    obtain ⟨b, isBinding, isLine⟩ := member
    exact oneLine_listenerLines b.1 (oneLine_of_accepts (accepted b isBinding).listener) line isLine
  have clusters : ∀ l ∈ (clustersOf healthCheckPort bindings).flatMap writtenCluster, OneLine l := by
    intro line member
    rw [clustersOf, List.flatMap_map, List.mem_flatMap] at member
    obtain ⟨b, isBinding, isLine⟩ := member
    exact oneLine_writtenCluster healthCheckPort (accepted b isBinding) line isLine
  rw [bindingLines_eq]
  refine List.forall_mem_append.2 ⟨by decide, List.forall_mem_append.2 ⟨listeners, ?_⟩⟩
  exact List.forall_mem_cons.2 ⟨by decide, List.forall_mem_cons.2 ⟨by decide, clusters⟩⟩

theorem decode?_unlines (healthCheckPort : Port) {bindings : List (Key × Entry)}
    (accepted : ∀ b ∈ bindings, b.2.Accepted) :
    decode? (unlines (bindingLines healthCheckPort bindings)) =
      some (bindings, checkedPort? healthCheckPort bindings) := by
  have read := run_document healthCheckPort bindings
  rw [decode?, linesOf_unlines (oneLine_bindingLines healthCheckPort accepted), read]
  simp [zip_listenersOf_clustersOf, head_clustersOf]

end ServiceProxy.Document
