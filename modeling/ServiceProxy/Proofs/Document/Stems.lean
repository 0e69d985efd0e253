import ServiceProxy.Proofs.Document.Reading

/-! The stems of a document's lines. Every line of a block starts with a text that does not depend
on what the block holds, so what can be read from the block is settled by a few of its lines once
the others are known to hold nothing. -/

set_option autoImplicit false

namespace ServiceProxy.Document

open Routing

variable {α : Type} {read : String → Option α}

/-- From a line with one of the stems nothing is read, whatever follows. -/
def Silent (read : String → Option α) (stems : List String) : Prop :=
  ∀ stem ∈ stems, ∀ rest, read (stem ++ rest) = none

theorem Silent.filterMap {ls : List String} (silent : Silent read ls) : ls.filterMap read = [] := by
  refine List.filterMap_eq_nil_iff.2 fun line member => ?_
  have none := silent line member ""
  rwa [String.append_empty] at none

theorem silent_cons {stem : String} {stems : List String} :
    Silent read (stem :: stems) ↔ (∀ rest, read (stem ++ rest) = none) ∧ Silent read stems :=
  List.forall_mem_cons

/-- The stems of a listener block, those of its socket address and of its reference apart. -/
def listenerStems : List String := "  - name: listener_" :: "    address:" :: (filterLines "").dropLast

def backendStems : List String :=
  ["        - lb_endpoints:", "          - endpoint:", "              health_check_config:",
    "              address:"]

def clusterStems : List String :=
  "  - name: cluster_" :: "      endpoints:" :: (clusterHeadLines "").tail.take 13

theorem filterMap_listenerLines_of_silent (silent : Silent read listenerStems) (name : String) (e : Endpoint) :
    (listenerLines name e).filterMap read =
      (socketLines "      " e).filterMap read ++ (read ("            cluster: cluster_" ++ name)).toList := by
  obtain ⟨named, others⟩ := silent_cons.1 silent
  obtain ⟨opened, fixed⟩ := silent_cons.1 others
  have opened := opened ""
  rw [String.append_empty] at opened
  have lines : listenerLines name e = ("  - name: listener_" ++ name) :: "    address:" ::
      (socketLines "      " e ++ ((filterLines "").dropLast ++ ["            cluster: cluster_" ++ name])) := rfl
  rw [lines, List.filterMap_cons_none (named name), List.filterMap_cons_none opened, List.filterMap_append,
    List.filterMap_append, fixed.filterMap, List.nil_append, List.filterMap_cons, List.filterMap_nil]
  cases read ("            cluster: cluster_" ++ name) <;> rfl

theorem filterMap_backendLines_of_silent (silent : Silent read backendStems) (healthCheckPort : Port)
    (e : Endpoint) :
    (backendLines healthCheckPort e).filterMap read =
      (read ("                port_value: " ++ Decimal.port healthCheckPort)).toList ++
        (socketLines "                " e).filterMap read := by
  have nothing := silent.filterMap
  rw [List.filterMap_eq_nil_iff] at nothing
  simp only [backendStems, List.forall_mem_cons] at nothing
  obtain ⟨first, endpoint, config, address, -⟩ := nothing
  rw [backendLines, List.filterMap_append, List.filterMap_cons_none first, List.filterMap_cons_none endpoint,
    List.filterMap_cons_none config, List.filterMap_cons, List.filterMap_cons_none address, List.filterMap_nil]
  cases read ("                port_value: " ++ Decimal.port healthCheckPort) <;> rfl

theorem filterMap_clusterHeadLines_of_silent (silent : Silent read clusterStems) (name : String) :
    (clusterHeadLines name).filterMap read = (read ("      cluster_name: cluster_" ++ name)).toList := by
  obtain ⟨named, others⟩ := silent_cons.1 silent
  obtain ⟨last, fixed⟩ := silent_cons.1 others
  have last := last ""
  rw [String.append_empty] at last
  have lines : clusterHeadLines name = ("  - name: cluster_" ++ name) ::
      ((clusterHeadLines "").tail.take 13 ++
        ("      cluster_name: cluster_" ++ name) :: ["      endpoints:"]) := rfl
  rw [lines, List.filterMap_cons_none (named name), List.filterMap_append, fixed.filterMap, List.nil_append,
    List.filterMap_cons, List.filterMap_cons_none last, List.filterMap_nil]
  cases read ("      cluster_name: cluster_" ++ name) <;> rfl

/-- A document is read block by block. -/
theorem filterMap_bindingLines_of_silent
    (before : (adminLines ++ ["static_resources:", "  listeners:"]).filterMap read = [])
    (between : ["", "  clusters:"].filterMap read = []) (healthCheckPort : Port) (bindings : List (Key × Entry)) :
    (bindingLines healthCheckPort bindings).filterMap read =
      (bindings.flatMap fun b => (listenerLines b.1.text b.2.listener).filterMap read) ++
        bindings.flatMap fun b => (clusterHeadLines b.1.text).filterMap read ++
          b.2.cluster.flatMap fun e => (backendLines healthCheckPort e).filterMap read := by
  have lines : bindingLines healthCheckPort bindings = (adminLines ++ ["static_resources:", "  listeners:"]) ++
      ((listenersOf bindings).flatMap (fun l => listenerLines l.1.text l.2) ++ (["", "  clusters:"] ++
        (clustersOf healthCheckPort bindings).flatMap writtenCluster)) := bindingLines_eq healthCheckPort bindings
  rw [lines, List.filterMap_append, before, List.nil_append, List.filterMap_append, List.filterMap_append,
    between, List.nil_append]
  simp only [List.filterMap_flatMap, listenersOf, clustersOf, writtenCluster, List.flatMap_map,
    List.filterMap_append]

end ServiceProxy.Document
