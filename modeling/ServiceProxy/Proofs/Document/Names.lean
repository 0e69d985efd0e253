import Mathlib.Data.List.Nodup
import ServiceProxy.Proofs.Document.AddressLines
import ServiceProxy.Proofs.Routing.Enumeration

/-! The names in a document. Listeners and clusters are told from the text by their first lines
and by the indentation of what is below. Main statement: both are named by the keys of the model
in ascending order, and they refer to each other one by one, whatever the addresses hold. -/

set_option autoImplicit false

namespace ServiceProxy.Document

open Routing

/-! ## Items of an indented text -/

/-- An item of a list: what its first line holds after a lead, and the lines that belong to it. -/
structure Item where
  name : String
  body : List String
  deriving DecidableEq, Repr

def isDeeper (line : String) : Bool := (after? "    " line).isSome

/-- Every line with a lead opens an item, which goes on for as long as the lines are deeper. -/
def items (lead : String) : List String → List Item
  | [] => []
  | line :: rest =>
    match after? lead line with
    | some name => ⟨name, rest.takeWhile isDeeper⟩ :: items lead rest
    | none => items lead rest

theorem map_name_items (lead : String) (ls : List String) :
    (items lead ls).map Item.name = ls.filterMap (after? lead) := by
  induction ls with
  | nil => rfl
  | cons line rest ih =>
    rw [items, List.filterMap_cons]
    cases after? lead line with
    | some name => exact congrArg (name :: ·) ih
    | none => exact ih

theorem items_append_of_none {lead : String} {ls : List String} (plain : ∀ l ∈ ls, after? lead l = none)
    (rest : List String) : items lead (ls ++ rest) = items lead rest := by
  induction ls with
  | nil => rfl
  | cons line others ih =>
    rw [List.forall_mem_cons] at plain
    rw [List.cons_append, items, plain.1]
    exact ih plain.2

theorem items_eq_nil {lead : String} {ls : List String} (plain : ∀ l ∈ ls, after? lead l = none) :
    items lead ls = [] := by
  rw [← List.append_nil ls, items_append_of_none plain, items]

theorem after?_eq_some_iff {lead line rest : String} : after? lead line = some rest ↔ line = lead ++ rest := by
  unfold after?
  rw [Option.map_eq_some_iff]
  constructor
  · rintro ⟨chars, found, rfl⟩
    rw [List.isPrefixOf?_eq_some_iff_append_eq] at found
    rw [← String.toList_inj, String.toList_append, String.toList_ofList, found]
  · rintro rfl
    exact ⟨rest.toList, by rw [String.toList_append, isPrefixOf?_append], String.ofList_toList⟩

theorem isDeeper_append {known : String} (deeper : isDeeper known = true) (rest : String) :
    isDeeper (known ++ rest) = true := by
  obtain ⟨inner, found⟩ := Option.isSome_iff_exists.1 deeper
  rw [after?_eq_some_iff.1 found, String.append_assoc, isDeeper, after?_append, Option.isSome_some]

def isItemLead (lead : String) : Bool := clash lead "    " && clash "    " lead

theorem after?_of_isDeeper {lead line : String} (outer : isItemLead lead = true)
    (deeper : isDeeper line = true) : after? lead line = none := by
  obtain ⟨inner, found⟩ := Option.isSome_iff_exists.1 deeper
  rw [after?_eq_some_iff.1 found]
  exact after?_eq_none (Bool.and_eq_true_iff.1 outer).1 inner

theorem not_isDeeper_append {lead : String} (outer : isItemLead lead = true) (name : String) :
    isDeeper (lead ++ name) = false := by
  rw [isDeeper, after?_eq_none (Bool.and_eq_true_iff.1 outer).2, Option.isSome_none]

/-- Blocks that are an item each, under a lead of items. -/
structure Itemizes {α : Type} (lead : String) (block : α → List String) (item : α → Item) : Prop where
  outer : isItemLead lead = true
  written (x : α) : block x = (lead ++ (item x).name) :: (item x).body
  deeper (x : α) : ∀ l ∈ (item x).body, isDeeper l = true

section

variable {α : Type} {lead : String} {block : α → List String} {item : α → Item}

theorem Itemizes.ended (itemizes : Itemizes lead block item) {rest : List String}
    (closed : rest.takeWhile isDeeper = []) (xs : List α) :
    (xs.flatMap block ++ rest).takeWhile isDeeper = [] := by
  cases xs with
  | nil => exact closed
  | cons x others =>
    have opening := not_isDeeper_append itemizes.outer (item x).name
    rw [List.flatMap_cons, itemizes.written, List.cons_append, List.cons_append,
      List.takeWhile_cons_of_neg (Bool.eq_false_iff.1 opening)]

theorem Itemizes.items_append (itemizes : Itemizes lead block item) {rest : List String}
    (closed : rest.takeWhile isDeeper = []) (xs : List α) :
    items lead (xs.flatMap block ++ rest) = xs.map item ++ items lead rest := by
  induction xs with
  | nil => rfl
  | cons x others ih =>
    -- The body of an item opens no other: leads stand further out than its lines.
    have body : ∀ l ∈ (item x).body, after? lead l = none := fun l member =>
      after?_of_isDeeper itemizes.outer (itemizes.deeper x l member)
    rw [List.flatMap_cons, List.append_assoc, itemizes.written, List.cons_append, items, after?_append,
      List.takeWhile_append_of_pos (itemizes.deeper x), itemizes.ended closed, List.append_nil,
      items_append_of_none body, ih]
    rfl

theorem Itemizes.after?_eq_none (itemizes : Itemizes lead block item) {other : String}
    (outer : isItemLead other = true) (differ : clash other lead = true) (xs : List α) :
    ∀ l ∈ xs.flatMap block, after? other l = none := by
  intro l member
  obtain ⟨x, -, isLine⟩ := List.mem_flatMap.1 member
  rw [itemizes.written, List.mem_cons] at isLine
  rcases isLine with rfl | inner
  · exact Document.after?_eq_none differ (item x).name
  · exact after?_of_isDeeper outer (itemizes.deeper x l inner)

end

def unindented (line : String) : String := String.ofList (line.toList.dropWhile (· = ' '))

def field? (lead line : String) : Option String := after? lead (unindented line)

theorem unindented_append {known : String} (filled : unindented known ≠ "") (rest : String) :
    unindented (known ++ rest) = unindented known ++ rest := by
  have left : ¬(known.toList.dropWhile (· = ' ')).isEmpty = true := by
    rw [List.isEmpty_iff]
    exact fun empty => filled (by rw [unindented, empty])
  rw [unindented, String.toList_append, List.dropWhile_append, if_neg left, String.ofList_append,
    String.ofList_toList, unindented]

theorem field?_append {lead known : String} (same : unindented known = lead) (filled : lead ≠ "")
    (rest : String) : field? lead (known ++ rest) = some rest := by
  rw [field?, unindented_append (same ▸ filled), same, after?_append]

theorem field?_eq_none {lead known : String} (differ : clash lead (unindented known) = true)
    (rest : String) : field? lead (known ++ rest) = none := by
  have filled : unindented known ≠ "" := by
    intro empty
    rw [empty, clash] at differ
    simp at differ
  rw [field?, unindented_append filled, after?_eq_none differ]

/-- Nothing is read behind a lead that clashes with all stems behind their indentation. -/
theorem silent_field? {lead : String} {stems : List String}
    (differ : ∀ stem ∈ stems,
      ((lead.toList.zip (stem.toList.dropWhile (· = ' '))).any fun p => p.1 != p.2) = true) :
    Silent (field? lead) stems := by
  intro stem member
  refine field?_eq_none ?_
  rw [clash, unindented, String.toList_ofList]
  exact differ stem member

/-! ## Items of a document -/

def listenerLead : String := "  - name: listener_"

def clusterLead : String := "  - name: cluster_"

def listeners (text : String) : List Item := items listenerLead (linesOf text)

def clusters (text : String) : List Item := items clusterLead (linesOf text)

def Item.targets (item : Item) : List String := item.body.filterMap (field? "cluster: cluster_")

def Item.assigned (item : Item) : List String := item.body.filterMap (field? "cluster_name: cluster_")

def listenerItem (l : Key × Endpoint) : Item := ⟨l.1.text, (listenerLines l.1.text l.2).tail⟩

def clusterItem (c : Key × List (Port × Endpoint)) : Item := ⟨c.1.text, (writtenCluster c).tail⟩

theorem isDeeper_socketLines {pad : String} (padding : isDeeper pad = true) (e : Endpoint) :
    ∀ l ∈ socketLines pad e, isDeeper l = true := by
  have field (name value : String) : isDeeper (pad ++ name ++ value) = true :=
    isDeeper_append (isDeeper_append padding name) value
  simp only [socketLines, List.forall_mem_cons, isDeeper_append padding, field, true_and]
  exact List.forall_mem_nil _

theorem isDeeper_listenerItem (l : Key × Endpoint) : ∀ line ∈ (listenerItem l).body, isDeeper line = true := by
  have socket := isDeeper_socketLines (by decide : isDeeper "      " = true) l.2
  have fixed : ∀ line ∈ (filterLines "").dropLast, isDeeper line = true := by decide +kernel
  have target : isDeeper ("            cluster: cluster_" ++ l.1.text) = true :=
    isDeeper_append (by decide) l.1.text
  refine List.forall_mem_cons.2 ⟨by decide, List.forall_mem_append.2 ⟨socket, ?_⟩⟩
  exact List.forall_mem_append.2 ⟨fixed, List.forall_mem_singleton.2 target⟩

theorem isDeeper_backendLines (healthCheckPort : Port) (e : Endpoint) :
    ∀ line ∈ backendLines healthCheckPort e, isDeeper line = true := by
  have socket := isDeeper_socketLines (by decide : isDeeper "                " = true) e
  have checked : isDeeper ("                port_value: " ++ Decimal.port healthCheckPort) = true :=
    isDeeper_append (by decide) _
  refine List.forall_mem_append.2 ⟨?_, socket⟩
  simp only [List.forall_mem_cons, checked]
  decide

theorem isDeeper_clusterItem (c : Key × List (Port × Endpoint)) :
    ∀ line ∈ (clusterItem c).body, isDeeper line = true := by
  have assigned : isDeeper ("      cluster_name: cluster_" ++ c.1.text) = true :=
    isDeeper_append (by decide) _
  have head : ∀ line ∈ (clusterHeadLines c.1.text).tail, isDeeper line = true := by
    simp only [clusterHeadLines, List.tail_cons, List.forall_mem_cons, assigned]
    decide +kernel
  refine List.forall_mem_append.2 ⟨head, fun line member => ?_⟩
  obtain ⟨b, -, isLine⟩ := List.mem_flatMap.1 member
  exact isDeeper_backendLines b.1 b.2 line isLine

theorem field?_socketLines {lead pad : String}
    (head : field? lead (pad ++ "socket_address:") = none)
    (others : ∀ part ∈ ["  address: ", "  port_value: ", "  protocol: "],
      clash lead (unindented (pad ++ part)) = true) (e : Endpoint) :
    (socketLines pad e).filterMap (field? lead) = [] := by
  rw [List.filterMap_eq_nil_iff]
  simp only [List.forall_mem_cons] at others
  obtain ⟨address, port, protocol, -⟩ := others
  simp only [socketLines, List.forall_mem_cons, head, field?_eq_none address, field?_eq_none port,
    field?_eq_none protocol, true_and]
  exact List.forall_mem_nil _

theorem targets_listenerItem (l : Key × Endpoint) : (listenerItem l).targets = [l.1.text] := by
  have silent : Silent (field? "cluster: cluster_") listenerStems := silent_field? (by decide +kernel)
  have socket : (socketLines "      " l.2).filterMap (field? "cluster: cluster_") = [] :=
    field?_socketLines (by decide) (by decide) l.2
  have target : field? "cluster: cluster_" ("            cluster: cluster_" ++ l.1.text) = some l.1.text :=
    field?_append (by decide) (by decide) l.1.text
  have block : listenerLines l.1.text l.2 = ("  - name: listener_" ++ l.1.text) :: (listenerItem l).body := rfl
  have targets := filterMap_listenerLines_of_silent silent l.1.text l.2
  rwa [socket, target, block, List.filterMap_cons_none ((silent_cons.1 silent).1 l.1.text)] at targets

theorem assigned_backendLines (healthCheckPort : Port) (e : Endpoint) :
    (backendLines healthCheckPort e).filterMap (field? "cluster_name: cluster_") = [] := by
  have silent : Silent (field? "cluster_name: cluster_") backendStems := silent_field? (by decide)
  have socket : (socketLines "                " e).filterMap (field? "cluster_name: cluster_") = [] :=
    field?_socketLines (by decide) (by decide) e
  have checked : field? "cluster_name: cluster_"
      ("                port_value: " ++ Decimal.port healthCheckPort) = none :=
    field?_eq_none (by decide) _
  rw [filterMap_backendLines_of_silent silent, socket, checked]
  rfl

theorem assigned_clusterItem (c : Key × List (Port × Endpoint)) : (clusterItem c).assigned = [c.1.text] := by
  have silent : Silent (field? "cluster_name: cluster_") clusterStems := silent_field? (by decide +kernel)
  have assigned : field? "cluster_name: cluster_" ("      cluster_name: cluster_" ++ c.1.text) =
      some c.1.text := field?_append (by decide) (by decide) c.1.text
  have block : writtenCluster c = ("  - name: cluster_" ++ c.1.text) :: (clusterItem c).body := rfl
  have backends : (c.2.flatMap fun b => backendLines b.1 b.2).filterMap (field? "cluster_name: cluster_") = [] := by
    rw [List.filterMap_flatMap, List.flatMap_eq_nil_iff]
    exact fun b _ => assigned_backendLines b.1 b.2
  have head := filterMap_clusterHeadLines_of_silent silent c.1.text
  rw [Item.assigned, ← List.filterMap_cons_none ((silent_cons.1 silent).1 c.1.text), ← block, writtenCluster,
    List.filterMap_append, head, backends, assigned]
  rfl

theorem itemizes_listeners :
    Itemizes listenerLead (fun l : Key × Endpoint => listenerLines l.1.text l.2) listenerItem where
  outer := by decide
  written _ := rfl
  deeper := isDeeper_listenerItem

theorem itemizes_clusters : Itemizes clusterLead writtenCluster clusterItem where
  outer := by decide
  written _ := rfl
  deeper := isDeeper_clusterItem

theorem items_listeners (healthCheckPort : Port) (bindings : List (Key × Entry)) :
    items listenerLead (bindingLines healthCheckPort bindings) =
      (listenersOf bindings).map listenerItem := by
  have before : ∀ l ∈ adminLines ++ ["static_resources:", "  listeners:"], after? listenerLead l = none := by
    decide +kernel
  have behind : ∀ l ∈ "" :: "  clusters:" :: (clustersOf healthCheckPort bindings).flatMap writtenCluster,
      after? listenerLead l = none := by
    have clusters := itemizes_clusters.after?_eq_none (by decide : isItemLead listenerLead = true)
      (by decide) (clustersOf healthCheckPort bindings)
    exact List.forall_mem_cons.2 ⟨by decide, List.forall_mem_cons.2 ⟨by decide, clusters⟩⟩
  have closed : ∀ ls, ("" :: ls).takeWhile isDeeper = [] := fun ls =>
    List.takeWhile_cons_of_neg (by decide)
  rw [bindingLines_eq, items_append_of_none before, itemizes_listeners.items_append (closed _),
    items_eq_nil behind, List.append_nil]

theorem items_clusters (healthCheckPort : Port) (bindings : List (Key × Entry)) :
    items clusterLead (bindingLines healthCheckPort bindings) =
      (clustersOf healthCheckPort bindings).map clusterItem := by
  have before : ∀ l ∈ adminLines ++ ["static_resources:", "  listeners:"], after? clusterLead l = none := by
    decide +kernel
  have listeners := itemizes_listeners.after?_eq_none (by decide : isItemLead clusterLead = true)
    (by decide) (listenersOf bindings)
  have between : after? clusterLead "" = none ∧ after? clusterLead "  clusters:" = none := by decide
  have closed : ([] : List String).takeWhile isDeeper = [] := rfl
  have clusters := itemizes_clusters.items_append closed (clustersOf healthCheckPort bindings)
  rw [List.append_nil] at clusters
  rw [bindingLines_eq, items_append_of_none before, items_append_of_none listeners, items, between.1,
    items, between.2, clusters]
  exact List.append_nil _

def listenerNames (text : String) : List String := (linesOf text).filterMap (after? listenerLead)

def clusterNames (text : String) : List String := (linesOf text).filterMap (after? clusterLead)

theorem map_name_listeners (text : String) : (listeners text).map Item.name = listenerNames text :=
  map_name_items listenerLead (linesOf text)

theorem map_name_clusters (text : String) : (clusters text).map Item.name = clusterNames text :=
  map_name_items clusterLead (linesOf text)

end ServiceProxy.Document

namespace ServiceProxy.Routing.Model

open Document Text

theorem listeners_document {m : Model} (accepted : ∀ b ∈ m.entries, b.2.Accepted) :
    listeners m.document = (listenersOf m.sorted).map listenerItem := by
  rw [listeners, linesOf_document accepted, items_listeners]

theorem clusters_document {m : Model} (accepted : ∀ b ∈ m.entries, b.2.Accepted) :
    clusters m.document = (clustersOf m.healthCheckPort m.sorted).map clusterItem := by
  rw [clusters, linesOf_document accepted, items_clusters]

def keyTexts (m : Model) : List String := m.sorted.map fun b => b.1.text

theorem perm_keyTexts (m : Model) : m.keyTexts.Perm (m.entries.map fun b => b.1.text) := m.perm_sorted.map _

theorem nodup_keyTexts (m : Model) : m.keyTexts.Nodup := m.perm_keyTexts.nodup_iff.2 m.distinct_texts

theorem countP_keyTexts {m : Model} {key : String} (member : key ∈ m.keyTexts) :
    m.keyTexts.countP (fun name => name = key) = 1 := by
  rw [← List.count_eq_one_of_mem m.nodup_keyTexts member, List.count]
  exact List.countP_congr fun name _ => by simp

theorem keyTexts_ascending (m : Model) : m.keyTexts.Pairwise fun a b => bytes a < bytes b := by
  have ascending := m.sortedEntries_ascending
  rw [sortedEntries_eq, List.pairwise_map] at ascending
  exact List.pairwise_map.2 ascending

section

variable {m : Model} (accepted : ∀ b ∈ m.entries, b.2.Accepted)

include accepted

theorem targets_document :
    (listeners m.document).map (fun l => (l.name, l.targets)) = m.keyTexts.map fun key => (key, [key]) := by
  simp only [listeners_document accepted, listenersOf, List.map_map, Function.comp_def,
    targets_listenerItem, keyTexts]
  rfl

theorem assigned_document :
    (clusters m.document).map (fun c => (c.name, c.assigned)) = m.keyTexts.map fun key => (key, [key]) := by
  simp only [clusters_document accepted, clustersOf, List.map_map, Function.comp_def,
    assigned_clusterItem, keyTexts]
  rfl

theorem listenerNames_document : listenerNames m.document = m.keyTexts := by
  have names := congrArg (List.map Prod.fst) (targets_document accepted)
  rw [List.map_map, List.map_map] at names
  exact (map_name_listeners m.document).symm.trans (names.trans (List.map_id _))

theorem clusterNames_document : clusterNames m.document = m.keyTexts := by
  have names := congrArg (List.map Prod.fst) (assigned_document accepted)
  rw [List.map_map, List.map_map] at names
  exact (map_name_clusters m.document).symm.trans (names.trans (List.map_id _))

theorem countP_clusters_document {key : String} (member : key ∈ m.keyTexts) :
    (clusters m.document).countP (fun c => c.name = key) = 1 := by
  calc
    _ = ((clusters m.document).map Item.name).countP (fun name => name = key) := List.countP_map.symm
    _ = m.keyTexts.countP (fun name => name = key) := by
      rw [map_name_clusters, clusterNames_document accepted]
    _ = 1 := countP_keyTexts member

theorem countP_listeners_document {key : String} (member : key ∈ m.keyTexts) :
    (listeners m.document).countP (fun l => key ∈ l.targets) = 1 := by
  calc
    _ = ((listeners m.document).map fun l => (l.name, l.targets)).countP (fun p => key ∈ p.2) :=
      List.countP_map.symm
    -- A listener has one target, which is its own name.
    _ = m.keyTexts.countP (fun name => key ∈ [name]) := by
      rw [targets_document accepted, List.countP_map]
      rfl
    _ = m.keyTexts.countP (fun name => name = key) := by
      simp only [List.mem_singleton, eq_comm]
    _ = 1 := countP_keyTexts member

end

/-- Listeners and clusters are named by the keys of the model, in ascending byte order. Every
listener refers to the one cluster of its own name, and no other listener refers to that. -/
theorem links_of_render {m : Model} {text : String} (rendered : m.render.run.value = .ok text) :
    ((listenerNames text).Perm (m.entries.map fun b => b.1.text) ∧
      (listenerNames text).Pairwise fun a b => bytes a < bytes b) ∧
    clusterNames text = listenerNames text ∧
    (listeners text).map (fun l => (l.name, l.targets)) = (listenerNames text).map (fun key => (key, [key])) ∧
    (clusters text).map (fun c => (c.name, c.assigned)) = (listenerNames text).map (fun key => (key, [key])) ∧
    (∀ l ∈ listeners text, ∃ target, l.targets = [target] ∧
      (clusters text).countP (fun c => c.name = target) = 1) ∧
    ∀ c ∈ clusters text, (listeners text).countP (fun l => c.name ∈ l.targets) = 1 := by
  obtain ⟨accepted, rfl⟩ := render_eq_ok_iff.1 rendered
  rw [listenerNames_document accepted, clusterNames_document accepted]
  refine ⟨⟨m.perm_keyTexts, m.keyTexts_ascending⟩, rfl, targets_document accepted,
    assigned_document accepted, fun l member => ?_, fun c member => ?_⟩
  · rw [listeners_document accepted] at member
    obtain ⟨⟨key, listener⟩, isListener, rfl⟩ := List.mem_map.1 member
    obtain ⟨b, isBinding, same⟩ := List.mem_map.1 isListener
    have named : key.text ∈ m.keyTexts := List.mem_map.2 ⟨b, isBinding, congrArg (fun l => l.1.text) same⟩
    exact ⟨key.text, targets_listenerItem _, countP_clusters_document accepted named⟩
  · refine countP_listeners_document accepted ?_
    rw [← clusterNames_document accepted, ← map_name_clusters]
    exact List.mem_map_of_mem member

/-- Addresses that look like names and references, in a model that is not in order. -/
def imitating : Model where
  healthCheckPort := 32000
  entries :=
    [(⟨.ipv4, 80, .tcp⟩, ⟨⟨"name:listener_IPv4_8080_TCP", 80, .tcp⟩, []⟩),
     (⟨.ipv4, 8080, .tcp⟩, ⟨⟨"0.0.0.0", 8080, .tcp⟩, [⟨"cluster:cluster_IPv4_80_TCP", 30080, .tcp⟩]⟩)]
  distinct := by decide

theorem links_of_render_imitating :
    imitating.render.run.value = .ok imitating.document ∧
    (listenerNames imitating.document).Perm ["IPv4_80_TCP", "IPv4_8080_TCP"] ∧
    clusterNames imitating.document = listenerNames imitating.document ∧
    (∀ l ∈ listeners imitating.document, ∃ target, l.targets = [target] ∧
      (clusters imitating.document).countP (fun c => c.name = target) = 1) ∧
    ∀ c ∈ clusters imitating.document,
      (listeners imitating.document).countP (fun l => c.name ∈ l.targets) = 1 := by
  have rendered : imitating.render.run.value = .ok imitating.document :=
    render_eq_ok_iff.2 ⟨by decide +kernel, rfl⟩
  obtain ⟨⟨perm, -⟩, names, -, -, targets, clusters⟩ := links_of_render rendered
  have keys : (imitating.entries.map fun b => b.1.text) = ["IPv4_80_TCP", "IPv4_8080_TCP"] := by
    decide +kernel
  exact ⟨rendered, keys ▸ perm, names, targets, clusters⟩

end ServiceProxy.Routing.Model
