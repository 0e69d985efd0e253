import ServiceProxy.Proofs.Routing.Building

/-! Collisions of routing keys. Validation goes through the bindings of a service with the keys
that it has seen, building with the keys that it has bound. Main statement: both meet the same
collisions in the same order, and a proxied binding that meets none adds an entry. -/

set_option autoImplicit false

namespace ServiceProxy

open Routing

def Event.overwritten? : Event → Option Key
  | .entryOverwritten key => some key
  | _ => none

def Problem.duplicate? : Problem → Option Key
  | .duplicateKey key _ => some key
  | _ => none

theorem Event.overwritten?_eq_some_iff {e : Event} {key : Key} :
    e.overwritten? = some key ↔ e = .entryOverwritten key := by
  cases e <;> simp [overwritten?]

theorem Problem.duplicate?_eq_some_iff {p : Problem} {key : Key} :
    p.duplicate? = some key ↔ ∃ index, p = .duplicateKey key index := by
  cases p <;> simp [duplicate?]

/-- The overwritten keys, in the order in which they were reported. -/
def Observed.overwrittenKeys {α : Type} (x : Observed α) : List Key :=
  x.events.filterMap Event.overwritten?

theorem Observed.overwrittenKeys_bind {α β : Type} (x : Observed α) (f : α → Observed β) :
    (x >>= f).overwrittenKeys = x.overwrittenKeys ++ (f x.value).overwrittenKeys := by
  simp only [overwrittenKeys, events, seen_bind, List.filterMap_append]

namespace Service

def duplicateKeys (problems : List Problem) : List Key := problems.filterMap Problem.duplicate?

theorem duplicateKeys_zeroPorts (index : Nat) (port : ServicePort) :
    duplicateKeys (zeroPorts index port) = [] := by
  unfold zeroPorts
  split <;> split <;> rfl

theorem duplicateKeys_problems (s : Service) :
    duplicateKeys s.problems = duplicateKeys (repeatedKeys [] s.bindings) := by
  have families : duplicateKeys s.familyProblems = [] := by
    unfold familyProblems
    split <;> rfl
  have ports : duplicateKeys s.portProblems = [] := by
    rw [duplicateKeys, portProblems, List.filterMap_flatMap, List.flatMap_eq_nil_iff]
    exact fun indexed _ => duplicateKeys_zeroPorts indexed.2 indexed.1
  unfold duplicateKeys at families ports ⊢
  rw [problems, List.filterMap_append, List.filterMap_append, families, ports]
  rfl

theorem countP_bindings (s : Service) :
    s.bindings.countP (fun b => b.2.2.protocol.proxyable) =
      s.families.length * s.ports.countP fun port => port.protocol.proxyable := by
  have one (family : Family) :
      (s.ports.zipIdx.map fun p => (family, p.2, p.1)).countP (fun b => b.2.2.protocol.proxyable) =
        s.ports.countP fun port => port.protocol.proxyable := by
    rw [List.countP_map]
    conv => rhs; rw [← List.zipIdx_map_fst 0 s.ports, List.countP_map]
    rfl
  rw [bindings, List.countP_flatMap]
  calc
    _ = (s.families.map fun _ => s.ports.countP fun port => port.protocol.proxyable).sum :=
      congrArg List.sum (List.map_congr_left fun family _ => one family)
    _ = _ := by rw [List.map_const', List.sum_replicate_nat]

end Service

namespace Routing

theorem overwrittenKeys_backends (family : Family) (port : ServicePort) (nodes : List Host) :
    (backends family port nodes).overwrittenKeys = [] := by
  induction nodes with
  | nil => rfl
  | cons node rest ih =>
    have first : (backend? family port node).overwrittenKeys = [] := by
      unfold backend?
      cases node.address? family <;> rfl
    unfold backends
    rw [Observed.overwrittenKeys_bind, Observed.overwrittenKeys_bind, first, ih]
    rfl

namespace Model

theorem size_insert (m : Model) (key : Key) (entry : Entry) :
    (m.insert key entry).size = if (m.find? key).isSome then m.size else m.size + 1 := by
  have keys := congrArg List.length (map_fst_assign key entry m.entries)
  rw [List.length_map] at keys
  rw [size, insert, keys]
  simp only [mem_keys_iff]
  split
  · rw [List.length_map, size]
  · rw [List.length_append, List.length_map, List.length_singleton, size]

/-- The keys that the model binds are those in a list. -/
def Binds (m : Model) (keys : List Key) : Prop := ∀ key, key ∈ keys ↔ (m.find? key).isSome

theorem Binds.insert {m : Model} {keys : List Key} (same : m.Binds keys) (key : Key) (entry : Entry) :
    (m.insert key entry).Binds (key :: keys) := by
  intro other
  rw [find?_insert, List.mem_cons, same other]
  by_cases this : other = key <;> simp [this]

theorem Binds.insert_bound {m : Model} {keys : List Key} (same : m.Binds keys) {key : Key}
    (bound : key ∈ keys) (entry : Entry) : (m.insert key entry).Binds keys := by
  intro other
  rw [← same.insert key entry other, List.mem_cons]
  exact ⟨.inr, fun h => h.elim (fun this => this ▸ bound) id⟩

theorem overwrittenKeys_addBinding (nodes : List Host) (m : Model) (family : Family)
    (port : ServicePort) :
    (m.addBinding nodes family port).overwrittenKeys =
      if port.protocol.proxyable ∧ (m.find? (port.key family)).isSome then [port.key family] else [] := by
  unfold addBinding
  cases port.protocol.proxyable with
  | false => rfl
  | true =>
    rw [if_pos rfl, Observed.overwrittenKeys_bind, overwrittenKeys_backends]
    cases (m.find? (port.key family)).isSome <;> rfl

theorem addBinding_cases (nodes : List Host) {m : Model} {keys : List Key} (same : m.Binds keys)
    (family : Family) (port : ServicePort) :
    let key := port.key family
    let added := m.addBinding nodes family port
    (port.protocol.proxyable = false ∧ added.overwrittenKeys = [] ∧ added.value = m) ∨
    (port.protocol.proxyable = true ∧ key ∈ keys ∧ added.overwrittenKeys = [key] ∧
      added.value.size = m.size ∧ added.value.Binds keys) ∨
    (port.protocol.proxyable = true ∧ key ∉ keys ∧ added.overwrittenKeys = [] ∧
      added.value.size = m.size + 1 ∧ added.value.Binds (key :: keys)) := by
  intro key added
  have value : added.value =
      if port.protocol.proxyable then m.insert key (entryFor nodes family port) else m :=
    value_addBinding nodes m family port
  have reported : added.overwrittenKeys =
      if port.protocol.proxyable ∧ (m.find? key).isSome then [key] else [] :=
    overwrittenKeys_addBinding nodes m family port
  cases proxied : port.protocol.proxyable with
  | false =>
    rw [proxied] at value reported
    exact .inl ⟨rfl, reported, value⟩
  | true =>
    rw [proxied, if_pos rfl] at value
    have grown := size_insert m key (entryFor nodes family port)
    by_cases known : key ∈ keys
    · have bound := (same key).1 known
      rw [if_pos ⟨proxied, bound⟩] at reported
      rw [if_pos bound] at grown
      exact .inr (.inl ⟨rfl, known, reported, value ▸ grown, value ▸ same.insert_bound known _⟩)
    · have unbound : ¬(m.find? key).isSome := fun bound => known ((same key).2 bound)
      rw [if_neg fun h => unbound h.2] at reported
      rw [if_neg unbound] at grown
      exact .inr (.inr ⟨rfl, known, reported, value ▸ grown, value ▸ same.insert key _⟩)

def addBindings (nodes : List Host) (m : Model) (bindings : List (Family × Nat × ServicePort)) :
    Observed Model :=
  bindings.foldlM (fun m (family, _, port) => m.addBinding nodes family port) m

theorem addBindings_cons (nodes : List Host) (m : Model) (family : Family) (index : Nat)
    (port : ServicePort) (rest : List (Family × Nat × ServicePort)) :
    m.addBindings nodes ((family, index, port) :: rest) =
      m.addBinding nodes family port >>= fun next => next.addBindings nodes rest := rfl

/-- Validation and building go through the bindings in step. -/
theorem collisions_addBindings (nodes : List Host) (bindings : List (Family × Nat × ServicePort))
    (m : Model) (seen : List Key) (same : m.Binds seen) :
    (m.addBindings nodes bindings).overwrittenKeys =
        Service.duplicateKeys (Service.repeatedKeys seen bindings) ∧
      (m.addBindings nodes bindings).overwrittenKeys.length +
          (m.addBindings nodes bindings).value.size =
        m.size + bindings.countP fun b => b.2.2.protocol.proxyable := by
  -- The invariant: the keys that validation has seen are the keys that the model binds.
  induction bindings generalizing m seen with
  | nil => exact ⟨rfl, Nat.zero_add _⟩
  | cons binding rest ih =>
    obtain ⟨family, index, port⟩ := binding
    rw [addBindings_cons, Observed.overwrittenKeys_bind, Observed.value_bind, List.length_append,
      List.countP_cons]
    unfold Service.repeatedKeys
    obtain ⟨skipped, reported, value⟩ | ⟨proxied, known, reported, size, binds⟩ |
      ⟨proxied, new, reported, size, binds⟩ := addBinding_cases nodes same family port
    · obtain ⟨keys, count⟩ := ih m seen same
      simp only [skipped, reported, value, Bool.false_eq_true, if_false, List.nil_append,
        List.length_nil]
      exact ⟨keys, by omega⟩
    · obtain ⟨keys, count⟩ := ih _ seen binds
      simp only [proxied, known, reported, if_true, List.singleton_append, List.length_singleton]
      exact ⟨congrArg (port.key family :: ·) keys, by omega⟩
    · obtain ⟨keys, count⟩ := ih _ (port.key family :: seen) binds
      simp only [proxied, new, reported, if_true, if_false, List.nil_append, List.length_nil]
      exact ⟨keys, by omega⟩

theorem collisions_ofDescription (s : Service) (nodes : List Host) :
    (ofDescription ⟨some s, nodes⟩).overwrittenKeys = Service.duplicateKeys s.problems ∧
      (ofDescription ⟨some s, nodes⟩).overwrittenKeys.length + (ofDescription ⟨some s, nodes⟩).value.size =
        s.families.length * s.ports.countP fun port => port.protocol.proxyable := by
  have nothing : (empty s.healthCheckPort).Binds [] := fun key => by simp [find?, empty]
  obtain ⟨keys, count⟩ := collisions_addBindings nodes s.bindings _ [] nothing
  rw [← Service.duplicateKeys_problems] at keys
  rw [Service.countP_bindings] at count
  exact ⟨keys, count.trans (Nat.zero_add _)⟩

end Model

/-- Validation reports a repeated key wherever building overwrites an entry, in the same order.
Every proxied port in every family, repetitions included, either collides or has an entry of
its own. -/
theorem collisions_agree (s : Service) (nodes : List Host) :
    s.problems.filterMap Problem.duplicate? =
        (Model.ofDescription ⟨some s, nodes⟩).events.filterMap Event.overwritten? ∧
      (s.problems.filterMap Problem.duplicate?).length +
          (Model.ofDescription ⟨some s, nodes⟩).value.size =
        s.families.length * (s.ports.countP fun port => port.protocol = .tcp ∨ port.protocol = .udp) ∧
      ((∀ key index, .duplicateKey key index ∉ s.problems) ↔
        ∀ key, .entryOverwritten key ∉ (Model.ofDescription ⟨some s, nodes⟩).events) := by
  obtain ⟨keys, count⟩ := Model.collisions_ofDescription s nodes
  rw [keys] at count
  simp only [← proxyable_iff, Bool.decide_eq_true]
  refine ⟨keys.symm, count, ?_⟩
  have reported : ∀ key, (∃ problem ∈ s.problems, ∃ index, problem = .duplicateKey key index) ↔
      .entryOverwritten key ∈ (Model.ofDescription ⟨some s, nodes⟩).events := by
    intro key
    have member := congrArg (key ∈ ·) keys.symm
    simpa only [Service.duplicateKeys, Observed.overwrittenKeys, List.mem_filterMap,
      Problem.duplicate?_eq_some_iff, Event.overwritten?_eq_some_iff, exists_eq_right] using member.to_iff
  constructor
  · intro none key overwritten
    obtain ⟨_, member, index, rfl⟩ := (reported key).2 overwritten
    exact none key index member
  · intro none key index member
    exact none key ((reported key).1 ⟨_, member, index, rfl⟩)

end Routing

end ServiceProxy
