import Mathlib.Data.List.FinRange
import ServiceProxy.Ordered
import ServiceProxy.Proofs.Routing.Building
import ServiceProxy.Description.Problem

/-! What validation reports. Validation goes through families and ports with the keys that it has
seen. Main statement: it reports missing families, every zero port and every place whose key an
earlier place has, each of them once, in a fixed order, and nothing else. -/

set_option autoImplicit false

namespace ServiceProxy

def ServicePort.inField (p : ServicePort) : PortField → Port
  | .listenPort => p.listen
  | .targetPort => p.target

namespace Service

variable {s : Service}

structure Place (s : Service) where
  family : Fin s.families.length
  index : Fin s.ports.length

namespace Place

def port (p : s.Place) : ServicePort := s.ports[p.index]

def key (p : s.Place) : Routing.Key := p.port.key s.families[p.family]

/-- Families come first. -/
def Before (p q : s.Place) : Prop := p.family < q.family ∨ p.family = q.family ∧ p.index < q.index

/-- A proxied port at a place whose family, number and protocol an earlier place has as well. -/
def Repeats (p : s.Place) : Prop :=
  (p.port.protocol = .tcp ∨ p.port.protocol = .udp) ∧
    ∃ q : s.Place, q.Before p ∧ s.families[q.family] = s.families[p.family] ∧
      q.port.listen = p.port.listen ∧ q.port.protocol = p.port.protocol

def binding (p : s.Place) : Family × Nat × ServicePort := (s.families[p.family], p.index, p.port)

def report (p : s.Place) : Problem := .duplicateKey p.key p.index

theorem Before.asymm {p q : s.Place} (before : p.Before q) : ¬q.Before p := by
  intro after
  simp only [Before, Fin.lt_def, Fin.ext_iff] at before after
  omega

theorem key_eq_iff {p q : s.Place} : q.key = p.key ↔ s.families[q.family] = s.families[p.family] ∧
    q.port.listen = p.port.listen ∧ q.port.protocol = p.port.protocol := by
  rw [key, key, ServicePort.key, ServicePort.key, Routing.Key.mk.injEq]

end Place

def places (s : Service) : List s.Place :=
  (List.finRange s.families.length).flatMap fun family =>
    (List.finRange s.ports.length).map fun index => ⟨family, index⟩

theorem mem_places (p : s.Place) : p ∈ s.places :=
  List.mem_flatMap.2 ⟨p.family, List.mem_finRange _, List.mem_map.2 ⟨p.index, List.mem_finRange _, rfl⟩⟩

theorem places_ordered (s : Service) : s.places.Pairwise Place.Before := by
  refine List.pairwise_flatMap.2 ⟨fun family _ => ?_, ?_⟩
  · rw [List.pairwise_map]
    exact (List.pairwise_lt_finRange _).imp fun before => .inr ⟨rfl, before⟩
  · refine (List.pairwise_lt_finRange _).imp fun {a b} before p first q second => .inl ?_
    obtain ⟨_, -, rfl⟩ := List.mem_map.1 first
    obtain ⟨_, -, rfl⟩ := List.mem_map.1 second
    exact before

theorem zipIdx_ports (s : Service) :
    s.ports.zipIdx = (List.finRange s.ports.length).map fun index => (s.ports[index], index.val) :=
  List.ext_getElem (by simp) (by simp)

theorem bindings_eq_places (s : Service) : s.bindings = s.places.map Place.binding := by
  have families := List.map_getElem_finRange s.families
  rw [bindings, zipIdx_ports, places, List.map_flatMap]
  conv => lhs; rw [← families, List.flatMap_map]
  simp only [List.map_map]
  rfl

/-! ## Repeated keys -/

/-- The keys that validation has seen when it has passed some places. -/
def Seen (seen : List Routing.Key) (passed : List s.Place) : Prop :=
  ∀ key, key ∈ seen ↔ ∃ q ∈ passed, q.port.protocol.proxyable ∧ q.key = key

theorem Seen.skip {seen : List Routing.Key} {passed : List s.Place} (known : Seen seen passed)
    {p : s.Place} (unproxied : p.port.protocol.proxyable = false) : Seen seen (passed ++ [p]) := by
  intro key
  rw [known key]
  simp [unproxied]

theorem Seen.repeated {seen : List Routing.Key} {passed : List s.Place} (known : Seen seen passed)
    {p : s.Place} (again : p.key ∈ seen) : Seen seen (passed ++ [p]) := by
  intro key
  constructor
  · intro member
    obtain ⟨q, earlier, proxied, same⟩ := (known key).1 member
    exact ⟨q, List.mem_append_left _ earlier, proxied, same⟩
  · rintro ⟨q, member, proxied, rfl⟩
    rcases List.mem_append.1 member with earlier | last
    · exact (known q.key).2 ⟨q, earlier, proxied, rfl⟩
    · exact List.mem_singleton.1 last ▸ again

theorem Seen.add {seen : List Routing.Key} {passed : List s.Place} (known : Seen seen passed)
    {p : s.Place} (proxied : p.port.protocol.proxyable = true) : Seen (p.key :: seen) (passed ++ [p]) := by
  intro key
  rw [List.mem_cons, known key]
  constructor
  · rintro (rfl | ⟨q, earlier, isProxied, rfl⟩)
    · exact ⟨p, List.mem_append_right _ List.mem_cons_self, proxied, rfl⟩
    · exact ⟨q, List.mem_append_left _ earlier, isProxied, rfl⟩
  · rintro ⟨q, member, isProxied, rfl⟩
    rcases List.mem_append.1 member with earlier | last
    · exact .inr ⟨q, earlier, isProxied, rfl⟩
    · exact .inl (congrArg Place.key (List.mem_singleton.1 last))

theorem repeats_iff {seen : List Routing.Key} {passed rest : List s.Place} {p : s.Place}
    (ordered : (passed ++ p :: rest).Pairwise Place.Before) (complete : ∀ q, q ∈ passed ++ p :: rest)
    (known : Seen seen passed) : p.Repeats ↔ p.port.protocol.proxyable = true ∧ p.key ∈ seen := by
  rw [Place.Repeats, ← Routing.proxyable_iff, known]
  refine and_congr_right fun proxied => exists_congr fun q => ?_
  rw [mem_earlier_iff Place.Before.asymm ordered (complete q), Place.key_eq_iff]
  refine and_congr_right fun _ => ⟨fun same => ⟨?_, same⟩, And.right⟩
  -- The earlier place has the same protocol, so validation did not pass over it.
  rw [same.2.2]
  exact proxied

open Classical in
theorem repeatedKeys_binding {seen : List Routing.Key} {passed rest : List s.Place}
    (ordered : (passed ++ rest).Pairwise Place.Before) (complete : ∀ q, q ∈ passed ++ rest)
    (known : Seen seen passed) :
    repeatedKeys seen (rest.map Place.binding) = (rest.filter fun p => p.Repeats).map Place.report := by
  -- The places that are left shrink while those passed grow, and what was seen keeps to the latter.
  induction rest generalizing seen passed with
  | nil => rfl
  | cons p rest ih =>
    have repeats := repeats_iff ordered complete known
    have split : passed ++ p :: rest = passed ++ [p] ++ rest := List.append_cons passed p rest
    rw [split] at ordered complete
    rw [List.map_cons, Place.binding, repeatedKeys, List.filter_cons]
    cases proxied : p.port.protocol.proxyable with
    | false =>
      have single : ¬p.Repeats := fun again => Bool.false_ne_true (proxied.symm.trans (repeats.1 again).1)
      simp only [single, Bool.false_eq_true, decide_false, if_false]
      exact ih ordered complete (known.skip proxied)
    | true =>
      by_cases again : p.key ∈ seen
      · have repeated : p.Repeats := repeats.2 ⟨proxied, again⟩
        have later := ih ordered complete (known.repeated again)
        simp only [repeated, decide_true, if_true, List.map_cons]
        exact (if_pos again).trans (congrArg (p.report :: ·) later)
      · have single : ¬p.Repeats := fun repeated => again (repeats.1 repeated).2
        have later := ih ordered complete (known.add proxied)
        simp only [single, if_true, decide_false, Bool.false_eq_true, if_false]
        exact (if_neg again).trans later

open Classical in
theorem repeatedKeys_bindings (s : Service) :
    repeatedKeys [] s.bindings = (s.places.filter fun p => p.Repeats).map Place.report := by
  have nothing : Seen [] ([] : List s.Place) := fun key => by simp
  have complete : ∀ p, p ∈ [] ++ s.places := mem_places
  rw [bindings_eq_places]
  exact repeatedKeys_binding s.places_ordered complete nothing

theorem mem_filter_repeats [DecidablePred (Place.Repeats (s := s))] {p : s.Place} :
    p ∈ s.places.filter (fun p => p.Repeats) ↔ p.Repeats := by
  rw [List.mem_filter, decide_eq_true_iff, and_iff_right (mem_places p)]

/-! ## Zero ports -/

def zeroFields (s : Service) : List (Fin s.ports.length × PortField) :=
  (List.finRange s.ports.length).flatMap fun index =>
    ([.listenPort, .targetPort].filter fun field => s.ports[index].inField field = 0).map (index, ·)

theorem mem_zeroFields {index : Fin s.ports.length} {field : PortField} :
    (index, field) ∈ s.zeroFields ↔ s.ports[index].inField field = 0 := by
  cases field <;> simp [zeroFields, List.mem_flatMap]

theorem zeroFields_eq_nil_iff : s.zeroFields = [] ↔ ∀ port ∈ s.ports, port.listen ≠ 0 ∧ port.target ≠ 0 := by
  rw [List.eq_nil_iff_forall_not_mem]
  constructor
  · intro none port member
    obtain ⟨index, bound, rfl⟩ := List.getElem_of_mem member
    exact ⟨fun zero => none (⟨index, bound⟩, .listenPort) (mem_zeroFields.2 zero),
      fun zero => none (⟨index, bound⟩, .targetPort) (mem_zeroFields.2 zero)⟩
  · rintro nonzero ⟨index, field⟩ member
    have zero := mem_zeroFields.1 member
    have checked := nonzero s.ports[index] (List.getElem_mem index.isLt)
    cases field with
    | listenPort => exact checked.1 zero
    | targetPort => exact checked.2 zero

def FieldBefore (a b : Fin s.ports.length × PortField) : Prop :=
  a.1 < b.1 ∨ a.1 = b.1 ∧ a.2 = .listenPort ∧ b.2 = .targetPort

theorem zeroFields_ordered (s : Service) : s.zeroFields.Pairwise FieldBefore := by
  refine List.pairwise_flatMap.2 ⟨fun index _ => ?_, ?_⟩
  · have both : [PortField.listenPort, .targetPort].Pairwise fun a b => a = .listenPort ∧ b = .targetPort := by
      simp
    rw [List.pairwise_map]
    exact (both.filter _).imp fun before => .inr ⟨rfl, before⟩
  · refine (List.pairwise_lt_finRange _).imp fun {a b} before p first q second => .inl ?_
    obtain ⟨_, -, rfl⟩ := List.mem_map.1 first
    obtain ⟨_, -, rfl⟩ := List.mem_map.1 second
    exact before

theorem zeroPorts_eq (index : Nat) (port : ServicePort) :
    zeroPorts index port =
      ([.listenPort, .targetPort].filter fun field => port.inField field = 0).map (.zeroPort · index) := by
  unfold zeroPorts
  by_cases listen : port.listen = 0 <;> by_cases target : port.target = 0 <;>
    simp [ServicePort.inField, listen, target]

theorem portProblems_eq (s : Service) : s.portProblems = s.zeroFields.map fun z => .zeroPort z.2 z.1 := by
  rw [portProblems, zipIdx_ports, List.flatMap_map, zeroFields, List.map_flatMap]
  congr 1
  funext index
  rw [List.map_map]
  exact zeroPorts_eq index s.ports[index]

/-! ## All problems -/

open Classical in
theorem problems_eq (s : Service) :
    s.problems = (if s.ports ≠ [] ∧ s.families = [] then [.noFamilies] else []) ++
      (s.zeroFields.map fun z => .zeroPort z.2 z.1) ++
      (s.places.filter fun p => p.Repeats).map Place.report := by
  have families : s.familyProblems = if s.ports ≠ [] ∧ s.families = [] then [.noFamilies] else [] := by
    simp [familyProblems]
  rw [problems, families, portProblems_eq, repeatedKeys_bindings]

/-- Validation reports the missing families of a service with ports, the fields of its ports that
hold zero and the places that repeat an earlier one, in this order, and nothing else. So it
reports nothing exactly when there are none of these. -/
theorem problems_exact (s : Service) :
    ∃ (zeros : List (Fin s.ports.length × PortField)) (repeated : List s.Place),
      s.problems = (if s.ports ≠ [] ∧ s.families = [] then [.noFamilies] else []) ++
        (zeros.map fun z => .zeroPort z.2 z.1) ++
        repeated.map (fun p => .duplicateKey ⟨s.families[p.family], p.port.listen, p.port.protocol⟩ p.index) ∧
      zeros.Pairwise FieldBefore ∧ (∀ index field, (index, field) ∈ zeros ↔ s.ports[index].inField field = 0) ∧
      repeated.Pairwise Place.Before ∧ (∀ p, p ∈ repeated ↔ p.Repeats) ∧
      (s.problems = [] ↔ ¬(s.ports ≠ [] ∧ s.families = []) ∧
        (∀ port ∈ s.ports, port.listen ≠ 0 ∧ port.target ≠ 0) ∧ ∀ p : s.Place, ¬p.Repeats) := by
  classical
  refine ⟨s.zeroFields, s.places.filter fun p => p.Repeats, s.problems_eq, s.zeroFields_ordered,
    fun _ _ => mem_zeroFields, s.places_ordered.filter _, fun _ => mem_filter_repeats, ?_⟩
  have single : (s.places.filter fun p => p.Repeats) = [] ↔ ∀ p : s.Place, ¬p.Repeats := by
    rw [List.eq_nil_iff_forall_not_mem]
    exact forall_congr' fun p => not_congr mem_filter_repeats
  rw [problems_eq, List.append_eq_nil_iff, List.append_eq_nil_iff, List.map_eq_nil_iff, List.map_eq_nil_iff,
    zeroFields_eq_nil_iff, single, and_assoc, ite_eq_right_iff]
  simp only [List.cons_ne_nil, imp_false]

/-- A family listed twice and a port declared twice, beside one that is not proxied. -/
example : (Service.mk [⟨80, 1, .tcp⟩, ⟨80, 2, .tcp⟩, ⟨0, 3, .sctp⟩] [.ipv4, .ipv4] 0).problems =
    [.zeroPort .listenPort 2, .duplicateKey ⟨.ipv4, 80, .tcp⟩ 1, .duplicateKey ⟨.ipv4, 80, .tcp⟩ 0,
      .duplicateKey ⟨.ipv4, 80, .tcp⟩ 1] := by
  decide

end Service

end ServiceProxy
