import ServiceProxy.Proofs.Routing.Collisions
import ServiceProxy.Proofs.Routing.Enumeration

/-! What is stored in a model. Entries are stored under keys and looked up by key texts. Main
statement: after any steps a text leads to what was stored last under the key that it names, and
all else that is read from the model follows from these look-ups. -/

set_option autoImplicit false

namespace ServiceProxy.Routing

open Text

inductive Step where
  | insert (key : Key) (entry : Entry)
  | health (port : Port)
  | build (d : Description)

def storedBy (d : Description) : List (Key × Entry) :=
  match d.service with
  | none => []
  | some s => s.bindings.filterMap fun (family, _, port) =>
    if port.protocol.proxyable then some (port.key family, entryFor d.nodes family port) else none

/-- What is stored after a step. Building starts anew. -/
def Step.log (stored : List (Key × Entry)) : Step → List (Key × Entry)
  | .insert key entry => stored ++ [(key, entry)]
  | .health _ => stored
  | .build d => storedBy d

/-- What some steps have stored since a model was built, that building included, the latest last. -/
def stored (steps : List Step) : List (Key × Entry) := steps.foldl Step.log []

namespace Model

/-- A step, and whether it put an entry in the place of another. -/
def perform (m : Model) : Step → Bool × Model
  | .insert key entry => ((m.find? key).isSome, m.insert key entry)
  | .health port => (false, { m with healthCheckPort := port })
  | .build d => (false, (ofDescription d).value)

/-- A proxied binding is a step, and it is reported if it puts its entry in the place of another. -/
theorem addBinding_eq_perform (nodes : List Host) (m : Model) (family : Family) {port : ServicePort}
    (proxied : port.protocol.proxyable = true) :
    let step := Step.insert (port.key family) (entryFor nodes family port)
    (m.addBinding nodes family port).value = (m.perform step).2 ∧
      (m.addBinding nodes family port).overwrittenKeys =
        if (m.perform step).1 then [port.key family] else [] := by
  constructor
  · rw [value_addBinding, if_pos proxied]
    rfl
  · by_cases bound : (m.find? (port.key family)).isSome
    · simp [overwrittenKeys_addBinding, perform, proxied, bound]
    · simp [overwrittenKeys_addBinding, perform, bound]

def after (steps : List Step) : Model := steps.foldl (fun m step => (m.perform step).2) (empty 0)

/-- A key leads to what was stored last under it. -/
def Records (m : Model) (stored : List (Key × Entry)) : Prop :=
  ∀ key, m.find? key = stored.reverse.lookup key

theorem Records.insert {m : Model} {stored : List (Key × Entry)} (records : m.Records stored)
    (key : Key) (entry : Entry) : (m.insert key entry).Records (stored ++ [(key, entry)]) := by
  intro other
  rw [find?_insert, records, List.reverse_concat, List.lookup_cons]
  by_cases same : other = key
  · simp [same]
  · simp [same, beq_false_of_ne same]

theorem Records.insertAll {m : Model} {stored : List (Key × Entry)} (records : m.Records stored)
    (more : List (Key × Entry)) :
    (more.foldl (fun m b => m.insert b.1 b.2) m).Records (stored ++ more) := by
  induction more generalizing m stored with
  | nil => rwa [List.append_nil]
  | cons b rest ih =>
    have next := ih (records.insert b.1 b.2)
    rwa [List.append_assoc] at next

theorem records_empty (port : Port) : (empty port).Records [] := fun _ => rfl

theorem value_ofDescription_eq_ofHistory (s : Service) (nodes : List Host) :
    (ofDescription ⟨some s, nodes⟩).value =
      ofHistory s.healthCheckPort (storedBy ⟨some s, nodes⟩) := by
  unfold ofDescription ofHistory storedBy
  rw [value_foldlM, List.foldl_filterMap]
  congr
  funext m binding
  obtain ⟨family, _, port⟩ := binding
  rw [value_addBinding]
  cases proxied : port.protocol.proxyable <;> simp [proxied]

theorem records_ofDescription (d : Description) : (ofDescription d).value.Records (storedBy d) := by
  obtain ⟨_ | s, nodes⟩ := d
  · exact records_empty 0
  · rw [value_ofDescription_eq_ofHistory]
    exact (records_empty s.healthCheckPort).insertAll _

theorem Records.step {m : Model} {stored : List (Key × Entry)} (records : m.Records stored)
    (step : Step) : (m.perform step).2.Records (step.log stored) := by
  cases step with
  | insert key entry => exact records.insert key entry
  | health port => exact records
  | build d => exact records_ofDescription d

theorem Records.follow {m : Model} {stored : List (Key × Entry)} (records : m.Records stored)
    (steps : List Step) :
    (steps.foldl (fun m step => (m.perform step).2) m).Records (steps.foldl Step.log stored) := by
  induction steps generalizing m stored with
  | nil => exact records
  | cons step rest ih => exact ih (records.step step)

theorem records_after (steps : List Step) : (after steps).Records (stored steps) :=
  (records_empty 0).follow steps

/-! ## Readings -/

theorem get?_text (m : Model) (key : Key) : m.get? key.text = m.find? key := by
  refine Option.ext fun entry => Model.get?_eq_some_iff.trans ⟨?_, fun found => ⟨key, rfl, found⟩⟩
  rintro ⟨other, same, found⟩
  rwa [← Key.text_injective same]

theorem Records.get?_eq_some_iff {m : Model} {stored : List (Key × Entry)} (records : m.Records stored)
    {text : String} {entry : Entry} :
    m.get? text = some entry ↔ ∃ earlier key later, stored = earlier ++ (key, entry) :: later ∧
      key.text = text ∧ (∀ other : Key, other.text = text → other = key) ∧
      ∀ b ∈ later, b.1.text ≠ text := by
  rw [Model.get?_eq_some_iff]
  constructor
  · rintro ⟨key, rfl, found⟩
    rw [records, List.lookup_eq_some_iff] at found
    obtain ⟨later, earlier, split, others⟩ := found
    refine ⟨earlier.reverse, key, later.reverse, ?_, rfl, fun _ => Key.text_injective, ?_⟩
    · rw [← List.reverse_reverse stored, split]
      simp
    · intro b member same
      have different := others b (List.mem_reverse.1 member)
      exact bne_iff_ne.1 different (Key.text_injective same).symm
  · rintro ⟨earlier, key, later, rfl, rfl, -, others⟩
    refine ⟨key, rfl, ?_⟩
    -- Look-ups search from the latest store on, so what comes later must not have the key.
    rw [records, List.lookup_eq_some_iff]
    refine ⟨later.reverse, earlier.reverse, by simp, fun b member => bne_iff_ne.2 fun same => ?_⟩
    exact others b (List.mem_reverse.1 member) (same ▸ rfl)

theorem Records.get?_eq_none_iff {m : Model} {stored : List (Key × Entry)} (records : m.Records stored)
    {text : String} : m.get? text = none ↔ ∀ b ∈ stored, b.1.text ≠ text := by
  constructor
  · rintro absent ⟨key, _⟩ member rfl
    rw [get?_text, records, List.lookup_eq_none_iff] at absent
    exact bne_iff_ne.1 (absent _ (List.mem_reverse.2 member)) rfl
  · intro others
    refine Option.eq_none_iff_forall_ne_some.2 fun entry found => ?_
    obtain ⟨earlier, key, later, rfl, named, -⟩ := records.get?_eq_some_iff.1 found
    exact others _ (List.mem_append_right _ List.mem_cons_self) named

theorem mem_sortedEntries_iff {m : Model} {text : String} {entry : Entry} :
    (text, entry) ∈ m.sortedEntries ↔ m.get? text = some entry := by
  rw [m.perm_sortedEntries.mem_iff, List.mem_map, Model.get?_eq_some_iff]
  constructor
  · rintro ⟨⟨key, _⟩, member, same⟩
    obtain ⟨rfl, rfl⟩ := Prod.mk.inj same
    exact ⟨key, rfl, mem_entries_iff.1 member⟩
  · rintro ⟨key, rfl, found⟩
    exact ⟨(key, entry), mem_entries_iff.2 found, rfl⟩

def labels (m : Model) : List String := m.sortedEntries.map Prod.fst

theorem mem_labels_iff {m : Model} {text : String} : text ∈ m.labels ↔ m.get? text ≠ none := by
  rw [labels, List.mem_map, Option.ne_none_iff_exists']
  constructor
  · rintro ⟨⟨_, entry⟩, member, rfl⟩
    exact ⟨entry, mem_sortedEntries_iff.1 member⟩
  · rintro ⟨entry, found⟩
    exact ⟨(text, entry), mem_sortedEntries_iff.2 found, rfl⟩

theorem isEmpty_iff (m : Model) : m.isEmpty = true ↔ m.labels = [] := by
  have sizes := m.perm_sortedEntries.length_eq
  rw [List.length_map] at sizes
  rw [isEmpty, labels, List.isEmpty_iff, List.map_eq_nil_iff, ← List.length_eq_zero_iff,
    ← List.length_eq_zero_iff, sizes]

def hostsBehind (m : Model) (text : String) : Nat :=
  (m.get? text).elim 0 fun entry => entry.cluster.length

theorem endpointCount_eq_sum (m : Model) :
    m.endpointCount = (m.labels.map m.hostsBehind).foldr (· + ·) 0 := by
  have counted : m.labels.map m.hostsBehind = m.sortedEntries.map fun b => b.2.cluster.length := by
    rw [labels, List.map_map]
    refine List.map_congr_left fun b member => ?_
    rw [Function.comp_apply, hostsBehind, mem_sortedEntries_iff.1 member, Option.elim_some]
  have perm : (m.sortedEntries.map fun b => b.2.cluster.length).Perm
      (m.entries.map fun b => b.2.cluster.length) := by
    have shuffled := m.perm_sortedEntries.map fun b => b.2.cluster.length
    rwa [List.map_map] at shuffled
  rw [counted, perm.foldr_eq' fun a _ b _ total => Nat.add_left_comm b a total, List.foldr_map,
    endpointCount]

/-- After any steps a model is a map from texts: each text leads to what was stored last under
the one key that has it, and its other readings are those of this map. -/
theorem readings_after (steps : List Step) :
    (∀ text entry, (after steps).get? text = some entry ↔
      ∃ earlier key later, stored steps = earlier ++ (key, entry) :: later ∧ key.text = text ∧
        (∀ other : Key, other.text = text → other = key) ∧ ∀ b ∈ later, b.1.text ≠ text) ∧
    (∀ text, (after steps).get? text = none ↔ ∀ b ∈ stored steps, b.1.text ≠ text) ∧
    (∀ key entry, ((after steps).perform (.insert key entry)).1 = true ↔
      (after steps).get? key.text ≠ none) ∧
    (after steps).labels.Pairwise (fun a b => bytes a < bytes b) ∧
    (∀ text, text ∈ (after steps).labels ↔ (after steps).get? text ≠ none) ∧
    (after steps).endpointCount =
      ((after steps).labels.map (after steps).hostsBehind).foldr (· + ·) 0 ∧
    ((after steps).isEmpty = true ↔ (after steps).labels = []) ∧
    ∀ port, ((after steps).perform (.health port)).2.healthCheckPort = port ∧
      ((after steps).perform (.health port)).2.entries = (after steps).entries := by
  have records := records_after steps
  refine ⟨fun _ _ => records.get?_eq_some_iff, fun _ => records.get?_eq_none_iff, fun key _ => ?_,
    List.pairwise_map.2 (sortedEntries_ascending _), fun _ => mem_labels_iff, endpointCount_eq_sum _,
    isEmpty_iff _, fun _ => ⟨rfl, rfl⟩⟩
  rw [get?_text]
  exact Option.isSome_iff_ne_none

end Model

end ServiceProxy.Routing
