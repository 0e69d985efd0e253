import ServiceProxy.Document.Render
import ServiceProxy.Proofs.Routing.Sorting
import ServiceProxy.Proofs.Text.ByteOrder

/-! The order in which a model enumerates its entries. Main statement: nothing that is read from
a model depends on it, whether it comes from the enumeration itself or from the order in which
the entries were inserted. -/

set_option autoImplicit false

namespace ServiceProxy.Routing

open Text

namespace Model

theorem perm_sortedEntries (m : Model) :
    m.sortedEntries.Perm (m.entries.map fun b => (b.1.text, b.2)) := by
  rw [sortedEntries_eq]
  exact m.perm_sorted.map _

/-- Key texts ascend byte by byte, as they do character by character. -/
theorem sortedEntries_ascending (m : Model) :
    m.sortedEntries.Pairwise fun a b => bytes a.1 < bytes b.1 := by
  rw [sortedEntries_eq, List.pairwise_map]
  exact m.sorted_ascending.imp bytes_lt_of_lt

theorem get?_eq_some_iff {m : Model} {text : String} {entry : Entry} :
    m.get? text = some entry ↔ ∃ key, key.text = text ∧ m.find? key = some entry := by
  unfold get?
  rw [Option.map_eq_some_iff]
  constructor
  · rintro ⟨⟨key, found⟩, first, rfl⟩
    have named := List.find?_some first
    exact ⟨key, of_decide_eq_true named, mem_entries_iff.1 (List.mem_of_find?_eq_some first)⟩
  · rintro ⟨key, rfl, found⟩
    -- Another key with this text would be the same key, so the first one found is this one.
    have member := mem_entries_iff.2 found
    have some : (m.entries.find? fun b => b.1.text = key.text).isSome :=
      List.find?_isSome.2 ⟨_, member, decide_eq_true rfl⟩
    obtain ⟨⟨other, first⟩, isFirst⟩ := Option.isSome_iff_exists.1 some
    have named := List.find?_some isFirst
    obtain rfl : other = key := Key.text_injective (of_decide_eq_true named)
    have held := mem_entries_iff.1 (List.mem_of_find?_eq_some isFirst)
    rw [found] at held
    exact ⟨_, isFirst, (Option.some.inj held).symm⟩

structure ReadsAs (m n : Model) : Prop where
  sortedEntries : m.sortedEntries = n.sortedEntries
  get? : ∀ text, m.get? text = n.get? text
  size : m.size = n.size
  endpointCount : m.endpointCount = n.endpointCount
  render : m.render = n.render

theorem readsAs_of_perm {m n : Model} (port : m.healthCheckPort = n.healthCheckPort)
    (perm : m.entries.Perm n.entries) : m.ReadsAs n := by
  have sorted : m.sortedEntries = n.sortedEntries := by
    rw [sortedEntries_eq, sortedEntries_eq, sorted_eq_of_perm perm]
  have sizes : m.size = n.size := perm.length_eq
  constructor
  case sortedEntries => exact sorted
  case get? =>
    intro text
    refine Option.ext fun entry => ?_
    rw [get?_eq_some_iff, get?_eq_some_iff]
    simp only [find?_of_perm perm]
  case size => exact sizes
  case endpointCount =>
    exact perm.foldr_eq' (fun a _ b _ total =>
      Nat.add_left_comm b.2.cluster.length a.2.cluster.length total) 0
  case render => simp only [render, offender?, document, sorted, port, sizes]

def ofHistory (healthCheckPort : Port) (history : List (Key × Entry)) : Model :=
  history.foldl (fun m b => m.insert b.1 b.2) (empty healthCheckPort)

theorem healthCheckPort_ofHistory (port : Port) (history : List (Key × Entry)) :
    (ofHistory port history).healthCheckPort = port := by
  unfold ofHistory
  generalize start : empty port = m
  have same : m.healthCheckPort = port := start ▸ rfl
  clear start
  induction history generalizing m with
  | nil => exact same
  | cons b rest ih => exact ih _ ((healthCheckPort_insert m b.1 b.2).trans same)

/-- The sorted entries are the entries of the model in ascending byte order of their key texts.
They, and with them all that is read from the model, are the same for every enumeration of the
map and for every order of insertions that leads to it. -/
theorem readsAs_of_enumeration (m : Model) :
    (m.sortedEntries.Perm (m.entries.map fun b => (b.1.text, b.2)) ∧
      m.sortedEntries.Pairwise fun a b => bytes a.1 < bytes b.1) ∧
    (∀ n : Model, m.healthCheckPort = n.healthCheckPort → m.entries.Perm n.entries → m.ReadsAs n) ∧
    ∀ (port : Port) (first second : List (Key × Entry)),
      (∀ key, (ofHistory port first).find? key = (ofHistory port second).find? key) →
        (ofHistory port first).ReadsAs (ofHistory port second) := by
  refine ⟨⟨m.perm_sortedEntries, m.sortedEntries_ascending⟩, fun n => readsAs_of_perm, ?_⟩
  intro port first second same
  have ports : ∀ history, (ofHistory port history).healthCheckPort = port := healthCheckPort_ofHistory port
  exact readsAs_of_perm ((ports first).trans (ports second).symm) (perm_of_find? same)

def twoPorts : List (Key × Entry) :=
  [(⟨.ipv4, 8080, .tcp⟩, ⟨⟨"0.0.0.0", 8080, .tcp⟩, [⟨"10.0.0.1", 30080, .tcp⟩]⟩),
   (⟨.ipv4, 80, .tcp⟩, ⟨⟨"0.0.0.0", 80, .tcp⟩, []⟩)]

theorem readsAs_of_enumeration_twoPorts :
    (ofHistory 32000 twoPorts).entries ≠ (ofHistory 32000 twoPorts.reverse).entries ∧
    (ofHistory 32000 twoPorts).entries.Perm (ofHistory 32000 twoPorts.reverse).entries ∧
    (ofHistory 32000 twoPorts).ReadsAs (ofHistory 32000 twoPorts.reverse) ∧
    (ofHistory 32000 twoPorts).render = (ofHistory 32000 twoPorts.reverse).render := by
  have perm : (ofHistory 32000 twoPorts).entries.Perm (ofHistory 32000 twoPorts.reverse).entries := by
    decide
  obtain ⟨-, byEnumeration, byHistory⟩ := readsAs_of_enumeration (ofHistory 32000 twoPorts)
  have inserted := byHistory 32000 twoPorts twoPorts.reverse (find?_of_perm perm)
  exact ⟨by decide, perm, byEnumeration _ rfl perm, inserted.render⟩

end Model

end ServiceProxy.Routing
