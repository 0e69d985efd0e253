import ServiceProxy.Proofs.Routing.Keys
import ServiceProxy.Routing.Model

/-! The sorted entries of a model. They hold the entries of the model in the one strictly
ascending order of their key texts, and models with equal look-ups have equal sorted entries. -/

set_option autoImplicit false

namespace ServiceProxy

variable {β : Type}

namespace Ordered

theorem perm_place {label : String} {value : β} {pairs : List (String × β)}
    (fresh : label ∉ pairs.map Prod.fst) : (place label value pairs).Perm ((label, value) :: pairs) := by
  induction pairs with
  | nil => exact .refl _
  | cons pair rest ih =>
    have others : label ∉ rest.map Prod.fst := fun member => fresh (List.mem_cons_of_mem _ member)
    have different : label ≠ pair.1 := fun same => fresh (same ▸ List.mem_cons_self)
    unfold place
    split
    · exact .refl _
    · exact ((ih others).cons pair).trans (.swap _ _ _)

theorem perm_foldl {pairs placed : List (String × β)}
    (distinct : ((pairs ++ placed).map Prod.fst).Nodup) :
    (pairs.foldl (fun placed pair => place pair.1 pair.2 placed) placed).Perm (pairs ++ placed) := by
  -- What is placed already stays part of the statement: its labels have to differ from all that follow.
  induction pairs generalizing placed with
  | nil => exact .refl _
  | cons pair rest ih =>
    rw [List.cons_append, List.map_cons, List.nodup_cons] at distinct
    have fresh : pair.1 ∉ placed.map Prod.fst := fun member =>
      distinct.1 (by rw [List.map_append]; exact List.mem_append_right _ member)
    have moved : (rest ++ place pair.1 pair.2 placed).Perm (pair :: (rest ++ placed)) :=
      ((perm_place fresh).append_left rest).trans List.perm_middle
    have kept : ((rest ++ place pair.1 pair.2 placed).map Prod.fst).Nodup :=
      (moved.map Prod.fst).nodup_iff.2 (List.nodup_cons.2 distinct)
    exact (ih kept).trans moved

theorem perm_ofList {pairs : List (String × β)} (distinct : (pairs.map Prod.fst).Nodup) :
    (ofList pairs).Perm pairs := by
  have sorted : (ofList pairs).Perm (pairs ++ []) := perm_foldl (by rwa [List.append_nil])
  rwa [List.append_nil] at sorted

/-- Strictly ascending labels fix the order of a list. -/
theorem eq_of_perm {α : Type} {label : α → String} {xs ys : List α}
    (hx : xs.Pairwise fun a b => label a < label b) (hy : ys.Pairwise fun a b => label a < label b)
    (perm : xs.Perm ys) : xs = ys := by
  refine perm.eq_of_pairwise (fun a b _ _ before after => ?_) hx hy
  exact absurd after (String.lt_asymm before)

end Ordered

namespace Routing.Model

def sorted (m : Model) : List (Key × Entry) :=
  m.entries.mergeSort fun a b => a.1.text ≤ b.1.text

theorem perm_sorted (m : Model) : m.sorted.Perm m.entries := List.mergeSort_perm _ _

theorem distinct_texts (m : Model) : (m.entries.map fun b => b.1.text).Nodup := by
  have keys := m.distinct
  rw [List.Nodup, List.pairwise_map] at keys ⊢
  exact keys.imp fun different same => different (Key.text_injective same)

theorem sorted_ascending (m : Model) : m.sorted.Pairwise fun a b => a.1.text < b.1.text := by
  have ordered : m.sorted.Pairwise fun a b => a.1.text ≤ b.1.text := by
    refine (List.pairwise_mergeSort (fun a b c ab bc => ?_) (fun a b => ?_) m.entries).imp of_decide_eq_true
    · exact decide_eq_true (String.le_trans (of_decide_eq_true ab) (of_decide_eq_true bc))
    · simpa using String.le_total a.1.text b.1.text
  have distinct : m.sorted.Pairwise fun a b => a.1.text ≠ b.1.text := by
    have texts := ((m.perm_sorted.map fun b => b.1.text).nodup_iff).2 m.distinct_texts
    rwa [List.Nodup, List.pairwise_map] at texts
  -- Sorting alone gives a weak order, which distinct texts make strict.
  exact (ordered.and distinct).imp fun h => Std.lt_of_le_of_ne h.1 h.2

theorem sortedEntries_eq (m : Model) :
    m.sortedEntries = m.sorted.map fun b => (b.1.text, b.2) := by
  have labels : ((m.entries.map fun b => (b.1.text, b.2)).map Prod.fst).Nodup := by
    rw [List.map_map]
    exact m.distinct_texts
  have sorted : Ascending (m.sorted.map fun b => (b.1.text, b.2)) :=
    List.pairwise_map.2 m.sorted_ascending
  exact Ordered.eq_of_perm (Ordered.ascending_ofList _) sorted
    ((Ordered.perm_ofList labels).trans (m.perm_sorted.map _).symm)

theorem mem_iff_lookup {entries : List (Key × Entry)} (keys : (entries.map Prod.fst).Nodup)
    {key : Key} {entry : Entry} : (key, entry) ∈ entries ↔ entries.lookup key = some entry := by
  induction entries with
  | nil => simp
  | cons binding rest ih =>
    obtain ⟨k, e⟩ := binding
    rw [List.map_cons, List.nodup_cons] at keys
    by_cases same : key = k
    · subst same
      have absent : (key, entry) ∉ rest := fun member => keys.1 (List.mem_map.2 ⟨_, member, rfl⟩)
      simp [absent, eq_comm]
    · simp [List.lookup_cons, same, beq_false_of_ne same, ih keys.2]

theorem mem_entries_iff {m : Model} {key : Key} {entry : Entry} :
    (key, entry) ∈ m.entries ↔ m.find? key = some entry := mem_iff_lookup m.distinct

theorem nodup_entries (m : Model) : m.entries.Nodup :=
  List.Pairwise.of_map Prod.fst (fun _ _ different same => different (congrArg Prod.fst same)) m.distinct

theorem perm_of_find? {m n : Model} (same : ∀ key, m.find? key = n.find? key) :
    m.entries.Perm n.entries := by
  refine (List.perm_ext_iff_of_nodup m.nodup_entries n.nodup_entries).2 ?_
  rintro ⟨key, entry⟩
  rw [mem_entries_iff, mem_entries_iff, same]

theorem find?_of_perm {m n : Model} (perm : m.entries.Perm n.entries) (key : Key) :
    m.find? key = n.find? key := by
  refine Option.ext fun entry => ?_
  rw [← mem_entries_iff, ← mem_entries_iff]
  exact perm.mem_iff

theorem sorted_eq_of_perm {m n : Model} (perm : m.entries.Perm n.entries) : m.sorted = n.sorted :=
  Ordered.eq_of_perm m.sorted_ascending n.sorted_ascending
    (m.perm_sorted.trans (perm.trans n.perm_sorted.symm))

end Routing.Model

end ServiceProxy
