/-! Association lists in strictly ascending byte order of their labels. Setting a label keeps the
order. -/

set_option autoImplicit false

namespace ServiceProxy

variable {β : Type}

def Ascending (pairs : List (String × β)) : Prop := pairs.Pairwise fun a b => a.1 < b.1

theorem Ascending.eq_of_label_eq {pairs : List (String × β)} (ascending : Ascending pairs)
    {p q : String × β} (first : p ∈ pairs) (second : q ∈ pairs) (same : p.1 = q.1) : p = q := by
  induction ascending with
  | nil => cases first
  | @cons pair rest before _ ih =>
    rcases List.mem_cons.1 first with rfl | earlier
    · rcases List.mem_cons.1 second with rfl | later
      · rfl
      · exact absurd (same ▸ before q later) (String.lt_irrefl _)
    · rcases List.mem_cons.1 second with rfl | later
      · exact absurd (same ▸ before p earlier) (String.lt_irrefl _)
      · exact ih earlier later

/-- In a list that an order goes along, what stands before an element is what precedes it. -/
theorem mem_earlier_iff {α : Type} {Before : α → α → Prop} (asymm : ∀ {a b}, Before a b → ¬Before b a)
    {earlier later : List α} {a b : α} (ordered : (earlier ++ a :: later).Pairwise Before)
    (member : b ∈ earlier ++ a :: later) : b ∈ earlier ↔ Before b a := by
  obtain ⟨-, after, before⟩ := List.pairwise_append.1 ordered
  constructor
  · intro isEarlier
    exact before b isEarlier a List.mem_cons_self
  · intro precedes
    rcases List.mem_append.1 member with isEarlier | isLater
    · exact isEarlier
    · rcases List.mem_cons.1 isLater with rfl | isLater
      · exact absurd precedes (asymm precedes)
      · exact absurd precedes (asymm (List.rel_of_pairwise_cons after isLater))

theorem Ascending.mem_earlier_iff {earlier later : List (String × β)} {p q : String × β}
    (ascending : Ascending (earlier ++ p :: later)) (member : q ∈ earlier ++ p :: later) :
    q ∈ earlier ↔ q.1 < p.1 :=
  ServiceProxy.mem_earlier_iff (fun before => String.lt_asymm before) ascending member

namespace Ordered

/-- The pairs with one label set; a label that is there already gets the new value. -/
def place (label : String) (value : β) : List (String × β) → List (String × β)
  | [] => [(label, value)]
  | pair :: rest =>
    if label < pair.1 then (label, value) :: pair :: rest
    else if label = pair.1 then (label, value) :: rest
    else pair :: place label value rest

def ofList (pairs : List (String × β)) : List (String × β) :=
  pairs.foldl (fun placed pair => place pair.1 pair.2 placed) []

theorem mem_place {label : String} {value : β} {pairs : List (String × β)} {q : String × β}
    (h : q ∈ place label value pairs) : q = (label, value) ∨ q ∈ pairs := by
  induction pairs with
  | nil => simpa [place] using h
  | cons pair rest ih =>
    unfold place at h
    split at h
    · simpa using h
    · split at h
      · rcases List.mem_cons.1 h with rfl | h
        · exact .inl rfl
        · exact .inr (List.mem_cons_of_mem _ h)
      · rcases List.mem_cons.1 h with rfl | h
        · exact .inr List.mem_cons_self
        · exact (ih h).imp_right (List.mem_cons_of_mem _)

theorem ascending_place {label : String} {value : β} {pairs : List (String × β)}
    (h : Ascending pairs) : Ascending (place label value pairs) := by
  induction pairs with
  | nil => simp [place, Ascending]
  | cons pair rest ih =>
    obtain ⟨first, tail⟩ := List.pairwise_cons.1 h
    unfold place
    split
    · rename_i before
      refine List.pairwise_cons.2 ⟨fun q hq => ?_, h⟩
      rcases List.mem_cons.1 hq with rfl | hq
      · exact before
      · exact String.lt_trans before (first q hq)
    · split
      · rename_i same
        exact List.pairwise_cons.2 ⟨fun q hq => same ▸ first q hq, tail⟩
      · rename_i notBefore different
        refine List.pairwise_cons.2 ⟨fun q hq => ?_, ih tail⟩
        rcases mem_place hq with rfl | hq
        · exact Std.lt_of_le_of_ne (String.not_lt.1 notBefore) (Ne.symm different)
        · exact first q hq

theorem ascending_foldl {pairs placed : List (String × β)} (h : Ascending placed) :
    Ascending (pairs.foldl (fun placed pair => place pair.1 pair.2 placed) placed) := by
  induction pairs generalizing placed with
  | nil => exact h
  | cons pair rest ih => exact ih (ascending_place h)

theorem ascending_ofList (pairs : List (String × β)) : Ascending (ofList pairs) :=
  ascending_foldl .nil

end Ordered

end ServiceProxy
