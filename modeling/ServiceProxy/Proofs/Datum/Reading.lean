import ServiceProxy.Datum.Decode
import ServiceProxy.Proofs.Outcome

/-! What a successful reading of a data tree tells. A value of a shape is finished from a draft,
and whatever the fields keep true of drafts is true of that draft. -/

set_option autoImplicit false

namespace ServiceProxy

variable {σ α β : Type}

@[simp] theorem not_yields_malformed {a : α} : ¬Yields (Decoded.malformed : Decoded α) a := not_yields_throw

@[simp] theorem not_yields_mismatch {m : Mismatch} {a : α} :
    ¬Yields (Decoded.mismatch m : Decoded α) a := not_yields_throw

@[simp] theorem not_yields_unexpected {expected : String} {d : Datum} {a : α} :
    ¬Yields (d.unexpected expected : Decoded α) a := by
  unfold Datum.unexpected
  split <;> simp

theorem Items.yields_toList {read : Datum → Decoded α} {items : Items} {xs : List α}
    (list : Yields (items.toList read) xs) : ∀ x ∈ xs, ∃ d, Yields (read d) x := by
  fun_induction Items.toList read items generalizing xs with
  | case1 =>
    rw [← yields_pure.1 list]
    simp
  | case2 => exact absurd list not_yields_malformed
  | case3 head tail ih =>
    obtain ⟨first, isFirst, list⟩ := yields_bind.1 list
    obtain ⟨rest, isRest, list⟩ := yields_bind.1 list
    rw [← yields_pure.1 list]
    exact List.forall_mem_cons.2 ⟨⟨head, isFirst⟩, ih isRest⟩

theorem Datum.yields_toList {read : Datum → Decoded α} {d : Datum} {xs : List α}
    (list : Yields (d.toList read) xs) : ∀ x ∈ xs, ∃ item, Yields (read item) x := by
  unfold Datum.toList at list
  split at list
  · exact Items.yields_toList list
  · exact absurd list not_yields_unexpected

theorem Slot.yields_fill {name : String} {aliases : List String} {required : Bool}
    {get : σ → Option β} {set : β → σ → σ} {read : Format → Datum → Decoded β} {format : Format}
    {d : Datum} {draft filled : σ} :
    Yields ((Slot.of name aliases required get set read).fill format d draft) filled ↔
      ∃ b, Yields (read format d) b ∧ set b draft = filled := by
  rw [Slot.of, yields_bind]
  simp only [yields_pure]

namespace Shape

/-- What the empty draft has and every field keeps. -/
structure Keeps (shape : Shape σ α) (P : σ → Prop) : Prop where
  blank : P shape.blank
  fill (slot : Slot σ) (format : Format) (d : Datum) (draft filled : σ) : slot ∈ shape.slots → P draft →
    Yields (slot.fill format d draft) filled → P filled

variable {shape : Shape σ α} {P : σ → Prop} {format : Format}

theorem Keeps.fillNamed (keeps : shape.Keeps P) {members : Members} {draft filled : σ}
    (kept : P draft) (named : Yields (shape.fillNamed format members draft) filled) : P filled := by
  -- A member that names a slot fills it. The others leave the draft alone or end the reading.
  fun_induction Shape.fillNamed shape format members draft with
  | case1 draft => exact yields_pure.1 named ▸ kept
  | case2 => exact absurd named not_yields_malformed
  | case3 => exact absurd named not_yields_malformed
  | case4 => exact absurd named not_yields_mismatch
  | case5 key value tail draft slot found _ ih =>
    obtain ⟨next, isNext, named⟩ := yields_bind.1 named
    exact ih next (keeps.fill slot format value draft next (List.mem_of_find?_eq_some found) kept isNext) named
  | case6 key value tail draft _ _ ih => exact ih kept named
  | case7 => exact absurd named not_yields_malformed

theorem Keeps.fillPlaced (keeps : shape.Keeps P) {index : Nat} {slots : List (Slot σ)}
    (known : ∀ slot ∈ slots, slot ∈ shape.slots) {items : Items} {draft filled : σ} (kept : P draft)
    (placed : Yields (shape.fillPlaced format index slots items draft) filled) : P filled := by
  -- The slots that are left are always slots of the shape, so each keeps the property.
  fun_induction Shape.fillPlaced shape format index slots items draft with
  | case1 index items draft =>
    obtain ⟨_, -, placed⟩ := yields_bind.1 placed
    exact yields_pure.1 placed ▸ kept
  | case2 => exact absurd placed not_yields_mismatch
  | case3 index slot slots draft _ ih => exact ih (fun s m => known s (.tail _ m)) kept placed
  | case4 => exact absurd placed not_yields_malformed
  | case5 index slot slots head tail draft ih =>
    obtain ⟨next, isNext, placed⟩ := yields_bind.1 placed
    exact ih next (fun s m => known s (.tail _ m))
      (keeps.fill slot format head draft next (known slot (.head _)) kept isNext) placed

theorem Keeps.read (keeps : shape.Keeps P) {d : Datum} {a : α} (read : Yields (shape.read format d) a) :
    ∃ draft, P draft ∧ Yields (shape.finish draft) a := by
  unfold Shape.read at read
  split at read
  · obtain ⟨draft, placed, finished⟩ := yields_bind.1 read
    exact ⟨draft, keeps.fillPlaced (fun _ m => m) keeps.blank placed, finished⟩
  · obtain ⟨draft, named, read⟩ := yields_bind.1 read
    refine ⟨draft, keeps.fillNamed keeps.blank named, ?_⟩
    split at read
    · exact absurd read not_yields_mismatch
    · exact read
  · exact absurd read not_yields_unexpected

end Shape

end ServiceProxy
