import ServiceProxy.Description.Decode
import ServiceProxy.Proofs.Datum.Reading

/-! What is read from a tree of JSON is well-formed to its end, also where nobody wants it. Main
statement: the tree of a description is sound. -/

set_option autoImplicit false

namespace ServiceProxy

variable {σ α β : Type}

/-- Nothing is read from a value that is not well-formed. -/
def Demands (read : Datum → Decoded α) : Prop := ∀ d a, Yields (read d) a → d.sound = true

theorem demands_toText : Demands Datum.toText := by
  intro d a text
  cases d with
  | text => rfl
  | _ => exact absurd text not_yields_unexpected

theorem yields_map {f : α → β} {x : Decoded α} {b : β} :
    Yields (f <$> x) b ↔ ∃ a, Yields x a ∧ f a = b := by
  rw [map_eq_pure_bind, yields_bind]
  simp only [yields_pure]

theorem demands_toPort : Demands Datum.toPort := by
  intro d a port
  obtain ⟨n, number, -⟩ := yields_map.1 port
  cases d with
  | integer => rfl
  | _ => exact absurd number not_yields_unexpected

theorem Demands.toOption {read : Datum → Decoded α} (demands : Demands read) :
    Demands (Datum.toOption read) := by
  intro d a option
  cases d with
  | null => rfl
  | _ =>
    obtain ⟨b, value, -⟩ := yields_map.1 option
    exact demands _ b value

theorem Demands.items {read : Datum → Decoded α} (demands : Demands read) {items : Items} {xs : List α}
    (list : Yields (items.toList read) xs) : items.sound = true := by
  fun_induction Items.toList read items generalizing xs with
  | case1 => rfl
  | case2 => exact absurd list not_yields_malformed
  | case3 head tail ih =>
    obtain ⟨first, isFirst, list⟩ := yields_bind.1 list
    obtain ⟨rest, isRest, -⟩ := yields_bind.1 list
    rw [Items.sound, demands head first isFirst, ih isRest, Bool.and_self]

theorem Demands.toList {read : Datum → Decoded α} (demands : Demands read) : Demands (Datum.toList read) := by
  intro d xs list
  cases d with
  | list items => exact demands.items list
  | tables elements => exact demands.items list
  | _ => exact absurd list not_yields_unexpected

theorem demands_toVariant (known : List (String × α)) : Demands (Datum.toVariant known .json) := by
  intro d a variant
  cases d with
  | text => rfl
  | record members =>
    -- A variant that is written as a record has nothing in it but null.
    change Yields (Datum.keyedVariant known members) a at variant
    unfold Datum.keyedVariant at variant
    split at variant
    · rfl
    · exact absurd variant not_yields_malformed
    · exact absurd variant not_yields_malformed
    · rename_i name value tail
      obtain ⟨_, -, variant⟩ := yields_bind.1 variant
      split at variant
      · split at variant
        · rename_i isDone
          cases tail with
          | done => rfl
          | _ => cases isDone
        · exact absurd variant not_yields_malformed
      · exact absurd variant not_yields_unexpected
  | _ => exact absurd variant not_yields_malformed

theorem demands_listing : Demands Listing.ofDatum := by
  intro d a listing
  have entries {l l' : Listing} {members : Members} (listing : Yields (l.ofMembers members) l') :
      members.sound = true := by
    fun_induction Listing.ofMembers l members with
    | case1 => rfl
    | case2 => exact absurd listing not_yields_malformed
    | case3 => exact absurd listing not_yields_malformed
    | case4 l label value tail ih =>
      obtain ⟨address, isText, listing⟩ := yields_bind.1 listing
      rw [Members.sound, demands_toText value address isText, ih address listing, Bool.and_self]
  cases d with
  | record members => exact entries listing
  | moment => rfl
  | _ => exact absurd listing not_yields_unexpected

namespace Slot

def Demands (slot : Slot σ) : Prop :=
  ∀ d draft filled, Yields (slot.fill .json d draft) filled → d.sound = true

theorem demands_of {name : String} {aliases : List String} {required : Bool} {get : σ → Option β}
    {set : β → σ → σ} {read : Format → Datum → Decoded β} (demands : ServiceProxy.Demands (read .json)) :
    (Slot.of name aliases required get set read).Demands := by
  intro d draft filled fills
  obtain ⟨b, value, -⟩ := yields_fill.1 fills
  exact demands d b value

end Slot

namespace Shape

variable {shape : Shape σ α}

theorem sound_of_fillNamed (demands : ∀ slot ∈ shape.slots, slot.Demands) {members : Members} {draft filled : σ}
    (named : Yields (shape.fillNamed .json members draft) filled) : members.sound = true := by
  generalize isJson : Format.json = format at named
  fun_induction Shape.fillNamed shape format members draft with
  | case1 => rfl
  | case2 => exact absurd named not_yields_malformed
  | case3 => exact absurd named not_yields_malformed
  | case4 => exact absurd named not_yields_mismatch
  | case5 key value tail draft slot found _ ih =>
    obtain ⟨next, fills, named⟩ := yields_bind.1 named
    have sound := demands slot (List.mem_of_find?_eq_some found) value draft next (isJson ▸ fills)
    rw [Members.sound, sound, ih next named, Bool.and_self]
  | case6 key value tail draft _ sound ih => rw [Members.sound, sound, ih named, Bool.and_self]
  | case7 => exact absurd named not_yields_malformed

theorem sound_of_fillPlaced {slots : List (Slot σ)} (demands : ∀ slot ∈ slots, slot.Demands) {index : Nat}
    {items : Items} {draft filled : σ}
    (placed : Yields (shape.fillPlaced .json index slots items draft) filled) : items.sound = true := by
  generalize isJson : Format.json = format at placed
  fun_induction Shape.fillPlaced shape format index slots items draft with
  | case1 index items draft =>
    obtain ⟨_, surplus, -⟩ := yields_bind.1 placed
    subst isJson
    cases items with
    | done => rfl
    | _ => exact absurd surplus not_yields_malformed
  | case2 => rfl
  | case3 => rfl
  | case4 => exact absurd placed not_yields_malformed
  | case5 index slot slots head tail draft ih =>
    obtain ⟨first, others⟩ := List.forall_mem_cons.1 demands
    obtain ⟨next, fills, placed⟩ := yields_bind.1 placed
    rw [Items.sound, first head draft next (isJson ▸ fills), ih next others placed, Bool.and_self]

theorem demands_read (demands : ∀ slot ∈ shape.slots, slot.Demands) : Demands (shape.read .json) := by
  intro d a read
  unfold Shape.read at read
  cases d with
  | list items =>
    obtain ⟨draft, placed, -⟩ := yields_bind.1 read
    exact sound_of_fillPlaced demands placed
  | tables elements =>
    obtain ⟨draft, placed, -⟩ := yields_bind.1 read
    exact sound_of_fillPlaced demands placed
  | record members =>
    obtain ⟨draft, named, -⟩ := yields_bind.1 read
    exact sound_of_fillNamed demands named
  | moment => rfl
  | _ => exact absurd read not_yields_unexpected

end Shape

/-! ## Descriptions -/

theorem ServicePort.demands_read : Demands (shape.read .json) :=
  Shape.demands_read (by simp [shape, Slot.demands_of, demands_toPort, demands_toVariant])

theorem Service.demands_read : Demands (shape.read .json) :=
  Shape.demands_read (by simp [shape, Slot.demands_of, ServicePort.demands_read.toList, demands_toPort,
    (demands_toVariant _).toList])

theorem NodeAddress.demands_read : Demands (shape.read .json) :=
  Shape.demands_read (by simp [shape, Slot.demands_of, demands_toText, demands_toVariant])

theorem Host.demands_read : Demands (shape.read .json) :=
  Shape.demands_read (by simp [shape, Slot.demands_of, demands_toText, demands_listing,
    NodeAddress.demands_read.toList])

theorem Description.demands_read : Demands (shape.read .json) :=
  Shape.demands_read (by simp [shape, Slot.demands_of, Service.demands_read.toOption,
    Host.demands_read.toList])

end ServiceProxy
