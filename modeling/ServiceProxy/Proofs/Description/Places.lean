import ServiceProxy.Description.Decode
import ServiceProxy.Proofs.Datum.Rearrangement
import ServiceProxy.Proofs.Json.Pieces

/-! Where the values of a description stand in its text and in its tree. Main statements: a
description depends on what stands at a place only by what is read there, and what stands in the
tree of an accepted text stands at a place in the text. -/

set_option autoImplicit false

namespace ServiceProxy

open Json

/-! ## Places in a text -/

/-- A place in the text of a description, as the text around it, and what reads the value there. -/
inductive Site : {β : Type} → (Datum → Decoded β) → (List Char → List Char) → Prop
  | whole : Site (Description.shape.read .json) id
  | padded {β : Type} {read : Datum → Decoded β} {outer : List Char → List Char} {gap gap' : List Char}
    (site : Site read outer) (spaces : Spaces gap) (spaces' : Spaces gap') :
    Site read fun w => outer (gap ++ (w ++ gap'))
  | optional {β : Type} {read : Datum → Decoded β} {outer : List Char → List Char}
    (site : Site (Datum.toOption read) outer) : Site read outer
  | item {β : Type} {read : Datum → Decoded β} {outer : List Char → List Char} {gap : List Char}
    {ws ws' : List (List Char)} {ds ds' : List Datum} (site : Site (Datum.toList read) outer)
    (spaces : Spaces gap) (before : List.Forall₂ Holds ws ds) (after : List.Forall₂ Holds ws' ds') :
    Site read fun w => outer (bracketed gap (ws ++ w :: ws'))
  | member {σ α β : Type} {shape : Shape σ α} {name key : String} {aliases : List String} {required : Bool}
    {get : σ → Option β} {set : β → σ → σ} {read : Format → Datum → Decoded β} {outer : List Char → List Char}
    {gap k : List Char} {ws ws' : List (List Char)} {ms ms' : List (String × Datum)}
    (site : Site (shape.read .json) outer) (spaces : Spaces gap) (before : List.Forall₂ HoldsMember ws ms)
    (after : List.Forall₂ HoldsMember ws' ms') (named : Holds k (.text key))
    (found : (shape.slots.find? fun slot => slot.answersTo key) =
      some (.of name aliases required get set read)) :
    Site (read .json) fun w => outer (braced gap (ws ++ (k ++ ':' :: w) :: ws'))
  /-- A record may also be written as the list of its values. -/
  | placed {σ α β : Type} {shape : Shape σ α} {name : String} {aliases : List String} {required : Bool}
    {get : σ → Option β} {set : β → σ → σ} {read : Format → Datum → Decoded β} {outer : List Char → List Char}
    {gap : List Char} {ws ws' : List (List Char)} {ds ds' : List Datum} (site : Site (shape.read .json) outer)
    (spaces : Spaces gap) (before : List.Forall₂ Holds ws ds) (after : List.Forall₂ Holds ws' ds')
    (place : shape.slots[ws.length]? = some (.of name aliases required get set read)) :
    Site (read .json) fun w => outer (bracketed gap (ws ++ w :: ws'))

/-- A text around a place is a tree around a place, which the description depends on only by what
is read there. -/
theorem Site.exists_around {β : Type} {read : Datum → Decoded β} {outer : List Char → List Char}
    (site : Site read outer) : ∃ around : Datum → Datum, (∀ w d, Holds w d → Holds (outer w) (around d)) ∧
      Focuses (Description.shape.read .json) around read := by
  induction site with
  | whole => exact ⟨id, fun _ _ holds => holds, .refl _⟩
  | padded _ spaces spaces' ih =>
    obtain ⟨around, holds, focuses⟩ := ih
    exact ⟨around, fun w d part => holds _ d (part.pad spaces spaces'), focuses⟩
  | optional _ ih =>
    obtain ⟨around, holds, focuses⟩ := ih
    exact ⟨around, holds, focuses.trans (focuses_toOption _) fun _ some => some⟩
  | item _ spaces before after ih =>
    obtain ⟨around, holds, focuses⟩ := ih
    exact ⟨_, fun w d part => holds _ _ (holds_list (List.rel_append before (.cons part after)) spaces),
      focuses.trans (focuses_toList _ _ _) fun _ _ => nofun⟩
  | member _ spaces before after named found ih =>
    obtain ⟨around, holds, focuses⟩ := ih
    exact ⟨_, fun w d part =>
        holds _ _ (holds_record (List.rel_append before (.cons (.mk named part) after)) spaces),
      focuses.trans (Shape.focuses_member found _ _) fun _ _ => nofun⟩
  | placed _ spaces before after place ih =>
    obtain ⟨around, holds, focuses⟩ := ih
    rw [before.length_eq] at place
    exact ⟨_, fun w d part => holds _ _ (holds_list (List.rel_append before (.cons part after)) spaces),
      focuses.trans (Shape.focuses_placed _ _ place) fun _ _ => nofun⟩

/-! ## Places in a tree -/

/-- A value inside the tree of a description, and what reads it there. -/
inductive Inside (tree : Datum) : {β : Type} → (Datum → Decoded β) → Datum → Prop
  | whole : Inside tree (Description.shape.read .json) tree
  | optional {β : Type} {read : Datum → Decoded β} {d : Datum} (inside : Inside tree (Datum.toOption read) d) :
    Inside tree read d
  | item {β : Type} {read : Datum → Decoded β} {items : Items} {i : Nat} {d : Datum}
    (inside : Inside tree (Datum.toList read) (.list items)) (has : items.Has i d) : Inside tree read d
  | member {σ α β : Type} {shape : Shape σ α} {name key : String} {aliases : List String} {required : Bool}
    {get : σ → Option β} {set : β → σ → σ} {read : Format → Datum → Decoded β} {members : Members} {d : Datum}
    (inside : Inside tree (shape.read .json) (.record members)) (has : members.Has key d)
    (found : (shape.slots.find? fun slot => slot.answersTo key) =
      some (.of name aliases required get set read)) :
    Inside tree (read .json) d
  | placed {σ α β : Type} {shape : Shape σ α} {name : String} {aliases : List String} {required : Bool}
    {get : σ → Option β} {set : β → σ → σ} {read : Format → Datum → Decoded β} {items : Items} {i : Nat}
    {d : Datum} (inside : Inside tree (shape.read .json) (.list items)) (has : items.Has i d)
    (place : shape.slots[i]? = some (.of name aliases required get set read)) : Inside tree (read .json) d

section

variable {tree : Datum} {description : Description} {β : Type} {read : Datum → Decoded β} {d : Datum}

theorem Inside.exists_yields (whole : Yields (Description.shape.read .json tree) description)
    (inside : Inside tree read d) (some : d ≠ .null) : ∃ b, Yields (read d) b := by
  induction inside with
  | whole => exact ⟨description, whole⟩
  | optional _ ih =>
    obtain ⟨_, value⟩ := ih some
    obtain ⟨b, part, -⟩ := (Datum.yields_toOption some).1 value
    exact ⟨b, part⟩
  | item _ has ih =>
    obtain ⟨_, list⟩ := ih nofun
    exact has.exists_yields list
  | member _ has found ih =>
    obtain ⟨_, record⟩ := ih nofun
    obtain ⟨draft, named, -⟩ := Shape.yields_read_record.1 record
    exact Shape.exists_yields_of_has found has named
  | placed _ has place ih =>
    obtain ⟨_, list⟩ := ih nofun
    obtain ⟨draft, placed, -⟩ := yields_bind.1 list
    exact Shape.exists_yields_of_place has place placed

theorem forall₂_split {α β : Type} {R : α → β → Prop} {as : List α} {bs bs' : List β} {b : β}
    (parts : List.Forall₂ R as (bs ++ b :: bs')) : ∃ before a after, as = before ++ a :: after ∧
      List.Forall₂ R before bs ∧ R a b ∧ List.Forall₂ R after bs' := by
  induction bs generalizing as with
  | nil =>
    cases parts with
    | cons first others => exact ⟨[], _, _, rfl, .nil, first, others⟩
  | cons b' bs ih =>
    cases parts with
    | cons first others =>
      obtain ⟨before, a, after, rfl, heads, part, tails⟩ := ih others
      exact ⟨_ :: before, a, after, rfl, .cons first heads, part, tails⟩

-- The tree is read down to the value, and at each level the text around it is what the site has.
theorem Inside.exists_site {w : List Char} (holds : Holds w tree)
    (whole : Yields (Description.shape.read .json tree) description) (inside : Inside tree read d) :
    ∃ outer v, Site read outer ∧ w = outer v ∧ Holds v d := by
  induction inside with
  | whole => exact ⟨id, w, .whole, rfl, holds⟩
  | optional _ ih =>
    obtain ⟨outer, v, site, rfl, part⟩ := ih
    exact ⟨outer, v, site.optional, rfl, part⟩
  | item _ has ih =>
    obtain ⟨outer, v, site, rfl, part⟩ := ih
    obtain ⟨gap, gap', gap'', ws, ds, rfl, spaces, spaces', spaces'', parts, rfl⟩ := part.exists_bracketed
    obtain ⟨before, after, rfl, -⟩ := has.exists_split
    obtain ⟨ws, v, ws', rfl, before, part, after⟩ := forall₂_split parts
    exact ⟨_, v, (site.padded spaces spaces'').item spaces' before after, rfl, part⟩
  | member inside has found ih =>
    obtain ⟨outer, v, site, rfl, part⟩ := ih
    obtain ⟨_, record⟩ := inside.exists_yields whole nofun
    obtain ⟨draft, named, -⟩ := Shape.yields_read_record.1 record
    obtain ⟨ms, rfl⟩ := Shape.exists_ofList named
    obtain ⟨gap, gap', gap'', ws, rfl, spaces, spaces', spaces'', parts⟩ := part.exists_braced
    obtain ⟨before, after, rfl⟩ := List.append_of_mem has.mem
    obtain ⟨ws, _, ws', rfl, before, ⟨named, part⟩, after⟩ := forall₂_split parts
    exact ⟨_, _, (site.padded spaces spaces'').member spaces' before after named found, rfl, part⟩
  | placed _ has place ih =>
    obtain ⟨outer, v, site, rfl, part⟩ := ih
    obtain ⟨gap, gap', gap'', ws, ds, rfl, spaces, spaces', spaces'', parts, rfl⟩ := part.exists_bracketed
    obtain ⟨before, after, rfl, rfl⟩ := has.exists_split
    obtain ⟨ws, v, ws', rfl, before, part, after⟩ := forall₂_split parts
    rw [← before.length_eq] at place
    exact ⟨_, v, (site.padded spaces spaces'').placed spaces' before after place, rfl, part⟩

end

end ServiceProxy
