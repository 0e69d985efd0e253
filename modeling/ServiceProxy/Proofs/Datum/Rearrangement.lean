import Mathlib.Data.List.Pairwise
import ServiceProxy.Proofs.Datum.Reading

/-! Records with their members in another order, and values with another value inside. Main
statements: where the fields of a shape have nothing to do with each other, the order of the
members of a record makes no difference, and no field is filled twice. What is read from a value
depends on a part of it only by what is read from the part. -/

set_option autoImplicit false

namespace ServiceProxy

variable {σ α β : Type}

namespace Slot

/-- Filling one field leaves the other alone, and may as well come after it. -/
structure Apart (one other : Slot σ) : Prop where
  keeps {format : Format} {d : Datum} {draft filled : σ} :
    Yields (one.fill format d draft) filled → other.filled filled = other.filled draft
  swap {format : Format} {d e : Datum} {draft first both : σ} : Yields (one.fill format d draft) first →
    Yields (other.fill format e first) both →
      ∃ second, Yields (other.fill format e draft) second ∧ Yields (one.fill format d second) both

def Independent (one other : Slot σ) : Prop := one.Apart other ∧ other.Apart one

instance : Std.Symm (@Independent σ) := ⟨fun _ _ => And.symm⟩

def Marks (slot : Slot σ) : Prop := ∀ {format : Format} {d : Datum} {draft filled : σ},
  Yields (slot.fill format d draft) filled → slot.filled filled = true

section

variable {name name' : String} {aliases aliases' : List String} {required required' : Bool}
  {get : σ → Option β} {set : β → σ → σ} {read : Format → Datum → Decoded β} {γ : Type}
  {get' : σ → Option γ} {set' : γ → σ → σ} {read' : Format → Datum → Decoded γ}

theorem answersTo_iff {slot : Slot σ} {key : String} :
    slot.answersTo key = true ↔ key ∈ slot.name :: slot.aliases := by
  rw [answersTo, Bool.or_eq_true, beq_iff_eq, List.contains_iff_mem, List.mem_cons, eq_comm]

theorem marks_of (marks : ∀ b draft, (get (set b draft)).isSome = true) :
    (Slot.of name aliases required get set read).Marks := by
  intro format d draft filled fills
  obtain ⟨b, -, rfl⟩ := yields_fill.1 fills
  exact marks b draft

theorem apart_of (keeps : ∀ b draft, get' (set b draft) = get' draft)
    (swap : ∀ b c draft, set' c (set b draft) = set b (set' c draft)) :
    (Slot.of name aliases required get set read).Apart (.of name' aliases' required' get' set' read') where
  keeps fills := by
    obtain ⟨b, -, rfl⟩ := yields_fill.1 fills
    exact congrArg Option.isSome (keeps b _)
  swap fills fills' := by
    obtain ⟨b, value, rfl⟩ := yields_fill.1 fills
    obtain ⟨c, value', rfl⟩ := yields_fill.1 fills'
    exact ⟨_, yields_fill.2 ⟨c, value', rfl⟩, yields_fill.2 ⟨b, value, (swap b c _).symm⟩⟩

end

end Slot

namespace Shape

/-- The fields of a shape have nothing to do with each other. -/
structure Separate (shape : Shape σ α) : Prop where
  marks : ∀ slot ∈ shape.slots, slot.Marks
  apart : shape.slots.Pairwise Slot.Independent

variable {shape : Shape σ α} {format : Format}

/-- What one member of a record does to a draft. -/
inductive Takes (shape : Shape σ α) (format : Format) : String × Datum → σ → σ → Prop
  | own {key : String} {d : Datum} {slot : Slot σ} {draft filled : σ}
    (found : (shape.slots.find? fun slot => slot.answersTo key) = some slot) (fresh : slot.filled draft = false)
    (fills : Yields (slot.fill format d draft) filled) : Takes shape format (key, d) draft filled
  | foreign {key : String} {d : Datum} {draft : σ}
    (found : (shape.slots.find? fun slot => slot.answersTo key) = none) (sound : d.sound = true) :
    Takes shape format (key, d) draft draft

theorem yields_fillNamed_more {key : String} {d : Datum} {tail : Members} {draft filled : σ} :
    Yields (shape.fillNamed format (.more (some key) d tail) draft) filled ↔
      ∃ next, Takes shape format (key, d) draft next ∧ Yields (shape.fillNamed format tail next) filled := by
  rw [fillNamed]
  constructor
  · intro named
    split at named
    · rename_i slot found
      split at named
      · exact absurd named not_yields_mismatch
      · rename_i fresh
        obtain ⟨next, fills, named⟩ := yields_bind.1 named
        exact ⟨next, .own found (Bool.eq_false_iff.2 fresh) fills, named⟩
    · rename_i found
      split at named
      · rename_i sound
        exact ⟨draft, .foreign found sound, named⟩
      · exact absurd named not_yields_malformed
  · rintro ⟨next, takes, named⟩
    cases takes with
    | own found fresh fills =>
      simp only [found, fresh, Bool.false_eq_true, if_false]
      exact yields_bind.2 ⟨next, fills, named⟩
    | foreign found sound => simpa only [found, sound, if_true] using named

theorem yields_fillNamed_cons {m : String × Datum} {ms : List (String × Datum)} {draft filled : σ} :
    Yields (shape.fillNamed format (.ofList (m :: ms)) draft) filled ↔
      ∃ next, Takes shape format m draft next ∧ Yields (shape.fillNamed format (.ofList ms) next) filled :=
  yields_fillNamed_more

theorem yields_fillNamed_append {ms ms' : List (String × Datum)} {draft filled : σ} :
    Yields (shape.fillNamed format (.ofList (ms ++ ms')) draft) filled ↔
      ∃ next, Yields (shape.fillNamed format (.ofList ms) draft) next ∧
        Yields (shape.fillNamed format (.ofList ms') next) filled := by
  induction ms generalizing draft with
  | nil => simp [Members.ofList, fillNamed]
  | cons m ms ih =>
    simp only [List.cons_append, yields_fillNamed_cons, ih]
    constructor
    · rintro ⟨first, takes, next, named, rest⟩
      exact ⟨next, ⟨first, takes, named⟩, rest⟩
    · rintro ⟨next, ⟨first, takes, named⟩, rest⟩
      exact ⟨first, takes, next, named, rest⟩

theorem Separate.takes_swap (separate : shape.Separate) {m m' : String × Datum} {draft first both : σ}
    (takes : Takes shape format m draft first) (takes' : Takes shape format m' first both) :
    ∃ second, Takes shape format m' draft second ∧ Takes shape format m second both := by
  cases takes with
  | foreign found sound => exact ⟨both, takes', .foreign found sound⟩
  | @own key d slot _ _ found fresh fills =>
    cases takes' with
    | foreign found' sound' => exact ⟨draft, .foreign found' sound', .own found fresh fills⟩
    | @own key' d' slot' _ _ found' fresh' fills' =>
      have member := List.mem_of_find?_eq_some found
      have member' := List.mem_of_find?_eq_some found'
      -- A field that has just been filled does not take a second member.
      have other : slot ≠ slot' := by
        rintro rfl
        rw [separate.marks slot member fills] at fresh'
        cases fresh'
      obtain ⟨apart, apart'⟩ := separate.apart.forall member member' other
      obtain ⟨second, fillsSecond, fillsBoth⟩ := apart.swap fills fills'
      refine ⟨second, .own found' ?_ fillsSecond, .own found ?_ fillsBoth⟩
      · rwa [← apart.keeps fills]
      · rwa [apart'.keeps fillsSecond]

theorem Separate.fillNamed_perm (separate : shape.Separate) {ms ms' : List (String × Datum)} (perm : ms.Perm ms')
    {draft filled : σ} (named : Yields (shape.fillNamed format (.ofList ms) draft) filled) :
    Yields (shape.fillNamed format (.ofList ms') draft) filled := by
  induction perm generalizing draft with
  | nil => exact named
  | cons m _ ih =>
    obtain ⟨next, takes, named⟩ := yields_fillNamed_cons.1 named
    exact yields_fillNamed_cons.2 ⟨next, takes, ih named⟩
  | swap m m' ms =>
    obtain ⟨first, takes, named⟩ := yields_fillNamed_cons.1 named
    obtain ⟨both, takes', named⟩ := yields_fillNamed_cons.1 named
    obtain ⟨second, takes', takes⟩ := separate.takes_swap takes takes'
    exact yields_fillNamed_cons.2 ⟨second, takes', yields_fillNamed_cons.2 ⟨both, takes, named⟩⟩
  | trans _ _ ih ih' => exact ih' (ih named)

/-- No field is filled by two members. -/
theorem Separate.not_takes_twice (separate : shape.Separate) {key key' : String} {d d' : Datum}
    {slot : Slot σ} (found : (shape.slots.find? fun slot => slot.answersTo key) = some slot)
    (found' : (shape.slots.find? fun slot => slot.answersTo key') = some slot) {draft first both : σ}
    (takes : Takes shape format (key, d) draft first) : ¬Takes shape format (key', d') first both := by
  intro takes'
  cases takes with
  | foreign none => simp [none] at found
  | own own _ fills =>
    cases takes' with
    | foreign none => simp [none] at found'
    | own own' fresh' =>
      obtain rfl := Option.some.inj (own.symm.trans found)
      obtain rfl := Option.some.inj (own'.symm.trans found')
      rw [separate.marks _ (List.mem_of_find?_eq_some found) fills] at fresh'
      cases fresh'

/-! ## Whole records -/

theorem yields_read_record {members : Members} {a : α} : Yields (shape.read format (.record members)) a ↔
    ∃ draft, Yields (shape.fillNamed format members shape.blank) draft ∧
      shape.missing? draft = none ∧ Yields (shape.finish draft) a := by
  change Yields (shape.ofMembers format members) a ↔ _
  rw [ofMembers, yields_bind]
  refine exists_congr fun draft => and_congr_right fun _ => ?_
  cases shape.missing? draft with
  | none => simp
  | some slot => simp

theorem exists_ofList {members : Members} {draft filled : σ}
    (named : Yields (shape.fillNamed format members draft) filled) : ∃ ms, members = .ofList ms := by
  fun_induction Shape.fillNamed shape format members draft with
  | case1 => exact ⟨[], rfl⟩
  | case2 => exact absurd named not_yields_malformed
  | case3 => exact absurd named not_yields_malformed
  | case4 => exact absurd named not_yields_mismatch
  | case5 key value tail draft slot _ _ ih =>
    obtain ⟨next, -, named⟩ := yields_bind.1 named
    obtain ⟨ms, rfl⟩ := ih next named
    exact ⟨(key, value) :: ms, rfl⟩
  | case6 key value tail draft _ _ ih =>
    obtain ⟨ms, rfl⟩ := ih named
    exact ⟨(key, value) :: ms, rfl⟩
  | case7 => exact absurd named not_yields_malformed

/-- The members of one record do at least what those of another do. -/
def Covers (shape : Shape σ α) (format : Format) (ms ms' : List (String × Datum)) : Prop :=
  ∀ draft filled, Yields (shape.fillNamed format (.ofList ms) draft) filled →
    Yields (shape.fillNamed format (.ofList ms') draft) filled

variable {ms ms' : List (String × Datum)} {key key' : String} {d d' : Datum}

theorem Covers.read (covers : Covers shape format ms ms') {a : α}
    (read : Yields (shape.read format (.record (.ofList ms))) a) :
    Yields (shape.read format (.record (.ofList ms'))) a := by
  obtain ⟨draft, named, complete, finished⟩ := yields_read_record.1 read
  exact yields_read_record.2 ⟨draft, covers _ _ named, complete, finished⟩

theorem Separate.covers_perm (separate : shape.Separate) (perm : ms.Perm ms') : Covers shape format ms ms' :=
  fun _ _ named => separate.fillNamed_perm perm named

theorem covers_rename (same : (shape.slots.find? fun slot => slot.answersTo key') =
      shape.slots.find? fun slot => slot.answersTo key) :
    Covers shape format (ms ++ (key, d) :: ms') (ms ++ (key', d) :: ms') := by
  intro draft filled named
  obtain ⟨first, before, named⟩ := yields_fillNamed_append.1 named
  obtain ⟨next, takes, after⟩ := yields_fillNamed_cons.1 named
  refine yields_fillNamed_append.2 ⟨first, before, yields_fillNamed_cons.2 ⟨next, ?_, after⟩⟩
  cases takes with
  | own found fresh fills => exact .own (same.trans found) fresh fills
  | foreign found sound => exact .foreign (same.trans found) sound

theorem covers_foreign (foreign : ∀ slot ∈ shape.slots, key ∉ slot.name :: slot.aliases)
    (sound : d.sound = true) : Covers shape format (ms ++ ms') (ms ++ (key, d) :: ms') := by
  intro draft filled named
  obtain ⟨first, before, after⟩ := yields_fillNamed_append.1 named
  have none : (shape.slots.find? fun slot => slot.answersTo key) = none :=
    List.find?_eq_none.2 fun slot member answers => foreign slot member (Slot.answersTo_iff.1 answers)
  exact yields_fillNamed_append.2
    ⟨first, before, yields_fillNamed_cons.2 ⟨first, .foreign none sound, after⟩⟩

theorem Separate.not_yields_twice (separate : shape.Separate) {slot : Slot σ}
    (found : (shape.slots.find? fun slot => slot.answersTo key) = some slot)
    (found' : (shape.slots.find? fun slot => slot.answersTo key') = some slot) (other : key ≠ key')
    (member : (key, d) ∈ ms) (member' : (key', d') ∈ ms) {a : α} :
    ¬Yields (shape.read format (.record (.ofList ms))) a := by
  -- The order makes no difference, so the two members may come first.
  obtain ⟨before, after, rfl⟩ := List.append_of_mem member
  have rest : (key', d') ∈ before ++ after := by
    have pair : (key', d') ≠ (key, d) := fun same => other (Prod.mk.inj same).1.symm
    have anywhere := List.mem_append.1 member'
    rw [List.mem_cons, or_iff_right pair] at anywhere
    exact List.mem_append.2 anywhere
  obtain ⟨before', after', split⟩ := List.append_of_mem rest
  have perm : (before ++ (key, d) :: after).Perm ((key, d) :: (key', d') :: (before' ++ after')) := by
    refine List.perm_middle.trans (.cons _ ?_)
    rw [split]
    exact List.perm_middle
  intro read
  obtain ⟨draft, named, -⟩ := yields_read_record.1 ((separate.covers_perm perm).read read)
  obtain ⟨first, takes, named⟩ := yields_fillNamed_cons.1 named
  obtain ⟨both, takes', -⟩ := yields_fillNamed_cons.1 named
  exact separate.not_takes_twice found found' takes takes'

end Shape

/-! ## Values inside others -/

/-- What is read from a whole depends on a part only by what is read from the part, as long as
there is one. -/
def Focuses {β : Type} (outer : Datum → Decoded α) (around : Datum → Datum) (inner : Datum → Decoded β) : Prop :=
  ∀ d a, d ≠ .null → Yields (outer (around d)) a →
    ∃ b, Yields (inner d) b ∧ ∀ e, e ≠ .null → Yields (inner e) b → Yields (outer (around e)) a

section

variable {γ : Type} {outer : Datum → Decoded α} {middle : Datum → Decoded β} {inner : Datum → Decoded γ}
  {around around' : Datum → Datum}

theorem Focuses.refl (read : Datum → Decoded α) : Focuses read id read :=
  fun _ a _ whole => ⟨a, whole, fun _ _ other => other⟩

theorem Focuses.trans (focuses : Focuses outer around middle) (focuses' : Focuses middle around' inner)
    (there : ∀ d, d ≠ .null → around' d ≠ .null) : Focuses outer (fun d => around (around' d)) inner := by
  intro d a some whole
  obtain ⟨b, part, back⟩ := focuses (around' d) a (there d some) whole
  obtain ⟨c, inside, back'⟩ := focuses' d b some part
  exact ⟨c, inside, fun e some' other => back (around' e) (there e some') (back' e some' other)⟩

theorem Datum.yields_toOption {read : Datum → Decoded α} {d : Datum} (some' : d ≠ .null) {a : Option α} :
    Yields (d.toOption read) a ↔ ∃ b, Yields (read d) b ∧ some b = a := by
  have mapped : d.toOption read = read d >>= fun b => pure (some b) := by
    cases d <;> first | exact absurd rfl some' | rfl
  rw [mapped, yields_bind]
  simp only [yields_pure]

theorem focuses_toOption (read : Datum → Decoded α) : Focuses (Datum.toOption read) id read := by
  intro d a some whole
  obtain ⟨b, part, rfl⟩ := (Datum.yields_toOption some).1 whole
  exact ⟨b, part, fun e some' other => (Datum.yields_toOption some').2 ⟨b, other, rfl⟩⟩

theorem Items.yields_toList_more {read : Datum → Decoded α} {d : Datum} {tail : Items} {xs : List α} :
    Yields ((Items.more d tail).toList read) xs ↔
      ∃ x, Yields (read d) x ∧ ∃ rest, Yields (tail.toList read) rest ∧ x :: rest = xs := by
  simp only [Items.toList, yields_bind, yields_pure]

theorem focuses_toList (read : Datum → Decoded α) (ds ds' : List Datum) :
    Focuses (Datum.toList read) (fun d => .list (.ofList (ds ++ d :: ds'))) read := by
  intro d xs _ whole
  change Yields ((Items.ofList (ds ++ d :: ds')).toList read) xs at whole
  change ∃ b, _ ∧ ∀ e, e ≠ .null → Yields (read e) b → Yields ((Items.ofList (ds ++ e :: ds')).toList read) xs
  -- The items in front are read on their own, and the part is at the head in the end.
  induction ds generalizing xs with
  | nil =>
    obtain ⟨x, part, rest, others, rfl⟩ := Items.yields_toList_more.1 whole
    exact ⟨x, part, fun e _ other => Items.yields_toList_more.2 ⟨x, other, rest, others, rfl⟩⟩
  | cons first ds ih =>
    obtain ⟨x, front, rest, others, rfl⟩ := Items.yields_toList_more.1 whole
    obtain ⟨b, part, back⟩ := ih rest others
    exact ⟨b, part, fun e some other => Items.yields_toList_more.2 ⟨x, front, rest, back e some other, rfl⟩⟩

end

namespace Shape

variable {shape : Shape σ α} {format : Format} {name : String} {aliases : List String} {required : Bool}
  {get : σ → Option β} {set : β → σ → σ} {read : Format → Datum → Decoded β}

theorem focuses_member {key : String} (found : (shape.slots.find? fun slot => slot.answersTo key) =
      some (.of name aliases required get set read)) (ms ms' : List (String × Datum)) :
    Focuses (shape.read format) (fun d => .record (.ofList (ms ++ (key, d) :: ms'))) (read format) := by
  intro d a _ whole
  obtain ⟨draft, named, complete, finished⟩ := yields_read_record.1 whole
  obtain ⟨first, before, named⟩ := yields_fillNamed_append.1 named
  obtain ⟨next, takes, after⟩ := yields_fillNamed_cons.1 named
  cases takes with
  | foreign none => simp [none] at found
  | own own fresh fills =>
    -- The record goes on from what was set, whatever the value was read from.
    obtain rfl := Option.some.inj (own.symm.trans found)
    obtain ⟨b, part, rfl⟩ := Slot.yields_fill.1 fills
    refine ⟨b, part, fun e _ other => yields_read_record.2 ⟨draft, ?_, complete, finished⟩⟩
    exact yields_fillNamed_append.2 ⟨first, before, yields_fillNamed_cons.2
      ⟨_, .own found fresh (Slot.yields_fill.2 ⟨b, other, rfl⟩), after⟩⟩

theorem yields_fillPlaced_cons {index : Nat} {slot : Slot σ} {slots : List (Slot σ)} {d : Datum} {tail : Items}
    {draft filled : σ} : Yields (shape.fillPlaced format index (slot :: slots) (.more d tail) draft) filled ↔
      ∃ next, Yields (slot.fill format d draft) next ∧
        Yields (shape.fillPlaced format (index + 1) slots tail next) filled := by
  rw [fillPlaced, yields_bind]

theorem exists_of_fillPlaced {ds ds' : List Datum} {d : Datum} {index : Nat} {slots : List (Slot σ)}
    (place : slots[ds.length]? = some (.of name aliases required get set read)) {draft filled : σ}
    (whole : Yields (shape.fillPlaced format index slots (.ofList (ds ++ d :: ds')) draft) filled) :
    ∃ b, Yields (read format d) b ∧ ∀ e, Yields (read format e) b →
      Yields (shape.fillPlaced format index slots (.ofList (ds ++ e :: ds')) draft) filled := by
  induction ds generalizing index slots draft with
  | nil =>
    cases slots with
    | nil => cases place
    | cons slot slots =>
      obtain rfl := Option.some.inj place
      obtain ⟨next, fills, others⟩ := yields_fillPlaced_cons.1 whole
      obtain ⟨b, part, rfl⟩ := Slot.yields_fill.1 fills
      exact ⟨b, part, fun e other => yields_fillPlaced_cons.2 ⟨_, Slot.yields_fill.2 ⟨b, other, rfl⟩, others⟩⟩
  | cons first ds ih =>
    cases slots with
    | nil => cases place
    | cons slot slots =>
      obtain ⟨next, fills, others⟩ := yields_fillPlaced_cons.1 whole
      obtain ⟨b, part, back⟩ := ih place others
      exact ⟨b, part, fun e other => yields_fillPlaced_cons.2 ⟨next, fills, back e other⟩⟩

theorem focuses_placed (ds ds' : List Datum)
    (place : shape.slots[ds.length]? = some (.of name aliases required get set read)) :
    Focuses (shape.read format) (fun d => .list (.ofList (ds ++ d :: ds'))) (read format) := by
  intro d a _ whole
  change Yields (shape.ofItems format _) a at whole
  obtain ⟨draft, placed, finished⟩ := yields_bind.1 whole
  obtain ⟨b, part, back⟩ := exists_of_fillPlaced place placed
  exact ⟨b, part, fun e _ other => yields_bind.2 ⟨draft, back e other, finished⟩⟩

end Shape

/-! ## Parts -/

inductive Items.Has : Items → Nat → Datum → Prop
  | head {d : Datum} {tail : Items} : Has (.more d tail) 0 d
  | tail {first d : Datum} {tail : Items} {i : Nat} (later : Has tail i d) : Has (.more first tail) (i + 1) d

inductive Members.Has : Members → String → Datum → Prop
  | head {key : String} {d : Datum} {tail : Members} : Has (.more (some key) d tail) key d
  | tail {first : Option String} {key : String} {e d : Datum} {tail : Members} (later : Has tail key d) :
    Has (.more first e tail) key d

theorem Items.Has.exists_split {ds : List Datum} {i : Nat} {d : Datum} (has : (Items.ofList ds).Has i d) :
    ∃ before after, ds = before ++ d :: after ∧ before.length = i := by
  induction ds generalizing i with
  | nil => cases has
  | cons first ds ih =>
    cases has with
    | head => exact ⟨[], ds, rfl, rfl⟩
    | tail later =>
      obtain ⟨before, after, rfl, length⟩ := ih later
      exact ⟨first :: before, after, rfl, congrArg (· + 1) length⟩

theorem Members.Has.mem {ms : List (String × Datum)} {key : String} {d : Datum}
    (has : (Members.ofList ms).Has key d) : (key, d) ∈ ms := by
  induction ms with
  | nil => cases has
  | cons m ms ih =>
    cases has with
    | head => exact .head _
    | tail later => exact .tail _ (ih later)

theorem Items.Has.exists_yields {items : Items} {i : Nat} {d : Datum} (has : items.Has i d)
    {read : Datum → Decoded α} {xs : List α} (list : Yields (items.toList read) xs) :
    ∃ x, Yields (read d) x := by
  induction has generalizing xs with
  | head =>
    obtain ⟨x, part, -⟩ := Items.yields_toList_more.1 list
    exact ⟨x, part⟩
  | tail _ ih =>
    obtain ⟨-, -, rest, others, -⟩ := Items.yields_toList_more.1 list
    exact ih others

namespace Shape

variable {shape : Shape σ α} {format : Format} {name : String} {aliases : List String} {required : Bool}
  {get : σ → Option β} {set : β → σ → σ} {read : Format → Datum → Decoded β}

theorem exists_yields_of_has {key : String} (found : (shape.slots.find? fun slot => slot.answersTo key) =
      some (.of name aliases required get set read)) {members : Members} {d : Datum} (has : members.Has key d)
    {draft filled : σ} (named : Yields (shape.fillNamed format members draft) filled) :
    ∃ b, Yields (read format d) b := by
  induction has generalizing draft with
  | head =>
    obtain ⟨next, takes, -⟩ := yields_fillNamed_more.1 named
    cases takes with
    | foreign none => simp [none] at found
    | own own _ fills =>
      obtain rfl := Option.some.inj (own.symm.trans found)
      obtain ⟨b, part, -⟩ := Slot.yields_fill.1 fills
      exact ⟨b, part⟩
  | @tail first _ _ _ _ _ ih =>
    cases first with
    | none => exact absurd named not_yields_malformed
    | some first =>
      obtain ⟨next, -, others⟩ := yields_fillNamed_more.1 named
      exact ih found others

theorem exists_yields_of_place {items : Items} {i : Nat} {d : Datum} (has : items.Has i d) {index : Nat}
    {slots : List (Slot σ)} (place : slots[i]? = some (.of name aliases required get set read))
    {draft filled : σ} (placed : Yields (shape.fillPlaced format index slots items draft) filled) :
    ∃ b, Yields (read format d) b := by
  induction has generalizing index slots draft with
  | head =>
    cases slots with
    | nil => cases place
    | cons slot slots =>
      obtain rfl := Option.some.inj place
      obtain ⟨next, fills, -⟩ := yields_fillPlaced_cons.1 placed
      obtain ⟨b, part, -⟩ := Slot.yields_fill.1 fills
      exact ⟨b, part⟩
  | tail _ ih =>
    cases slots with
    | nil => cases place
    | cons slot slots =>
      obtain ⟨next, -, others⟩ := yields_fillPlaced_cons.1 placed
      exact ih place others

end Shape

end ServiceProxy
