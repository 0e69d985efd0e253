import ServiceProxy.Proofs.Json.Extent
import ServiceProxy.Proofs.Json.Writing

/-! Texts put together from texts. Main statements: where each part holds a well-formed value, the
text of a list or a record with these parts holds the list or the record of the values, and every
text that holds a list or a record is put together so. -/

set_option autoImplicit false

namespace ServiceProxy.Json

/-- The text is one well-formed value with spaces around it. -/
def Holds (w : List Char) (d : Datum) : Prop := read (String.ofList w) = ⟨d, true⟩ ∧ d.sound = true

variable {w k : List Char} {d : Datum}

theorem holds_iff : Holds w d ↔
    ∃ gap, value (2 * w.length + 2) w = (d, gap) ∧ Spaces gap ∧ d.sound = true := by
  have blank (gap : List Char) : (skipSpace gap).isEmpty = true ↔ Spaces gap := by
    rw [List.isEmpty_iff]
    exact List.dropWhile_eq_nil_iff
  rw [Holds, read, String.toList_ofList]
  simp only [Reading.mk.injEq, blank]
  constructor
  · rintro ⟨⟨rfl, spaces⟩, sound⟩
    exact ⟨_, rfl, spaces, sound⟩
  · rintro ⟨gap, found, spaces, sound⟩
    rw [found]
    exact ⟨⟨rfl, spaces⟩, sound⟩

theorem closed_spaces {gap : List Char} (spaces : Spaces gap) : Closed gap :=
  fun c first => .inl (spaces c (List.mem_of_mem_head? first))

theorem closed_spaces_append {gap more : List Char} (spaces : Spaces gap) (closed : Closed more) :
    Closed (gap ++ more) := by
  cases gap with
  | nil => exact closed
  | cons c gap =>
    rintro _ ⟨rfl⟩
    exact .inl (spaces c List.mem_cons_self)

theorem Holds.value_append (holds : Holds w d) {more : List Char} (closed : Closed more) {fuel : Nat}
    (enough : 2 * w.length < fuel) : ∃ gap, value fuel (w ++ more) = (d, gap ++ more) ∧ Spaces gap := by
  obtain ⟨gap, found, spaces, sound⟩ := holds_iff.1 holds
  obtain ⟨front, rfl, back⟩ := (fronts _).ofValue found sound (closed_spaces spaces)
  refine ⟨gap, ?_, spaces⟩
  rw [List.length_append] at enough
  rw [List.append_assoc]
  exact back _ fuel (closed_spaces_append spaces closed) (by omega)

theorem exists_holds {cs rest : List Char} {fuel : Nat} (found : value fuel cs = (d, rest))
    (sound : d.sound = true) (closed : Closed rest) : ∃ w, cs = w ++ rest ∧ Holds w d := by
  obtain ⟨w, rfl, back⟩ := (fronts _).ofValue found sound closed
  have alone := back [] (2 * w.length + 2) nofun (by omega)
  rw [List.append_nil] at alone
  exact ⟨w, rfl, holds_iff.2 ⟨[], alone, nofun, sound⟩⟩

theorem Spells.holds (spells : Spells d w) (sound : d.sound = true) : Holds w d := by
  have writes : Writes d (String.ofList w) := by
    rw [Writes, String.toList_ofList]
    exact spells.pads
  exact ⟨read_of_writes writes, sound⟩

theorem holds_quoted (s : String) : Holds (quoted s) (.text s) := (spells_quoted s).holds rfl

theorem spaces_nil : Spaces [] := nofun

theorem spaces_append {gap gap' : List Char} (spaces : Spaces gap) (spaces' : Spaces gap') :
    Spaces (gap ++ gap') :=
  fun c member => (List.mem_append.1 member).elim (spaces c) (spaces' c)

theorem Holds.pad (holds : Holds w d) {gap gap' : List Char} (spaces : Spaces gap) (spaces' : Spaces gap') :
    Holds (gap ++ (w ++ gap')) d := by
  have enough : 2 * w.length < 2 * (gap ++ (w ++ gap')).length + 2 := by
    simp only [List.length_append]
    omega
  obtain ⟨after, found, blank⟩ := holds.value_append (closed_spaces spaces') enough
  refine holds_iff.2 ⟨after ++ gap', ?_, spaces_append blank spaces', holds.2⟩
  rw [← value_skipSpace, skipSpace_append spaces, value_skipSpace, found]

theorem Holds.starts (holds : Holds w d) (more : List Char) :
    ∃ c tail, skipSpace (w ++ more) = c :: tail ∧ c ≠ ']' ∧ c ≠ '}' := by
  obtain ⟨gap, found, -, sound⟩ := holds_iff.1 holds
  obtain ⟨c, tail, starts, other⟩ := value_starts found sound
  exact ⟨c, tail ++ more, skipSpace_append_cons starts more, other⟩

theorem skipSpace_mark {mark : Char} (isMark : mark ∈ [',', ']', '}']) {gap : List Char} (spaces : Spaces gap)
    (rest : List Char) : skipSpace (gap ++ mark :: rest) = mark :: rest := by
  rw [skipSpace_append spaces, skipSpace_cons]
  simp only [List.mem_cons, List.not_mem_nil, or_false] at isMark
  rcases isMark with rfl | rfl | rfl <;> decide

theorem Holds.value_mark (holds : Holds w d) {mark : Char} (isMark : mark ∈ [',', ']', '}']) (rest : List Char)
    {fuel : Nat} (enough : 2 * w.length < fuel) :
    ∃ after, value fuel (w ++ mark :: rest) = (d, after) ∧ skipSpace after = mark :: rest := by
  have closed : Closed ([] ++ mark :: rest) := closed_append spaces_nil isMark rest
  obtain ⟨gap, found, spaces⟩ := holds.value_append closed enough
  exact ⟨gap ++ mark :: rest, found, skipSpace_mark isMark spaces rest⟩

/-! ## Keys -/

theorem Numeral.datum_cases (n : Numeral) :
    n.datum = .unfit ∨ (∃ i, n.datum = .integer i) ∨ ∃ shown, n.datum = .real shown := by
  have real : n.asReal = .unfit ∨ (∃ i, n.asReal = .integer i) ∨ ∃ shown, n.asReal = .real shown := by
    unfold asReal
    split
    · exact .inl rfl
    · exact .inr (.inr ⟨_, rfl⟩)
  unfold datum
  simp only
  split_ifs <;> first | exact real | exact .inr (.inl ⟨_, rfl⟩)

/-- What is neither a list nor a record, and comes from a string if it is one. -/
structure Flat (d : Datum) (cs rest : List Char) : Prop where
  ne_list (read : Items) : d ≠ .list read
  ne_record (read : Members) : d ≠ .record read
  text {s : String} : d = .text s → ∃ tail, cs = '"' :: tail ∧ string? tail = some (some s, rest)

theorem flat_of_scalar? {cs rest : List Char} (found : scalar? cs = some (d, rest)) : Flat d cs rest := by
  unfold scalar? at found
  split at found
  · rename_i tail
    cases text : string? tail with
    | none => simp [text] at found
    | some read =>
      obtain ⟨t, after⟩ := read
      simp only [text, Option.bind_eq_bind, Option.bind_some, Option.pure_def, Option.some.injEq,
        Prod.mk.injEq] at found
      obtain ⟨rfl, rfl⟩ := found
      cases t with
      | none => exact ⟨nofun, nofun, nofun⟩
      | some t => exact ⟨nofun, nofun, fun same => ⟨tail, rfl, by rw [text, Datum.text.inj same]⟩⟩
  · cases found
    exact ⟨nofun, nofun, nofun⟩
  · cases found
    exact ⟨nofun, nofun, nofun⟩
  · cases found
    exact ⟨nofun, nofun, nofun⟩
  · cases number : Numeral.scan? cs with
    | none => simp [number] at found
    | some read =>
      simp only [number, Option.bind_eq_bind, Option.bind_some, Option.pure_def, Option.some.injEq,
        Prod.mk.injEq] at found
      obtain ⟨rfl, -⟩ := found
      obtain isUnfit | ⟨_, isInteger⟩ | ⟨_, isReal⟩ := read.1.datum_cases
      · rw [isUnfit]
        exact ⟨nofun, nofun, nofun⟩
      · rw [isInteger]
        exact ⟨nofun, nofun, nofun⟩
      · rw [isReal]
        exact ⟨nofun, nofun, nofun⟩

theorem value_eq_text_iff {cs rest : List Char} {key : String} {fuel : Nat} :
    value (fuel + 1) cs = (.text key, rest) ↔ key? cs = some (some key, rest) := by
  constructor
  · intro found
    obtain ⟨_, _, ⟨_, isText⟩ | ⟨_, _, _, isText⟩⟩ | ⟨_, _, ⟨_, isText⟩ | ⟨_, _, _, isText⟩⟩ | ⟨-, -, scalar⟩ :=
      value_cases found rfl
    · cases isText
    · cases isText
    · cases isText
    · cases isText
    · obtain ⟨tail, quote, text⟩ := (flat_of_scalar? scalar).text rfl
      rw [key?, quote]
      exact text
  · intro named
    unfold key? at named
    split at named
    · rename_i tail quote
      rw [← value_skipSpace, quote, value_scalar (by decide) (by decide) (by decide)]
      simp only [scalar?, named]
      rfl
    · cases named

theorem Holds.key? {key : String} (holds : Holds k (.text key)) (rest : List Char) :
    ∃ after, key? (k ++ ':' :: rest) = some (some key, after) ∧ skipSpace after = ':' :: rest := by
  obtain ⟨gap, found, spaces, -⟩ := holds_iff.1 holds
  obtain ⟨front, rfl, back⟩ := exists_key (value_eq_text_iff.1 found)
  refine ⟨gap ++ ':' :: rest, ?_, ?_⟩
  · rw [List.append_assoc, back]
  · rw [skipSpace_append spaces, skipSpace_cons (by decide)]

theorem exists_holds_key {cs colon rest : List Char} {key : String}
    (named : Json.key? cs = some (some key, colon)) (isColon : skipSpace colon = ':' :: rest) :
    ∃ k, cs = k ++ ':' :: rest ∧ Holds k (.text key) := by
  obtain ⟨k, rfl, back⟩ := exists_key named
  obtain ⟨gap, rfl, spaces, -⟩ := exists_gap isColon
  refine ⟨k ++ gap, by rw [List.append_assoc], holds_iff.2 ⟨gap, ?_, spaces, rfl⟩⟩
  exact value_eq_text_iff.2 (back gap)

/-! ## Lists -/

def bracketed (gap : List Char) (ws : List (List Char)) : List Char := '[' :: (gap ++ listed ']' ws)

variable {ws : List (List Char)} {gap : List Char} {fuel : Nat}

theorem listed_starts (starts : ∀ more, ∃ c tail, skipSpace (w ++ more) = c :: tail ∧ c ≠ ']' ∧ c ≠ '}')
    (mark : Char) (ws : List (List Char)) :
    ∃ c tail, skipSpace (listed mark (w :: ws)) = c :: tail ∧ c ≠ ']' ∧ c ≠ '}' := by
  cases ws with
  | nil => exact starts _
  | cons second ws => exact starts _

theorem sound_items {ds : List Datum} (parts : List.Forall₂ Holds ws ds) : (Items.ofList ds).sound = true := by
  induction parts with
  | nil => rfl
  | cons first _ ih => rw [Items.ofList, Items.sound, first.2, ih, Bool.and_self]

theorem items_listed {ds : List Datum} (first : Holds w d) (others : List.Forall₂ Holds ws ds)
    (enough : 2 * (listed ']' (w :: ws)).length + 1 ≤ fuel) (rest : List Char) :
    items fuel (listed ']' (w :: ws) ++ rest) = (.more d (.ofList ds), rest) := by
  obtain ⟨fuel, rfl⟩ := Nat.exists_eq_add_of_le' (Nat.le_trans (Nat.le_add_left 1 _) enough)
  -- Each item leaves its mark behind, and the fuel for the text that is left.
  induction others generalizing w d fuel with
  | nil =>
    simp only [listed, List.length_append, List.length_singleton] at enough
    obtain ⟨after, found, mark⟩ :=
      first.value_mark (by decide : ']' ∈ [',', ']', '}']) rest (by omega : _ < fuel)
    rw [listed, List.append_assoc, List.singleton_append, items, found]
    simp only [mark, Items.ofList]
  | @cons w' d' ws ds second _ ih =>
    simp only [listed, List.length_append, List.length_cons] at enough
    obtain ⟨after, found, mark⟩ := first.value_mark (by decide : ',' ∈ [',', ']', '}'])
      (listed ']' (w' :: ws) ++ rest) (by omega : _ < fuel)
    rw [listed, List.append_assoc, List.cons_append, items, found]
    obtain ⟨fuel, rfl⟩ : ∃ more, fuel = more + 1 := ⟨fuel - 1, by omega⟩
    simp only [mark, ih second fuel (by omega), Items.ofList]

theorem holds_list {ds : List Datum} (parts : List.Forall₂ Holds ws ds) (spaces : Spaces gap) :
    Holds (bracketed gap ws) (.list (.ofList ds)) := by
  refine holds_iff.2 ⟨[], ?_, nofun, sound_items parts⟩
  cases parts with
  | nil =>
    rw [bracketed, value, skipSpace_cons (by decide)]
    simp only [listed, skipSpace_mark (by decide : ']' ∈ [',', ']', '}']) spaces]
    rfl
  | @cons w d ws ds first others =>
    -- Behind the spaces stands the first item and no bracket, so the list is read as filled.
    obtain ⟨c, tail, starts, notBracket, -⟩ := listed_starts first.starts ']' ws
    rw [← skipSpace_append spaces] at starts
    obtain ⟨fuel, isFuel⟩ : ∃ fuel, 2 * (bracketed gap (w :: ws)).length + 2 = fuel + 1 := ⟨_, rfl⟩
    have enough : 2 * (listed ']' (w :: ws)).length + 1 ≤ fuel := by
      simp only [bracketed, List.length_cons, List.length_append] at isFuel ⊢
      omega
    have read := items_listed first others enough []
    rw [List.append_nil] at read
    rw [isFuel, bracketed, value_list starts notBracket, ← items_skipSpace, skipSpace_append spaces,
      items_skipSpace, read, Items.ofList]

theorem exists_holds_mark {cs after rest : List Char} (found : value fuel cs = (d, after))
    (sound : d.sound = true) {mark : Char} (isMark : mark ∈ [',', ']', '}'])
    (follows : skipSpace after = mark :: rest) : ∃ w, cs = w ++ mark :: rest ∧ Holds w d := by
  obtain ⟨w, rfl, holds⟩ := exists_holds found sound (closed_of_skipSpace follows isMark)
  obtain ⟨gap, rfl, spaces, -⟩ := exists_gap follows
  have padded : Holds ([] ++ (w ++ gap)) d := holds.pad spaces_nil spaces
  exact ⟨w ++ gap, by rw [List.append_assoc], padded⟩

theorem exists_listed_items {cs rest : List Char} {read : Items} (found : items fuel cs = (read, rest))
    (sound : read.sound = true) : ∃ w ws ds, cs = listed ']' (w :: ws) ++ rest ∧
      List.Forall₂ Holds (w :: ws) ds ∧ read = .ofList ds := by
  induction fuel generalizing cs read with
  | zero =>
    cases found
    cases sound
  | succ fuel ih =>
    obtain ⟨head, after, isHead, soundHead, ⟨tail, others, comma, isTail, soundTail, rfl⟩ | ⟨bracket, rfl⟩⟩ :=
      items_cases found sound
    · obtain ⟨w, rfl, holds⟩ := exists_holds_mark isHead soundHead (by decide) comma
      obtain ⟨second, ws, ds, rfl, parts, rfl⟩ := ih isTail soundTail
      exact ⟨w, second :: ws, head :: ds, by simp [listed], .cons holds parts, rfl⟩
    · obtain ⟨w, rfl, holds⟩ := exists_holds_mark isHead soundHead (by decide) bracket
      exact ⟨w, [], [head], by simp [listed], .cons holds .nil, rfl⟩

/-- A text that holds a list is made of the texts of its items. -/
theorem Holds.exists_bracketed {read : Items} (holds : Holds w (.list read)) : ∃ gap gap' gap'' ws ds,
    w = gap ++ (bracketed gap' ws ++ gap'') ∧ Spaces gap ∧ Spaces gap' ∧ Spaces gap'' ∧
      List.Forall₂ Holds ws ds ∧ read = .ofList ds := by
  obtain ⟨after, found, blank, sound⟩ := holds_iff.1 holds
  obtain ⟨tail, start, ⟨bracket, isList⟩ | ⟨read, filled, soundItems, isList⟩⟩ |
    ⟨_, _, ⟨_, isRecord⟩ | ⟨_, _, _, isRecord⟩⟩ | ⟨notBracket, notBrace, scalar⟩ := value_cases found sound
  · obtain ⟨gap, rfl, spaces, -⟩ := exists_gap start
    obtain ⟨gap', rfl, spaces', -⟩ := exists_gap bracket
    exact ⟨gap, gap', after, [], [], by simp [bracketed, listed], spaces, spaces', blank, .nil,
      Datum.list.inj isList⟩
  · obtain ⟨gap, rfl, spaces, -⟩ := exists_gap start
    obtain ⟨w, ws, ds, rfl, parts, rfl⟩ := exists_listed_items filled soundItems
    exact ⟨gap, [], after, w :: ws, ds, by simp [bracketed], spaces, spaces_nil, blank, parts,
      Datum.list.inj isList⟩
  · cases isRecord
  · cases isRecord
  · exact absurd rfl ((flat_of_scalar? scalar).ne_list _)

/-! ## Records -/

def braced (gap : List Char) (ws : List (List Char)) : List Char := '{' :: (gap ++ listed '}' ws)

inductive HoldsMember : List Char → String × Datum → Prop
  | mk {k v : List Char} {key : String} {d : Datum} (named : Holds k (.text key)) (held : Holds v d) :
    HoldsMember (k ++ ':' :: v) (key, d)

theorem sound_members {ms : List (String × Datum)} (parts : List.Forall₂ HoldsMember ws ms) :
    (Members.ofList ms).sound = true := by
  induction parts with
  | nil => rfl
  | cons first _ ih =>
    obtain ⟨_, held⟩ := first
    rw [Members.ofList, Members.sound, held.2, ih, Bool.and_self]

theorem HoldsMember.members {m : String × Datum} (holds : HoldsMember w m) {mark : Char}
    (isMark : mark ∈ [',', ']', '}']) (rest : List Char) (enough : 2 * w.length < fuel) :
    ∃ colon opened after, Json.key? (w ++ mark :: rest) = some (some m.1, colon) ∧
      skipSpace colon = ':' :: opened ∧ value fuel opened = (m.2, after) ∧ skipSpace after = mark :: rest := by
  obtain ⟨named, held⟩ := holds
  rename_i k v key d
  simp only [List.length_append, List.length_cons] at enough
  obtain ⟨colon, isKey, isColon⟩ := named.key? (v ++ mark :: rest)
  obtain ⟨after, found, next⟩ := held.value_mark isMark rest (by omega : _ < fuel)
  refine ⟨colon, _, after, ?_, isColon, found, next⟩
  rwa [List.append_assoc, List.cons_append]

theorem HoldsMember.starts {m : String × Datum} (holds : HoldsMember w m) (more : List Char) :
    ∃ c tail, skipSpace (w ++ more) = c :: tail ∧ c ≠ ']' ∧ c ≠ '}' := by
  obtain ⟨named, -⟩ := holds
  rw [List.append_assoc]
  exact named.starts _

theorem members_listed {m : String × Datum} {ms : List (String × Datum)} (first : HoldsMember w m)
    (others : List.Forall₂ HoldsMember ws ms) (enough : 2 * (listed '}' (w :: ws)).length + 1 ≤ fuel)
    (rest : List Char) : members fuel (listed '}' (w :: ws) ++ rest) = (.ofList (m :: ms), rest) := by
  obtain ⟨fuel, rfl⟩ := Nat.exists_eq_add_of_le' (Nat.le_trans (Nat.le_add_left 1 _) enough)
  induction others generalizing w m fuel with
  | nil =>
    simp only [listed, List.length_append, List.length_singleton] at enough
    obtain ⟨colon, opened, after, isKey, isColon, found, mark⟩ :=
      first.members (by decide : '}' ∈ [',', ']', '}']) rest (by omega : _ < fuel)
    rw [listed, List.append_assoc, List.singleton_append, members, isKey]
    simp only [isColon, found, mark, Members.ofList]
  | @cons w' m' ws ms second _ ih =>
    simp only [listed, List.length_append, List.length_cons] at enough
    obtain ⟨colon, opened, after, isKey, isColon, found, mark⟩ :=
      first.members (by decide : ',' ∈ [',', ']', '}']) (listed '}' (w' :: ws) ++ rest) (by omega : _ < fuel)
    rw [listed, List.append_assoc, List.cons_append, members, isKey]
    obtain ⟨fuel, rfl⟩ : ∃ more, fuel = more + 1 := ⟨fuel - 1, by omega⟩
    simp only [isColon, found, mark, ih second fuel (by omega), Members.ofList]

theorem holds_record {ms : List (String × Datum)} (parts : List.Forall₂ HoldsMember ws ms)
    (spaces : Spaces gap) : Holds (braced gap ws) (.record (.ofList ms)) := by
  refine holds_iff.2 ⟨[], ?_, nofun, sound_members parts⟩
  cases parts with
  | nil =>
    rw [braced, value, skipSpace_cons (by decide)]
    simp only [listed, skipSpace_mark (by decide : '}' ∈ [',', ']', '}']) spaces]
    rfl
  | @cons w m ws ms first others =>
    obtain ⟨c, tail, starts, -, notBrace⟩ := listed_starts first.starts '}' ws
    rw [← skipSpace_append spaces] at starts
    obtain ⟨fuel, isFuel⟩ : ∃ fuel, 2 * (braced gap (w :: ws)).length + 2 = fuel + 1 := ⟨_, rfl⟩
    have enough : 2 * (listed '}' (w :: ws)).length + 1 ≤ fuel := by
      simp only [braced, List.length_cons, List.length_append] at isFuel ⊢
      omega
    have read := members_listed first others enough []
    rw [List.append_nil] at read
    rw [isFuel, braced, value_record starts notBrace, ← members_skipSpace, skipSpace_append spaces,
      members_skipSpace, read]

theorem exists_listed_members {cs rest : List Char} {ms : List (String × Datum)}
    (found : members fuel cs = (.ofList ms, rest)) (sound : (Members.ofList ms).sound = true) :
    ∃ w ws, cs = listed '}' (w :: ws) ++ rest ∧ List.Forall₂ HoldsMember (w :: ws) ms := by
  induction fuel generalizing cs ms with
  | zero =>
    rw [← (Prod.mk.inj found).1] at sound
    cases sound
  | succ fuel ih =>
    obtain ⟨key, colon, opened, held, after, named, isColon, isHeld, soundHeld, follows⟩ :=
      members_cases found sound
    -- A record that can be listed has names throughout.
    obtain ⟨tail, others, comma, isTail, soundTail, isMore⟩ | ⟨brace, isLast⟩ := follows
    · obtain _ | ⟨⟨name, _⟩, ms⟩ := ms
      · cases isMore
      obtain ⟨rfl, rfl, rfl⟩ := Members.more.inj isMore
      obtain ⟨k, rfl, isKey⟩ := exists_holds_key named isColon
      obtain ⟨v, rfl, holds⟩ := exists_holds_mark isHeld soundHeld (by decide) comma
      obtain ⟨second, ws, rfl, parts⟩ := ih isTail soundTail
      exact ⟨k ++ ':' :: v, second :: ws, by simp [listed], .cons (.mk isKey holds) parts⟩
    · obtain _ | ⟨⟨name, _⟩, _ | _⟩ := ms
      · cases isLast
      · obtain ⟨rfl, rfl, -⟩ := Members.more.inj isLast
        obtain ⟨k, rfl, isKey⟩ := exists_holds_key named isColon
        obtain ⟨v, rfl, holds⟩ := exists_holds_mark isHeld soundHeld (by decide) brace
        exact ⟨k ++ ':' :: v, [], by simp [listed], .cons (.mk isKey holds) .nil⟩
      · cases (Members.more.inj isLast).2.2

theorem Holds.exists_braced {ms : List (String × Datum)} (holds : Holds w (.record (.ofList ms))) :
    ∃ gap gap' gap'' ws, w = gap ++ (braced gap' ws ++ gap'') ∧ Spaces gap ∧ Spaces gap' ∧ Spaces gap'' ∧
      List.Forall₂ HoldsMember ws ms := by
  obtain ⟨after, found, blank, sound⟩ := holds_iff.1 holds
  obtain ⟨_, _, ⟨_, isList⟩ | ⟨_, _, _, isList⟩⟩ |
    ⟨tail, start, ⟨brace, isRecord⟩ | ⟨read, filled, soundMembers, isRecord⟩⟩ | ⟨-, -, scalar⟩ :=
      value_cases found sound
  · cases isList
  · cases isList
  · obtain ⟨gap, rfl, spaces, -⟩ := exists_gap start
    obtain ⟨gap', rfl, spaces', -⟩ := exists_gap brace
    obtain _ | ⟨⟨name, _⟩, ms⟩ := ms
    · exact ⟨gap, gap', after, [], by simp [braced, listed], spaces, spaces', blank, .nil⟩
    · cases isRecord
  · obtain ⟨gap, rfl, spaces, -⟩ := exists_gap start
    obtain rfl := Datum.record.inj isRecord
    obtain ⟨w, ws, rfl, parts⟩ := exists_listed_members filled soundMembers
    exact ⟨gap, [], after, w :: ws, by simp [braced], spaces, spaces_nil, blank, parts⟩
  · exact absurd rfl ((flat_of_scalar? scalar).ne_record _)

end ServiceProxy.Json
