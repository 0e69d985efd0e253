import ServiceProxy.Proofs.Json.Scalars

/-! How far the reader looks. Main statement: what is read to its end stands at the front of the
text, and is read from there whatever comes after it, as long as that does not go on with a
number. -/

set_option autoImplicit false

namespace ServiceProxy.Json

variable {cs rest : List Char}

theorem skipSpace_append_cons {c : Char} {tail : List Char} (starts : skipSpace cs = c :: tail)
    (more : List Char) : skipSpace (cs ++ more) = c :: (tail ++ more) := by
  unfold skipSpace at starts ⊢
  rw [List.dropWhile_append, starts]
  rfl

theorem solid_of_skipSpace {c : Char} {tail : List Char} (starts : skipSpace cs = c :: tail) :
    isSpace c = false := by
  have stops := List.head?_dropWhile_not isSpace cs
  rw [show cs.dropWhile isSpace = c :: tail from starts] at stops
  exact stops

theorem exists_gap {c : Char} {tail : List Char} (starts : skipSpace cs = c :: tail) :
    ∃ gap, cs = gap ++ c :: tail ∧ Spaces gap ∧ isSpace c = false := by
  refine ⟨cs.takeWhile isSpace, ?_, fun c => List.mem_takeWhile_imp, solid_of_skipSpace starts⟩
  rw [← starts]
  exact List.takeWhile_append_dropWhile.symm

theorem closed_of_skipSpace {mark : Char} {tail : List Char} (starts : skipSpace cs = mark :: tail)
    (isMark : mark ∈ [',', ']', '}']) : Closed cs := by
  obtain ⟨gap, rfl, spaces, -⟩ := exists_gap starts
  exact closed_append spaces isMark tail

theorem exists_key {key : Option String} (found : key? cs = some (key, rest)) :
    ∃ w, cs = w ++ rest ∧ ∀ more, key? (w ++ more) = some (key, more) := by
  unfold key? at found
  split at found
  · rename_i tail starts
    obtain ⟨gap, rfl, spaces, solid⟩ := exists_gap starts
    obtain ⟨w, rfl, back⟩ := exists_string found
    refine ⟨gap ++ '"' :: w, by rw [List.append_assoc, List.cons_append], fun more => ?_⟩
    rw [List.append_assoc, List.cons_append, key?, skipSpace_append spaces, skipSpace_cons solid]
    exact back more
  · cases found

theorem exists_key_colon {key : Option String} {colon opened : List Char} (found : key? cs = some (key, colon))
    (isColon : skipSpace colon = ':' :: opened) : ∃ k, cs = k ++ ':' :: opened ∧
      ∀ more, ∃ colon, key? (k ++ ':' :: more) = some (key, colon) ∧ skipSpace colon = ':' :: more := by
  obtain ⟨k, rfl, back⟩ := exists_key found
  obtain ⟨gap, rfl, spaces, solid⟩ := exists_gap isColon
  refine ⟨k ++ gap, by rw [List.append_assoc], fun more => ⟨gap ++ ':' :: more, ?_, ?_⟩⟩
  · rw [List.append_assoc, back]
  · rw [skipSpace_append spaces, skipSpace_cons solid]

theorem value_starts {fuel : Nat} {d : Datum} (found : value fuel cs = (d, rest)) (sound : d.sound = true) :
    ∃ c tail, skipSpace cs = c :: tail ∧ c ≠ ']' ∧ c ≠ '}' := by
  have fault : d ≠ .fault := by
    rintro rfl
    cases sound
  cases fuel with
  | zero => exact absurd (congrArg Prod.fst found).symm fault
  | succ fuel =>
    rw [← value_skipSpace] at found
    generalize skipSpace cs = cs at found ⊢
    cases cs with
    | nil => exact absurd (congrArg Prod.fst found).symm fault
    | cons c tail =>
      refine ⟨c, tail, rfl, ?_, ?_⟩
      · rintro rfl
        exact absurd (congrArg Prod.fst found).symm fault
      · rintro rfl
        exact absurd (congrArg Prod.fst found).symm fault

section

variable {fuel : Nat}

theorem items_cases {read : Items} (found : items (fuel + 1) cs = (read, rest)) (sound : read.sound = true) :
    ∃ head after, value fuel cs = (head, after) ∧ head.sound = true ∧
      ((∃ tail others, skipSpace after = ',' :: tail ∧ items fuel tail = (others, rest) ∧
          others.sound = true ∧ read = .more head others) ∨
        skipSpace after = ']' :: rest ∧ read = .more head .done) := by
  rcases isHead : value fuel cs with ⟨head, after⟩
  rw [items, isHead] at found
  simp only at found
  split at found
  · rename_i tail comma
    obtain ⟨rfl, rfl⟩ := Prod.mk.inj found
    rw [Items.sound, Bool.and_eq_true] at sound
    exact ⟨head, after, rfl, sound.1, .inl ⟨tail, _, comma, rfl, sound.2, rfl⟩⟩
  · rename_i tail bracket
    obtain ⟨rfl, rfl⟩ := Prod.mk.inj found
    rw [Items.sound, Bool.and_eq_true] at sound
    exact ⟨head, after, rfl, sound.1, .inr ⟨bracket, rfl⟩⟩
  · obtain ⟨rfl, rfl⟩ := Prod.mk.inj found
    simp [Items.sound] at sound

theorem members_cases {read : Members} (found : members (fuel + 1) cs = (read, rest))
    (sound : read.sound = true) : ∃ key colon opened held after,
      key? cs = some (key, colon) ∧ skipSpace colon = ':' :: opened ∧
      value fuel opened = (held, after) ∧ held.sound = true ∧
      ((∃ tail others, skipSpace after = ',' :: tail ∧ members fuel tail = (others, rest) ∧
          others.sound = true ∧ read = .more key held others) ∨
        skipSpace after = '}' :: rest ∧ read = .more key held .done) := by
  rw [members] at found
  split at found
  · cases found
    cases sound
  rename_i key colon named
  split at found
  · rename_i opened isColon
    rcases isHeld : value fuel opened with ⟨held, after⟩
    rw [isHeld] at found
    simp only at found
    refine ⟨key, colon, opened, held, after, named, isColon, isHeld, ?_⟩
    split at found
    · rename_i tail comma
      obtain ⟨rfl, rfl⟩ := Prod.mk.inj found
      rw [Members.sound, Bool.and_eq_true] at sound
      exact ⟨sound.1, .inl ⟨tail, _, comma, rfl, sound.2, rfl⟩⟩
    · rename_i tail brace
      obtain ⟨rfl, rfl⟩ := Prod.mk.inj found
      rw [Members.sound, Bool.and_eq_true] at sound
      exact ⟨sound.1, .inr ⟨brace, rfl⟩⟩
    · obtain ⟨rfl, rfl⟩ := Prod.mk.inj found
      simp [Members.sound] at sound
  · obtain ⟨rfl, rfl⟩ := Prod.mk.inj found
    simp [Members.sound, Datum.sound] at sound

theorem items_starts {read : Items} (found : items fuel cs = (read, rest))
    (sound : read.sound = true) : ∃ c tail, skipSpace cs = c :: tail ∧ c ≠ ']' ∧ c ≠ '}' := by
  cases fuel with
  | zero =>
    cases found
    cases sound
  | succ fuel =>
    obtain ⟨head, after, first, soundHead, -⟩ := items_cases found sound
    exact value_starts first soundHead

theorem members_starts {read : Members} (found : members fuel cs = (read, rest))
    (sound : read.sound = true) : ∃ tail, skipSpace cs = '"' :: tail := by
  cases fuel with
  | zero =>
    cases found
    cases sound
  | succ fuel =>
    obtain ⟨key, colon, opened, held, after, named, -⟩ := members_cases found sound
    unfold key? at named
    split at named
    · rename_i tail quote
      exact ⟨tail, quote⟩
    · cases named

theorem value_cases {d : Datum} (found : value (fuel + 1) cs = (d, rest)) (sound : d.sound = true) :
    (∃ tail, skipSpace cs = '[' :: tail ∧ (skipSpace tail = ']' :: rest ∧ d = .list .done ∨
      ∃ read, items fuel tail = (read, rest) ∧ read.sound = true ∧ d = .list read)) ∨
    (∃ tail, skipSpace cs = '{' :: tail ∧ (skipSpace tail = '}' :: rest ∧ d = .record .done ∨
      ∃ read, members fuel tail = (read, rest) ∧ read.sound = true ∧ d = .record read)) ∨
    ((∀ tail, skipSpace cs ≠ '[' :: tail) ∧ (∀ tail, skipSpace cs ≠ '{' :: tail) ∧
      scalar? (skipSpace cs) = some (d, rest)) := by
  rw [value] at found
  split at found
  · rename_i tail bracket
    refine .inl ⟨tail, bracket, ?_⟩
    split at found
    · rename_i closed
      obtain ⟨rfl, rfl⟩ := Prod.mk.inj found
      exact .inl ⟨closed, rfl⟩
    · rw [items_skipSpace] at found
      obtain ⟨rfl, rfl⟩ := Prod.mk.inj found
      exact .inr ⟨_, rfl, sound, rfl⟩
  · rename_i tail brace
    refine .inr (.inl ⟨tail, brace, ?_⟩)
    split at found
    · rename_i closed
      obtain ⟨rfl, rfl⟩ := Prod.mk.inj found
      exact .inl ⟨closed, rfl⟩
    · rw [members_skipSpace] at found
      obtain ⟨rfl, rfl⟩ := Prod.mk.inj found
      exact .inr ⟨_, rfl, sound, rfl⟩
  · rename_i notBracket notBrace
    refine .inr (.inr ⟨notBracket, notBrace, ?_⟩)
    cases read : scalar? (skipSpace cs) with
    | none =>
      rw [read] at found
      cases found
      cases sound
    | some read =>
      rw [read, Option.getD_some] at found
      rw [found]

end

/-- What is read to its end stands at the front of the text, and is read from there whatever
comes after it, with two calls for each character. -/
structure Fronts (fuel : Nat) : Prop where
  ofValue {cs rest : List Char} {d : Datum} : value fuel cs = (d, rest) → d.sound = true → Closed rest →
    ∃ w, cs = w ++ rest ∧ ∀ more calls, Closed more → 2 * w.length < calls → value calls (w ++ more) = (d, more)
  ofItems {cs rest : List Char} {read : Items} : items fuel cs = (read, rest) → read.sound = true →
    ∃ w, cs = w ++ rest ∧ ∀ more calls, 2 * w.length + 1 < calls → items calls (w ++ more) = (read, more)
  ofMembers {cs rest : List Char} {read : Members} : members fuel cs = (read, rest) → read.sound = true →
    ∃ w, cs = w ++ rest ∧ ∀ more calls, 2 * w.length + 1 < calls → members calls (w ++ more) = (read, more)

variable {fuel : Nat}

theorem Fronts.succ_value (ih : Fronts fuel) {d : Datum} (found : value (fuel + 1) cs = (d, rest))
    (sound : d.sound = true) (closed : Closed rest) : ∃ w, cs = w ++ rest ∧ ∀ more calls, Closed more →
      2 * w.length < calls → value calls (w ++ more) = (d, more) := by
  -- The spaces in front make no difference, so the first character can be taken to be none.
  suffices solid : ∃ w, skipSpace cs = w ++ rest ∧ ∀ more calls, Closed more →
      2 * w.length < calls + 1 → value (calls + 1) (w ++ more) = (d, more) by
    obtain ⟨c, tail, starts, -⟩ := value_starts found sound
    obtain ⟨gap, split, spaces, -⟩ := exists_gap starts
    obtain ⟨w, front, back⟩ := solid
    refine ⟨gap ++ w, by rw [split, List.append_assoc, ← starts, front], fun more calls closed' enough => ?_⟩
    rw [List.length_append] at enough
    obtain ⟨calls, rfl⟩ : ∃ fewer, calls = fewer + 1 := ⟨calls - 1, by omega⟩
    rw [← value_skipSpace, List.append_assoc, skipSpace_append spaces, value_skipSpace]
    exact back more calls closed' (by omega)
  obtain ⟨tail, start, ⟨bracket, rfl⟩ | ⟨read, filled, soundItems, rfl⟩⟩ |
    ⟨tail, start, ⟨brace, rfl⟩ | ⟨read, filled, soundMembers, rfl⟩⟩ | ⟨notBracket, notBrace, scalar⟩ :=
      value_cases found sound
  · obtain ⟨gap, rfl, spaces, solid⟩ := exists_gap bracket
    refine ⟨'[' :: (gap ++ [']']), by simp [start], fun more calls _ _ => ?_⟩
    rw [List.cons_append, List.append_assoc, List.singleton_append, value, skipSpace_cons (by decide)]
    simp only [skipSpace_append spaces, skipSpace_cons solid]
  · obtain ⟨w, rfl, back⟩ := ih.ofItems filled soundItems
    refine ⟨'[' :: w, start, fun more calls _ enough => ?_⟩
    rw [List.length_cons] at enough
    have again := back more calls (by omega)
    obtain ⟨c, follows, starts, notBracket, -⟩ := items_starts again soundItems
    rw [List.cons_append, value_list starts notBracket, again]
  · obtain ⟨gap, rfl, spaces, solid⟩ := exists_gap brace
    refine ⟨'{' :: (gap ++ ['}']), by simp [start], fun more calls _ _ => ?_⟩
    rw [List.cons_append, List.append_assoc, List.singleton_append, value, skipSpace_cons (by decide)]
    simp only [skipSpace_append spaces, skipSpace_cons solid]
  · obtain ⟨w, rfl, back⟩ := ih.ofMembers filled soundMembers
    refine ⟨'{' :: w, start, fun more calls _ enough => ?_⟩
    rw [List.length_cons] at enough
    have again := back more calls (by omega)
    obtain ⟨follows, starts⟩ := members_starts again soundMembers
    rw [List.cons_append, value_record starts (by decide), again]
  · obtain ⟨w, front, back⟩ := exists_scalar scalar closed
    refine ⟨w, front, fun more calls closed' _ => ?_⟩
    cases w with
    | nil => cases back [] nofun
    | cons c w =>
      have noList : c ≠ '[' := fun bracket => notBracket _ (by rw [front, bracket, List.cons_append])
      have noRecord : c ≠ '{' := fun brace => notBrace _ (by rw [front, brace, List.cons_append])
      have again := back more closed'
      rw [List.cons_append] at front again ⊢
      rw [value_scalar (solid_of_skipSpace front) noList noRecord, again, Option.getD_some]

theorem Fronts.marked (ih : Fronts fuel) {d : Datum} {after : List Char} (found : value fuel cs = (d, after))
    (sound : d.sound = true) {mark : Char} (isMark : mark ∈ [',', ']', '}'])
    (follows : skipSpace after = mark :: rest) : ∃ w, cs = w ++ mark :: rest ∧ ∀ more calls, 2 * w.length < calls →
      ∃ after, value calls (w ++ mark :: more) = (d, after) ∧ skipSpace after = mark :: more := by
  obtain ⟨w, rfl, back⟩ := ih.ofValue found sound (closed_of_skipSpace follows isMark)
  obtain ⟨gap, rfl, spaces, solid⟩ := exists_gap follows
  refine ⟨w ++ gap, by rw [List.append_assoc], fun more calls enough => ⟨gap ++ mark :: more, ?_, ?_⟩⟩
  · rw [List.length_append] at enough
    rw [List.append_assoc]
    exact back _ calls (closed_append spaces isMark more) (by omega)
  · rw [skipSpace_append spaces, skipSpace_cons solid]

theorem Fronts.succ_items (ih : Fronts fuel) {read : Items} (found : items (fuel + 1) cs = (read, rest))
    (sound : read.sound = true) : ∃ w, cs = w ++ rest ∧ ∀ more calls, 2 * w.length + 1 < calls →
      items calls (w ++ more) = (read, more) := by
  obtain ⟨head, after, isHead, soundHead, ⟨tail, others, comma, isTail, soundTail, rfl⟩ | ⟨bracket, rfl⟩⟩ :=
    items_cases found sound
  · obtain ⟨w, rfl, back⟩ := ih.marked isHead soundHead (by decide) comma
    obtain ⟨w', rfl, back'⟩ := ih.ofItems isTail soundTail
    refine ⟨w ++ ',' :: w', by simp, fun more calls enough => ?_⟩
    simp only [List.length_append, List.length_cons] at enough
    obtain ⟨calls, rfl⟩ : ∃ fewer, calls = fewer + 1 := ⟨calls - 1, by omega⟩
    obtain ⟨after, again, follows⟩ := back (w' ++ more) calls (by omega)
    rw [List.append_assoc, List.cons_append, items, again]
    simp only [follows, back' more calls (by omega)]
  · obtain ⟨w, rfl, back⟩ := ih.marked isHead soundHead (by decide) bracket
    refine ⟨w ++ [']'], by simp, fun more calls enough => ?_⟩
    simp only [List.length_append, List.length_singleton] at enough
    obtain ⟨calls, rfl⟩ : ∃ fewer, calls = fewer + 1 := ⟨calls - 1, by omega⟩
    obtain ⟨after, again, follows⟩ := back more calls (by omega)
    rw [List.append_assoc, List.singleton_append, items, again]
    simp only [follows]

theorem Fronts.succ_members (ih : Fronts fuel) {read : Members} (found : members (fuel + 1) cs = (read, rest))
    (sound : read.sound = true) : ∃ w, cs = w ++ rest ∧ ∀ more calls, 2 * w.length + 1 < calls →
      members calls (w ++ more) = (read, more) := by
  obtain ⟨key, colon, opened, held, after, named, isColon, isHeld, soundHeld, follows⟩ :=
    members_cases found sound
  obtain ⟨k, rfl, backKey⟩ := exists_key_colon named isColon
  obtain ⟨tail, others, comma, isTail, soundTail, rfl⟩ | ⟨brace, rfl⟩ := follows
  · obtain ⟨w, rfl, back⟩ := ih.marked isHeld soundHeld (by decide) comma
    obtain ⟨w', rfl, back'⟩ := ih.ofMembers isTail soundTail
    refine ⟨k ++ ':' :: (w ++ ',' :: w'), by simp, fun more calls enough => ?_⟩
    simp only [List.length_append, List.length_cons] at enough
    obtain ⟨calls, rfl⟩ : ∃ fewer, calls = fewer + 1 := ⟨calls - 1, by omega⟩
    obtain ⟨colon, isKey, again⟩ := backKey (w ++ ',' :: (w' ++ more))
    obtain ⟨after, again', follows⟩ := back (w' ++ more) calls (by omega)
    simp only [List.append_assoc, List.cons_append]
    rw [members, isKey]
    simp only [again, again', follows, back' more calls (by omega)]
  · obtain ⟨w, rfl, back⟩ := ih.marked isHeld soundHeld (by decide) brace
    refine ⟨k ++ ':' :: (w ++ ['}']), by simp, fun more calls enough => ?_⟩
    simp only [List.length_append, List.length_cons, List.length_nil] at enough
    obtain ⟨calls, rfl⟩ : ∃ fewer, calls = fewer + 1 := ⟨calls - 1, by omega⟩
    obtain ⟨colon, isKey, again⟩ := backKey (w ++ '}' :: more)
    obtain ⟨after, again', follows⟩ := back more calls (by omega)
    simp only [List.append_assoc, List.cons_append, List.nil_append]
    rw [members, isKey]
    simp only [again, again', follows]

theorem fronts (fuel : Nat) : Fronts fuel := by
  -- Every way of reading goes on with one call less.
  induction fuel with
  | zero =>
    refine ⟨fun found sound => ?_, fun found sound => ?_, fun found sound => ?_⟩
    · cases found
      cases sound
    · cases found
      cases sound
    · cases found
      cases sound
  | succ fuel ih => exact ⟨ih.succ_value, ih.succ_items, ih.succ_members⟩

end ServiceProxy.Json
