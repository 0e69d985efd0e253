import Mathlib.Data.List.DropRight
import Mathlib.Data.List.TakeDrop
import Mathlib.Tactic.Tauto
import ServiceProxy.Json.Reader

/-! How a data tree may be written as JSON text, with the spaces and the escapes that a writer is
free to choose. Main statement: the reader gives back the tree from every way of writing it. -/

set_option autoImplicit false

namespace ServiceProxy.Json

def Spaces (cs : List Char) : Prop := ∀ c ∈ cs, isSpace c = true

theorem skipSpace_append {gap : List Char} (spaces : Spaces gap) (cs : List Char) :
    skipSpace (gap ++ cs) = skipSpace cs := List.dropWhile_append_of_pos spaces

theorem skipSpace_cons {c : Char} (solid : isSpace c = false) (cs : List Char) :
    skipSpace (c :: cs) = c :: cs := List.dropWhile_cons_of_neg (Bool.eq_false_iff.1 solid)

theorem skipSpace_skipSpace (cs : List Char) : skipSpace (skipSpace cs) = skipSpace cs :=
  List.dropWhile_idempotent _ cs

def shortEscapes : List (Char × Char) :=
  [('"', '"'), ('\\', '\\'), ('/', '/'), ('b', '\x08'), ('f', '\x0c'), ('n', '\n'), ('r', '\r'),
    ('t', '\t')]

inductive SpellsChar : Char → List Char → Prop
  | plain {c : Char} : 0x20 ≤ c.toNat → c ≠ '"' → c ≠ '\\' → SpellsChar c [c]
  | short {c letter : Char} : (letter, c) ∈ shortEscapes → SpellsChar c ['\\', letter]
  | unit {c a b d e : Char} : unit? a b d e = some c.toNat → SpellsChar c ['\\', 'u', a, b, d, e]
  /-- Two surrogates stand for a character beyond the first plane. -/
  | pair {c a b d e a' b' d' e' : Char} {high low : Nat} :
    unit? a b d e = some high → unit? a' b' d' e' = some low →
    isHighSurrogate high = true → isLowSurrogate low = true → paired high low = c →
    SpellsChar c ['\\', 'u', a, b, d, e, '\\', 'u', a', b', d', e']

inductive SpellsText : List Char → List Char → Prop
  | nil : SpellsText [] []
  | cons {c : Char} {w : List Char} {cs ws : List Char} : SpellsChar c w → SpellsText cs ws →
    SpellsText (c :: cs) (w ++ ws)

theorem not_surrogate (c : Char) : isHighSurrogate c.toNat = false ∧ isLowSurrogate c.toNat = false := by
  have valid := c.valid
  have size : c.toNat = c.val.toNat := rfl
  simp only [UInt32.isValidChar, Nat.isValidChar] at valid
  constructor
  · simp only [isHighSurrogate, Bool.and_eq_false_iff, decide_eq_false_iff_not]
    omega
  · simp only [isLowSurrogate, Bool.and_eq_false_iff, decide_eq_false_iff_not]
    omega

theorem joinUnits?_unit (after : List Char) (c : Char) (rest : List Nat) :
    joinUnits? after (c.toNat :: rest) = joinUnits? (c :: after) rest := by
  obtain ⟨notHigh, notLow⟩ := not_surrogate c
  cases rest with
  | nil => simp [joinUnits?, notHigh, notLow, Char.ofNat_toNat]
  | cons v rest => simp [joinUnits?, notHigh, notLow, Char.ofNat_toNat]

theorem joinUnits?_pair {high low : Nat} (isHigh : isHighSurrogate high = true)
    (isLow : isLowSurrogate low = true) (after : List Char) (rest : List Nat) :
    joinUnits? after (low :: high :: rest) = joinUnits? (paired high low :: after) rest := by
  have notHigh : isHighSurrogate low = false := by
    simp only [isHighSurrogate, isLowSurrogate, Bool.and_eq_true, decide_eq_true_eq,
      Bool.and_eq_false_iff, decide_eq_false_iff_not] at isLow ⊢
    omega
  simp [joinUnits?, notHigh, isLow, isHigh]

theorem units?_short {letter c : Char} (member : (letter, c) ∈ shortEscapes) (read : List Nat)
    (rest : List Char) : units? read ('\\' :: letter :: rest) = units? (c.toNat :: read) rest := by
  simp only [shortEscapes, List.mem_cons, Prod.mk.injEq, List.not_mem_nil, or_false] at member
  rcases member with ⟨rfl, rfl⟩ | ⟨rfl, rfl⟩ | ⟨rfl, rfl⟩ | ⟨rfl, rfl⟩ | ⟨rfl, rfl⟩ | ⟨rfl, rfl⟩ |
    ⟨rfl, rfl⟩ | ⟨rfl, rfl⟩ <;> simp [units?, shortEscape?]

theorem SpellsChar.units {c : Char} {w : List Char} (spells : SpellsChar c w) :
    ∃ us, (∀ read rest, units? read (w ++ rest) = units? (us ++ read) rest) ∧
      ∀ after rest, joinUnits? after (us ++ rest) = joinUnits? (c :: after) rest := by
  cases spells with
  | plain printable notQuote notBackslash =>
    refine ⟨[c.toNat], fun read rest => ?_, fun after rest => joinUnits?_unit after c rest⟩
    have shown : ¬c.toNat < 0x20 := Nat.not_lt.2 printable
    rw [List.singleton_append, units?, if_neg shown, List.singleton_append]
    · exact notQuote
    · exact fun _ _ _ _ _ back => absurd back notBackslash
    · exact fun _ _ back => absurd back notBackslash
  | short member =>
    exact ⟨[c.toNat], fun read rest => units?_short member read rest,
      fun after rest => joinUnits?_unit after c rest⟩
  | unit value =>
    refine ⟨[c.toNat], fun read rest => ?_, fun after rest => joinUnits?_unit after c rest⟩
    simp only [List.cons_append, List.nil_append, units?, value]
  | @pair _ _ _ _ _ _ _ _ high low first second isHigh isLow joined =>
    -- The low half was read last, so it meets the high half when the units are joined.
    refine ⟨[low, high], fun read rest => ?_,
      fun after rest => joined ▸ joinUnits?_pair isHigh isLow after rest⟩
    simp only [List.cons_append, List.nil_append, units?, first, second]

theorem SpellsText.units {cs w : List Char} (spells : SpellsText cs w) :
    ∃ us, (∀ read rest, units? read (w ++ rest) = units? (us ++ read) rest) ∧
      ∀ after rest, joinUnits? after (us ++ rest) = joinUnits? (cs ++ after) rest := by
  induction spells with
  | nil => exact ⟨[], fun _ _ => rfl, fun _ _ => rfl⟩
  | cons first _ ih =>
    -- The units come in reverse, so those of the first character stand last.
    obtain ⟨head, readsHead, joinsHead⟩ := first.units
    obtain ⟨tail, readsTail, joinsTail⟩ := ih
    refine ⟨tail ++ head, fun read rest => ?_, fun after rest => ?_⟩
    · rw [List.append_assoc, readsHead, readsTail, List.append_assoc]
    · rw [List.append_assoc, joinsTail, joinsHead, List.cons_append]

theorem string?_of_spells {s : String} {w : List Char} (spells : SpellsText s.toList w) (rest : List Char) :
    string? (w ++ '"' :: rest) = some (some s, rest) := by
  obtain ⟨us, reads, joins⟩ := spells.units
  have closed : units? us ('"' :: rest) = some (us, rest) := by rw [units?]
  have joined : joinUnits? [] us = some s.toList := by
    have joined := joins [] []
    rwa [List.append_nil, List.append_nil, joinUnits?] at joined
  simp [string?, reads, closed, joined]

/-- What may follow a number: nothing, a space or a mark. -/
def Closed (cs : List Char) : Prop := ∀ c ∈ cs.head?, isSpace c = true ∨ c ∈ [',', ']', '}']

theorem closed_append {gap : List Char} (spaces : Spaces gap) {c : Char} (mark : c ∈ [',', ']', '}'])
    (rest : List Char) : Closed (gap ++ c :: rest) := by
  cases gap with
  | nil =>
    rintro _ ⟨rfl⟩
    exact .inr mark
  | cons space gap =>
    rintro _ ⟨rfl⟩
    exact .inl (spaces _ List.mem_cons_self)

theorem Closed.head {c : Char} {rest : List Char} (closed : Closed (c :: rest)) :
    c ∈ [' ', '\n', '\t', '\r', ',', ']', '}'] := by
  have mark := closed c rfl
  simp only [isSpace, Bool.or_eq_true, decide_eq_true_eq, List.mem_cons, List.not_mem_nil,
    or_false] at mark ⊢
  tauto

mutual

/-- The ways to write a value. Of the numbers only the integers without a sign are here. -/
inductive Spells : Datum → List Char → Prop
  | null : Spells .null "null".toList
  | truth (b : Bool) : Spells (.truth b) (if b then "true".toList else "false".toList)
  | integer {w : List Char} (filled : w ≠ []) (digits : ∀ c ∈ w, c.isDigit = true)
    (lead : ∀ c rest, w ≠ '0' :: c :: rest) (fits : Decimal.value w < UInt64.size) :
    Spells (.integer (Decimal.value w)) w
  | text {s : String} {w : List Char} (chars : SpellsText s.toList w) : Spells (.text s) ('"' :: (w ++ ['"']))
  | emptyList {gap : List Char} (spaces : Spaces gap) : Spells (.list .done) ('[' :: (gap ++ [']']))
  | list {items : Items} {w : List Char} (filled : SpellsItems items w) : Spells (.list items) ('[' :: w)
  | emptyRecord {gap : List Char} (spaces : Spaces gap) : Spells (.record .done) ('{' :: (gap ++ ['}']))
  | record {members : Members} {w : List Char} (filled : SpellsMembers members w) :
    Spells (.record members) ('{' :: w)

inductive Pads : Datum → List Char → Prop
  | mk {d : Datum} {before w after : List Char} (leading : Spaces before) (spells : Spells d w)
    (trailing : Spaces after) : Pads d (before ++ (w ++ after))

inductive SpellsItems : Items → List Char → Prop
  | last {d : Datum} {w : List Char} (only : Pads d w) : SpellsItems (.more d .done) (w ++ [']'])
  | more {d : Datum} {items : Items} {w rest : List Char} (first : Pads d w)
    (others : SpellsItems items rest) : SpellsItems (.more d items) (w ++ ',' :: rest)

inductive SpellsMembers : Members → List Char → Prop
  | last {key : String} {d : Datum} {k w : List Char} (named : Pads (.text key) k) (held : Pads d w) :
    SpellsMembers (.more (some key) d .done) (k ++ ':' :: (w ++ ['}']))
  | more {key : String} {d : Datum} {members : Members} {k w rest : List Char} (named : Pads (.text key) k)
    (held : Pads d w) (others : SpellsMembers members rest) :
    SpellsMembers (.more (some key) d members) (k ++ ':' :: (w ++ ',' :: rest))

end

theorem ne_of_isDigit {c mark : Char} (digit : c.isDigit = true) (other : mark.isDigit = false) :
    c ≠ mark := by
  rintro rfl
  rw [digit] at other
  cases other

theorem isSpace_of_isDigit {c : Char} (digit : c.isDigit = true) : isSpace c = false := by
  have notBlank : c ≠ ' ' := ne_of_isDigit digit rfl
  have notNewline : c ≠ '\n' := ne_of_isDigit digit rfl
  have notTab : c ≠ '\t' := ne_of_isDigit digit rfl
  have notReturn : c ≠ '\r' := ne_of_isDigit digit rfl
  simp [isSpace, notBlank, notNewline, notTab, notReturn]

theorem Spells.head {d : Datum} {w : List Char} (spells : Spells d w) :
    ∃ c rest, w = c :: rest ∧ isSpace c = false ∧ c ≠ ']' ∧ c ≠ '}' := by
  cases spells with
  | null => exact ⟨_, _, rfl, by decide⟩
  | truth b => cases b <;> exact ⟨_, _, rfl, by decide⟩
  | integer filled digits =>
    obtain ⟨c, rest, rfl⟩ := List.exists_cons_of_ne_nil filled
    have digit := digits c List.mem_cons_self
    exact ⟨c, rest, rfl, isSpace_of_isDigit digit, ne_of_isDigit digit rfl, ne_of_isDigit digit rfl⟩
  | text => exact ⟨_, _, rfl, by decide⟩
  | emptyList => exact ⟨_, _, rfl, by decide⟩
  | list => exact ⟨_, _, rfl, by decide⟩
  | emptyRecord => exact ⟨_, _, rfl, by decide⟩
  | record => exact ⟨_, _, rfl, by decide⟩

theorem Pads.head {d : Datum} {w : List Char} (pads : Pads d w) (rest : List Char) :
    ∃ c tail, skipSpace (w ++ rest) = c :: tail ∧ c ≠ ']' ∧ c ≠ '}' := by
  obtain ⟨leading, spells, trailing⟩ := pads
  obtain ⟨c, tail, rfl, solid, notBracket, notBrace⟩ := spells.head
  rw [List.append_assoc, skipSpace_append leading, List.cons_append, List.cons_append, skipSpace_cons solid]
  exact ⟨c, _, rfl, notBracket, notBrace⟩

theorem SpellsItems.head {items : Items} {w : List Char} (spells : SpellsItems items w) (rest : List Char) :
    ∃ c tail, skipSpace (w ++ rest) = c :: tail ∧ c ≠ ']' ∧ c ≠ '}' := by
  cases spells with
  | last only => rw [List.append_assoc]; exact only.head _
  | more first _ => rw [List.append_assoc]; exact first.head _

theorem SpellsMembers.head {members : Members} {w : List Char} (spells : SpellsMembers members w)
    (rest : List Char) : ∃ c tail, skipSpace (w ++ rest) = c :: tail ∧ c ≠ ']' ∧ c ≠ '}' := by
  cases spells with
  | last named _ => rw [List.append_assoc]; exact named.head _
  | more named _ _ => rw [List.append_assoc]; exact named.head _

theorem value_skipSpace (fuel : Nat) (cs : List Char) : value fuel (skipSpace cs) = value fuel cs := by
  cases fuel with
  | zero => rfl
  | succ fuel => rw [value, value, skipSpace_skipSpace]

theorem items_skipSpace (fuel : Nat) (cs : List Char) : items fuel (skipSpace cs) = items fuel cs := by
  cases fuel with
  | zero => rfl
  | succ fuel => rw [items, items, value_skipSpace]

theorem members_skipSpace (fuel : Nat) (cs : List Char) : members fuel (skipSpace cs) = members fuel cs := by
  cases fuel with
  | zero => rfl
  | succ fuel => rw [members, members, key?, key?, skipSpace_skipSpace]

theorem span_digits {w rest : List Char} (digits : ∀ c ∈ w, c.isDigit = true) (closed : Closed rest) :
    (w ++ rest).span Char.isDigit = (w, rest) := by
  have stops : rest.takeWhile Char.isDigit = [] ∧ rest.dropWhile Char.isDigit = rest := by
    cases rest with
    | nil => exact ⟨rfl, rfl⟩
    | cons c rest =>
      -- No digit is among what may follow a number.
      have notDigit : ¬c.isDigit = true := by
        have mark := closed.head
        simp only [List.mem_cons, List.not_mem_nil, or_false] at mark
        rcases mark with rfl | rfl | rfl | rfl | rfl | rfl | rfl <;> decide
      exact ⟨List.takeWhile_cons_of_neg notDigit, List.dropWhile_cons_of_neg notDigit⟩
  rw [List.span_eq_takeWhile_dropWhile, List.takeWhile_append_of_pos digits,
    List.dropWhile_append_of_pos digits, stops.1, stops.2, List.append_nil]

theorem scan?_digits {w rest : List Char} (filled : w ≠ []) (digits : ∀ c ∈ w, c.isDigit = true)
    (lead : ∀ c rest, w ≠ '0' :: c :: rest) (closed : Closed rest) :
    Numeral.scan? (w ++ rest) = some ({ negative := false, whole := w }, rest) := by
  have ends : Numeral.scanFraction? { negative := false, whole := w } rest =
      some ({ negative := false, whole := w }, rest) := by
    cases rest with
    | nil => rfl
    | cons c rest =>
      have mark := closed.head
      simp only [List.mem_cons, List.not_mem_nil, or_false] at mark
      rcases mark with rfl | rfl | rfl | rfl | rfl | rfl | rfl <;> rfl
  unfold Numeral.scan?
  split
  rename_i negative unsigned sign
  split at sign
  · rename_i minus
    obtain ⟨c, tail, rfl⟩ := List.exists_cons_of_ne_nil filled
    exact absurd (List.cons.inj minus).1 (ne_of_isDigit (digits c List.mem_cons_self) rfl)
  · obtain ⟨rfl, rfl⟩ := Prod.mk.inj sign
    simp only [span_digits digits closed]
    exact ends

theorem value_scalar {c : Char} (solid : isSpace c = false) (noList : c ≠ '[') (noRecord : c ≠ '{') (fuel : Nat)
    (cs : List Char) : value (fuel + 1) (c :: cs) = (scalar? (c :: cs)).getD (.fault, []) := by
  rw [value, skipSpace_cons solid]
  split
  · rename_i start; exact absurd (List.cons.inj start).1 noList
  · rename_i start; exact absurd (List.cons.inj start).1 noRecord
  · rfl

theorem scalar?_of_isDigit {c : Char} (digit : c.isDigit = true) (cs : List Char) :
    scalar? (c :: cs) = (Numeral.scan? (c :: cs)).map fun scanned => (scanned.1.datum, scanned.2) := by
  have other {mark : Char} (other : mark.isDigit = false) {rest : List Char} (same : c :: cs = mark :: rest) :
      False := ne_of_isDigit digit other (List.cons.inj same).1
  rw [scalar?]
  · cases Numeral.scan? (c :: cs) <;> rfl
  · exact fun _ same => other rfl same
  · exact fun _ same => other rfl same
  · exact fun _ same => other rfl same
  · exact fun _ same => other rfl same

theorem value_list {c : Char} {cs tail : List Char} (starts : skipSpace cs = c :: tail) (notBracket : c ≠ ']')
    (fuel : Nat) : value (fuel + 1) ('[' :: cs) = (.list (items fuel cs).1, (items fuel cs).2) := by
  rw [value, skipSpace_cons (by decide), ← items_skipSpace fuel cs]
  simp only [starts]
  split
  · rename_i bracket
    exact absurd (List.cons.inj bracket).1 notBracket
  · rfl

theorem value_record {c : Char} {cs tail : List Char} (starts : skipSpace cs = c :: tail) (notBrace : c ≠ '}')
    (fuel : Nat) : value (fuel + 1) ('{' :: cs) = (.record (members fuel cs).1, (members fuel cs).2) := by
  rw [value, skipSpace_cons (by decide), ← members_skipSpace fuel cs]
  simp only [starts]
  split
  · rename_i brace
    exact absurd (List.cons.inj brace).1 notBrace
  · rfl

theorem Numeral.datum_digits {w : List Char} (fits : Decimal.value w < UInt64.size) :
    Numeral.datum { negative := false, whole := w } = .integer (Decimal.value w) := by
  simp [Numeral.datum, fits]

/-- What is written is read, whatever comes after it, with two calls for each character. -/
structure Reads (fuel : Nat) : Prop where
  ofValue {d : Datum} {w rest : List Char} : Spells d w → Closed rest → 2 * w.length < fuel →
    value fuel (w ++ rest) = (d, rest)
  ofItems {read : Items} {w rest : List Char} : SpellsItems read w → 2 * w.length + 1 < fuel →
    items fuel (w ++ rest) = (read, rest)
  ofMembers {read : Members} {w rest : List Char} : SpellsMembers read w → 2 * w.length + 1 < fuel →
    members fuel (w ++ rest) = (read, rest)

variable {fuel : Nat}

theorem Reads.padded (reads : Reads fuel) {d : Datum} {w : List Char} (pads : Pads d w) {mark : Char}
    (isMark : mark ∈ [',', ']', '}']) (rest : List Char) (enough : 2 * w.length < fuel) :
    ∃ after, value fuel (w ++ mark :: rest) = (d, after) ∧ skipSpace after = mark :: rest := by
  obtain ⟨leading, spells, trailing⟩ := pads
  rename_i before w after
  -- The spaces behind the value are left to the reader of the mark.
  refine ⟨after ++ mark :: rest, ?_, ?_⟩
  · rw [← value_skipSpace, List.append_assoc, skipSpace_append leading, value_skipSpace, List.append_assoc]
    refine reads.ofValue spells (closed_append trailing isMark rest) ?_
    simp only [List.length_append] at enough
    omega
  · rw [skipSpace_append trailing, skipSpace_cons]
    simp only [List.mem_cons, List.not_mem_nil, or_false] at isMark
    rcases isMark with rfl | rfl | rfl <;> decide

theorem key?_of_pads {key : String} {k : List Char} (pads : Pads (.text key) k) (rest : List Char) :
    ∃ after, key? (k ++ ':' :: rest) = some (some key, after) ∧ skipSpace after = ':' :: rest := by
  obtain ⟨leading, spells, trailing⟩ := pads
  cases spells with
  | text chars =>
    rename_i before after w
    refine ⟨after ++ ':' :: rest, ?_, ?_⟩
    · rw [key?, List.append_assoc, skipSpace_append leading, List.cons_append, List.cons_append,
        skipSpace_cons (by decide)]
      simp only [List.append_assoc, List.cons_append, List.nil_append]
      exact string?_of_spells chars _
    · rw [skipSpace_append trailing, skipSpace_cons (by decide)]

theorem Reads.succ_value (reads : Reads fuel) {d : Datum} {w rest : List Char} (spells : Spells d w)
    (closed : Closed rest) (enough : 2 * w.length < fuel + 1) : value (fuel + 1) (w ++ rest) = (d, rest) := by
  cases spells with
  | null => rfl
  | truth b => cases b <;> rfl
  | integer filled digits lead fits =>
    have scanned := scan?_digits filled digits lead closed
    obtain ⟨c, tail, rfl⟩ := List.exists_cons_of_ne_nil filled
    have digit := digits c List.mem_cons_self
    rw [List.cons_append] at scanned ⊢
    rw [value_scalar (isSpace_of_isDigit digit) (ne_of_isDigit digit rfl) (ne_of_isDigit digit rfl),
      scalar?_of_isDigit digit, scanned]
    simp only [Option.map_some, Option.getD_some, Numeral.datum_digits fits]
  | text chars =>
    rw [List.cons_append, List.append_assoc, List.singleton_append,
      value_scalar (by decide) (by decide) (by decide)]
    simp only [scalar?, string?_of_spells chars]
    rfl
  | emptyList spaces =>
    rw [List.cons_append, List.append_assoc, List.singleton_append, value, skipSpace_cons (by decide)]
    simp only [skipSpace_append spaces, skipSpace_cons (show isSpace ']' = false by decide)]
  | list filled =>
    obtain ⟨c, tail, starts, notBracket, -⟩ := filled.head rest
    simp only [List.length_cons] at enough
    rw [List.cons_append, value_list starts notBracket, reads.ofItems filled (by omega)]
  | emptyRecord spaces =>
    rw [List.cons_append, List.append_assoc, List.singleton_append, value, skipSpace_cons (by decide)]
    simp only [skipSpace_append spaces, skipSpace_cons (show isSpace '}' = false by decide)]
  | record filled =>
    obtain ⟨c, tail, starts, -, notBrace⟩ := filled.head rest
    simp only [List.length_cons] at enough
    rw [List.cons_append, value_record starts notBrace, reads.ofMembers filled (by omega)]

theorem Reads.succ_items (reads : Reads fuel) {read : Items} {w rest : List Char} (spells : SpellsItems read w)
    (enough : 2 * w.length + 1 < fuel + 1) : items (fuel + 1) (w ++ rest) = (read, rest) := by
  cases spells with
  | last only =>
    rename_i d w
    simp only [List.length_append, List.length_singleton] at enough
    obtain ⟨after, held, next⟩ := reads.padded only (by decide : ']' ∈ [',', ']', '}']) rest (by omega)
    rw [List.append_assoc, List.singleton_append, items, held]
    simp only [next]
  | more first others =>
    rename_i d read w others'
    simp only [List.length_append, List.length_cons] at enough
    obtain ⟨after, held, next⟩ :=
      reads.padded first (by decide : ',' ∈ [',', ']', '}']) (others' ++ rest) (by omega)
    rw [List.append_assoc, List.cons_append, items, held]
    simp only [next, reads.ofItems others (by omega)]

theorem Reads.succ_members (reads : Reads fuel) {read : Members} {w rest : List Char}
    (spells : SpellsMembers read w) (enough : 2 * w.length + 1 < fuel + 1) :
    members (fuel + 1) (w ++ rest) = (read, rest) := by
  cases spells with
  | last named held =>
    rename_i key d k w
    simp only [List.length_append, List.length_cons, List.length_nil] at enough
    obtain ⟨afterKey, isKey, colon⟩ := key?_of_pads named (w ++ '}' :: rest)
    obtain ⟨after, held, next⟩ := reads.padded held (by decide : '}' ∈ [',', ']', '}']) rest (by omega)
    simp only [List.append_assoc, List.cons_append, List.nil_append]
    rw [members, isKey]
    simp only [colon, held, next]
  | more named held others =>
    rename_i key d read k w others'
    simp only [List.length_append, List.length_cons] at enough
    obtain ⟨afterKey, isKey, colon⟩ := key?_of_pads named (w ++ ',' :: (others' ++ rest))
    obtain ⟨after, held, next⟩ :=
      reads.padded held (by decide : ',' ∈ [',', ']', '}']) (others' ++ rest) (by omega)
    simp only [List.append_assoc, List.cons_append]
    rw [members, isKey]
    simp only [colon, held, next, reads.ofMembers others (by omega)]

theorem reads (fuel : Nat) : Reads fuel := by
  -- Every way of reading goes on with one call less.
  induction fuel with
  | zero =>
    exact ⟨fun _ _ enough => absurd enough (Nat.not_lt_zero _), fun _ enough => absurd enough (Nat.not_lt_zero _),
      fun _ enough => absurd enough (Nat.not_lt_zero _)⟩
  | succ fuel ih => exact ⟨ih.succ_value, ih.succ_items, ih.succ_members⟩

def Writes (d : Datum) (text : String) : Prop := Pads d text.toList

theorem read_of_writes {d : Datum} {text : String} (writes : Writes d text) : read text = ⟨d, true⟩ := by
  unfold read
  unfold Writes at writes
  generalize text.toList = cs at writes ⊢
  obtain ⟨leading, spells, trailing⟩ := writes
  rename_i before w after
  have ends : Closed after := by
    intro c first
    exact .inl (trailing c (List.mem_of_mem_head? first))
  have blank : skipSpace after = [] := List.dropWhile_eq_nil_iff.2 trailing
  have readsOut : value (2 * (before ++ (w ++ after)).length + 2) (before ++ (w ++ after)) = (d, after) := by
    rw [← value_skipSpace, skipSpace_append leading, value_skipSpace]
    refine (reads _).ofValue spells ends ?_
    simp only [List.length_append]
    omega
  simp only [readsOut, blank, List.isEmpty_nil]

end ServiceProxy.Json
