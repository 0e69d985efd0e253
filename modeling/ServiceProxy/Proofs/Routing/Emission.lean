import Mathlib.Data.List.Infix
import Mathlib.Tactic.Tauto
import ServiceProxy.Proofs.Routing.Enumeration

/-! The order in which entries come out, read off their keys. Main statement: families come first,
then ports as texts of digits, of which one that goes on comes before one that ends, then
protocols. -/

set_option autoImplicit false

namespace ServiceProxy

def Family.rank : Family → Nat
  | .ipv4 => 0
  | .ipv6 => 1

def Protocol.rank : Protocol → Nat
  | .sctp => 0
  | .tcp => 1
  | .udp => 2

namespace Routing

/-- The first text has the smaller digit where the two part, or goes on where the second ends. -/
def DigitsBefore (ds es : List Char) : Prop :=
  (∃ common d e, d < e ∧ common ++ [d] <+: ds ∧ common ++ [e] <+: es) ∨ es <+: ds ∧ es ≠ ds

theorem not_digitsBefore_nil (es : List Char) : ¬DigitsBefore [] es := by
  rintro (⟨common, d, e, -, first, -⟩ | ⟨short, other⟩)
  · exact absurd (List.prefix_nil.1 first) (by simp)
  · exact other (List.prefix_nil.1 short)

theorem digitsBefore_nil (d : Char) (ds : List Char) : DigitsBefore (d :: ds) [] :=
  .inr ⟨List.nil_prefix, nofun⟩

theorem digitsBefore_cons (d e : Char) (ds es : List Char) :
    DigitsBefore (d :: ds) (e :: es) ↔ d < e ∨ d = e ∧ DigitsBefore ds es := by
  constructor
  · rintro (⟨common, x, y, less, first, second⟩ | ⟨short, other⟩)
    · cases common with
      | nil =>
        obtain rfl := (List.cons_prefix_cons.1 first).1
        obtain rfl := (List.cons_prefix_cons.1 second).1
        exact .inl less
      | cons c common =>
        obtain ⟨rfl, inFirst⟩ := List.cons_prefix_cons.1 first
        obtain ⟨rfl, inSecond⟩ := List.cons_prefix_cons.1 second
        exact .inr ⟨rfl, .inl ⟨common, x, y, less, inFirst, inSecond⟩⟩
    · obtain ⟨rfl, shorter⟩ := List.cons_prefix_cons.1 short
      exact .inr ⟨rfl, .inr ⟨shorter, fun same => other (same ▸ rfl)⟩⟩
  · rintro (less | ⟨rfl, ⟨common, x, y, less, first, second⟩ | ⟨short, other⟩⟩)
    · exact .inl ⟨[], d, e, less, by simp, by simp⟩
    · exact .inl ⟨d :: common, x, y, less, List.cons_prefix_cons.2 ⟨rfl, first⟩,
        List.cons_prefix_cons.2 ⟨rfl, second⟩⟩
    · exact .inr ⟨List.cons_prefix_cons.2 ⟨rfl, short⟩, fun same => other (List.cons.inj same).2⟩

/-- A mark greater than all digits ends a text of digits later than any digit would. -/
theorem append_mark_lt_iff {mark : Char} {ds es : List Char} (first : ∀ d ∈ ds, d < mark)
    (second : ∀ e ∈ es, e < mark) (xs ys : List Char) :
    ds ++ mark :: xs < es ++ mark :: ys ↔ DigitsBefore ds es ∨ ds = es ∧ xs < ys := by
  induction ds generalizing es with
  | nil =>
    cases es with
    | nil => simp [not_digitsBefore_nil]
    | cons e es =>
      have less : e < mark := second e List.mem_cons_self
      have notAfter : ¬mark < e := Char.lt_asymm less
      simp [not_digitsBefore_nil, List.cons_lt_cons_iff, notAfter, (Char.ne_of_lt less).symm]
  | cons d ds ih =>
    have less : d < mark := first d List.mem_cons_self
    cases es with
    | nil => simp [digitsBefore_nil, List.cons_lt_cons_iff, less]
    | cons e es =>
      have rest := ih (List.forall_mem_cons.1 first).2 (List.forall_mem_cons.1 second).2
      rw [List.cons_append, List.cons_append, List.cons_lt_cons_iff, digitsBefore_cons, rest, List.cons.injEq]
      tauto

theorem DigitsBefore.irrefl (ds : List Char) : ¬DigitsBefore ds ds := by
  induction ds with
  | nil => exact not_digitsBefore_nil []
  | cons d ds ih => simp [digitsBefore_cons, ih]

namespace Key

def digits (k : Key) : List Char := (Decimal.port k.port).toList

def Precedes (k l : Key) : Prop :=
  k.family.rank < l.family.rank ∨
  k.family = l.family ∧ k.port ≠ l.port ∧ DigitsBefore k.digits l.digits ∨
  k.family = l.family ∧ k.port = l.port ∧ k.protocol.rank < l.protocol.rank

theorem toList_text (k : Key) :
    k.text.toList = k.family.name.toList ++ '_' :: (k.digits ++ '_' :: k.protocol.name.toList) := by
  simp [text, digits]

theorem digits_eq_iff {k l : Key} : k.digits = l.digits ↔ k.port = l.port := by
  constructor
  · intro same
    exact UInt16.toNat_inj.1 (Decimal.text_injective (String.toList_inj.1 same))
  · intro same
    rw [digits, digits, same]

theorem lt_underscore_of_mem_digits {k : Key} {d : Char} (member : d ∈ k.digits) : d < '_' := by
  have digit := Decimal.isDigit_of_mem_text member
  rw [Char.isDigit_iff_toNat] at digit
  rw [Char.lt_def, UInt32.lt_iff_toNat_lt]
  exact Nat.lt_of_le_of_lt digit.2 (by decide)

theorem family_append_lt_iff (f g : Family) (xs ys : List Char) :
    f.name.toList ++ xs < g.name.toList ++ ys ↔ f.rank < g.rank ∨ f = g ∧ xs < ys := by
  cases f <;> cases g <;> simp [Family.name, Family.rank, List.cons_lt_cons_iff]

theorem protocol_lt_iff (p q : Protocol) : p.name.toList < q.name.toList ↔ p.rank < q.rank := by
  cases p <;> cases q <;> decide

theorem text_lt_iff (k l : Key) : k.text < l.text ↔ k.Precedes l := by
  have other : DigitsBefore k.digits l.digits ↔ k.port ≠ l.port ∧ DigitsBefore k.digits l.digits := by
    refine ⟨fun before => ⟨fun same => ?_, before⟩, And.right⟩
    rw [digits_eq_iff.2 same] at before
    exact DigitsBefore.irrefl _ before
  have byDigits := append_mark_lt_iff (fun _ => lt_underscore_of_mem_digits (k := k))
    (fun _ => lt_underscore_of_mem_digits (k := l)) k.protocol.name.toList l.protocol.name.toList
  change k.text.toList < l.text.toList ↔ _
  rw [toList_text, toList_text, family_append_lt_iff, List.cons_lt_cons_iff, byDigits, digits_eq_iff,
    protocol_lt_iff, Precedes, ← and_or_left, ← other]
  simp only [Char.lt_irrefl, false_or, true_and]

theorem Precedes.asymm {k l : Key} (before : k.Precedes l) : ¬l.Precedes k := by
  rw [← text_lt_iff] at before ⊢
  exact String.lt_asymm before

theorem precedes_of_not_precedes {k l : Key} (different : k ≠ l) (after : ¬l.Precedes k) : k.Precedes l := by
  rw [← text_lt_iff] at after ⊢
  exact Std.lt_of_le_of_ne (String.not_lt.1 after) fun same => different (text_injective same)

end Key

namespace Model

variable {m : Model} {k l : Key} {e f : Entry}

theorem mem_sortedEntries_of_find? (held : m.find? k = some e) : (k.text, e) ∈ m.sortedEntries :=
  m.perm_sortedEntries.mem_iff.2 (List.mem_map.2 ⟨(k, e), mem_entries_iff.2 held, rfl⟩)

theorem sublist_sortedEntries {a b : String × Entry} (first : a ∈ m.sortedEntries)
    (second : b ∈ m.sortedEntries) (less : a.1 < b.1) : [a, b].Sublist m.sortedEntries := by
  have ascending := m.sortedEntries_ascending
  obtain ⟨earlier, later, split⟩ := List.append_of_mem first
  rw [split] at ascending second ⊢
  have notEarlier : b ∉ earlier := by
    rw [mem_earlier_iff List.lt_asymm ascending second]
    exact List.lt_asymm (Text.bytes_lt_of_lt less)
  have notSame : b ≠ a := by
    rintro rfl
    exact String.lt_irrefl _ less
  have isLater : b ∈ later := by
    have behind := (List.mem_append.1 second).resolve_left notEarlier
    exact (List.mem_cons.1 behind).resolve_left notSame
  exact ((List.singleton_sublist.2 isLater).cons_cons a).trans (List.sublist_append_right _ _)

/-- Of two entries that a model holds, the one comes out first whose key precedes the other's. So
of two keys that differ one always precedes the other, and only one. -/
theorem emitted_before_iff (first : m.find? k = some e) (second : m.find? l = some f) :
    ([(k.text, e), (l.text, f)].Sublist m.sortedEntries ↔ k.Precedes l) ∧
    (k ≠ l → (k.Precedes l ↔ ¬l.Precedes k)) := by
  refine ⟨⟨fun inOrder => ?_, fun before => ?_⟩, fun different => ?_⟩
  · have ascending := List.pairwise_iff_forall_sublist.1 m.sortedEntries_ascending inOrder
    exact (Key.text_lt_iff k l).1 ((Text.bytes_lt_iff _ _).1 ascending)
  · exact sublist_sortedEntries (mem_sortedEntries_of_find? first) (mem_sortedEntries_of_find? second)
      ((Key.text_lt_iff k l).2 before)
  · exact ⟨Key.Precedes.asymm, Key.precedes_of_not_precedes different⟩

/-- The longer number comes first, since the shorter one is a part of it. -/
theorem emitted_before_twoPorts :
    (ofHistory 32000 twoPorts.reverse).find? ⟨.ipv4, 8080, .tcp⟩ =
      some ⟨⟨"0.0.0.0", 8080, .tcp⟩, [⟨"10.0.0.1", 30080, .tcp⟩]⟩ ∧
    (ofHistory 32000 twoPorts.reverse).find? ⟨.ipv4, 80, .tcp⟩ = some ⟨⟨"0.0.0.0", 80, .tcp⟩, []⟩ ∧
    [("IPv4_8080_TCP", ⟨⟨"0.0.0.0", 8080, .tcp⟩, [⟨"10.0.0.1", 30080, .tcp⟩]⟩),
      ("IPv4_80_TCP", ⟨⟨"0.0.0.0", 80, .tcp⟩, []⟩)].Sublist (ofHistory 32000 twoPorts.reverse).sortedEntries ∧
    ¬Key.Precedes ⟨.ipv4, 80, .tcp⟩ ⟨.ipv4, 8080, .tcp⟩ := by
  have long : (ofHistory 32000 twoPorts.reverse).find? ⟨.ipv4, 8080, .tcp⟩ =
      some ⟨⟨"0.0.0.0", 8080, .tcp⟩, [⟨"10.0.0.1", 30080, .tcp⟩]⟩ := by decide
  have short : (ofHistory 32000 twoPorts.reverse).find? ⟨.ipv4, 80, .tcp⟩ =
      some ⟨⟨"0.0.0.0", 80, .tcp⟩, []⟩ := by decide
  obtain ⟨inOrder, strict⟩ := emitted_before_iff long short
  have before : Key.Precedes ⟨.ipv4, 8080, .tcp⟩ ⟨.ipv4, 80, .tcp⟩ :=
    .inr (.inl ⟨rfl, by decide, .inr ⟨by decide, by decide⟩⟩)
  exact ⟨long, short, inOrder.2 before, (strict (by decide)).1 before⟩

end Model

end Routing

end ServiceProxy
