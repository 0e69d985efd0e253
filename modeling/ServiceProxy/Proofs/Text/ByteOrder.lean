import Mathlib.Tactic.SplitIfs

/-! The byte order of texts. UTF-8 keeps the order of characters: of two characters the one that
comes first has the smaller byte at the first place where their codes differ. So texts are ordered
by their bytes as they are by their characters. -/

set_option autoImplicit false

namespace ServiceProxy.Text

def bytes (text : String) : List UInt8 := text.toUTF8.data.toList

theorem bytes_eq_flatMap (text : String) : bytes text = text.toList.flatMap String.utf8EncodeChar := by
  have encoded : text.toUTF8.data = (text.toList.flatMap String.utf8EncodeChar).toArray := by
    conv => lhs; rw [← String.ofList_toList (s := text)]
    exact congrArg ByteArray.data String.toByteArray_ofList |>.trans List.data_toByteArray
  rw [bytes, encoded, List.toList_toArray]

theorem ofNat_cons_lt_ofNat_cons {a b : Nat} (ha : a < 256) (hb : b < 256) (as bs : List UInt8) :
    UInt8.ofNat a :: as < UInt8.ofNat b :: bs ↔ a < b ∨ a = b ∧ as < bs := by
  rw [List.cons_lt_cons_iff, UInt8.lt_iff_toNat_lt, ← UInt8.toNat_inj, UInt8.toNat_ofNat',
    UInt8.toNat_ofNat', Nat.mod_eq_of_lt ha, Nat.mod_eq_of_lt hb]

/-- The codes of two characters decide their order, whatever follows them. -/
theorem utf8EncodeChar_append_lt {a b : Char} (before : a < b) (as bs : List UInt8) :
    String.utf8EncodeChar a ++ as < String.utf8EncodeChar b ++ bs := by
  have less : a.val.toNat < b.val.toNat := UInt32.lt_iff_toNat_lt.1 before
  have bound : b.val.toNat < 0x110000 := by
    have valid := b.valid
    simp only [UInt32.isValidChar, Nat.isValidChar] at valid
    omega
  -- A code is made of digits to the base 64, except that the first of four is less than 8.
  have digits (n : Nat) (small : n < 0x110000) :
      n / 64 / 64 = n / 4096 ∧ n / 4096 / 64 = n / 262144 ∧ n / 262144 % 8 = n / 262144 :=
    ⟨Nat.div_div_eq_div_mul n 64 64, Nat.div_div_eq_div_mul n 4096 64, Nat.mod_eq_of_lt (by omega)⟩
  unfold String.utf8EncodeChar
  generalize a.val.toNat = v at less
  generalize b.val.toNat = w at less bound
  have first := digits v (Nat.lt_trans less bound)
  have second := digits w bound
  dsimp only
  split_ifs <;>
    simp (disch := omega) only [List.cons_append, List.nil_append, ofNat_cons_lt_ofNat_cons] <;> omega

theorem flatMap_utf8EncodeChar_lt {as bs : List Char} (before : as < bs) :
    as.flatMap String.utf8EncodeChar < bs.flatMap String.utf8EncodeChar := by
  induction as generalizing bs with
  | nil =>
    cases bs with
    | nil => exact absurd before (List.lt_irrefl [])
    | cons b bs =>
      rw [List.flatMap_nil, List.flatMap_cons]
      obtain ⟨byte, rest, code⟩ := List.exists_cons_of_ne_nil (String.utf8EncodeChar_ne_nil (c := b))
      rw [code, List.cons_append]
      exact List.nil_lt_cons byte _
  | cons a as ih =>
    cases bs with
    | nil => exact absurd before (List.not_lt_nil _)
    | cons b bs =>
      rw [List.flatMap_cons, List.flatMap_cons]
      rcases List.cons_lt_cons_iff.1 before with first | ⟨rfl, rest⟩
      · exact utf8EncodeChar_append_lt first _ _
      · exact List.append_left_lt (ih rest)

theorem bytes_lt_of_lt {s t : String} (before : s < t) : bytes s < bytes t := by
  rw [bytes_eq_flatMap, bytes_eq_flatMap]
  exact flatMap_utf8EncodeChar_lt before

theorem bytes_lt_iff (s t : String) : bytes s < bytes t ↔ s < t := by
  refine ⟨fun before => Decidable.byContradiction fun after => ?_, bytes_lt_of_lt⟩
  by_cases same : s = t
  · exact List.lt_irrefl _ (same ▸ before)
  · have reversed : t < s := Std.lt_of_le_of_ne (String.not_lt.1 after) (Ne.symm same)
    exact List.lt_asymm before (bytes_lt_of_lt reversed)

end ServiceProxy.Text
