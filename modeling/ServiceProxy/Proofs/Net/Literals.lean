import ServiceProxy.Document.Scalar
import ServiceProxy.Net.Literal

/-! What IP literals look like. They hold hexadecimal digits, colons and dots only, and at least
one colon or dot, so every literal is a plain scalar. A literal that ends in a colon ends in two. -/

set_option autoImplicit false

namespace ServiceProxy.Literal

/-! ## Pieces between separators -/

theorem mem_splitOn {sep c : Char} {text : List Char} (member : c ∈ text) :
    c = sep ∨ ∃ piece ∈ text.splitOn sep, c ∈ piece := by
  -- The text is its pieces joined again, so the induction is on the pieces.
  have joined : [sep].intercalate (text.splitOn sep) = text := List.intercalate_splitOn sep
  rw [← joined] at member
  generalize text.splitOn sep = pieces at member
  induction pieces with
  | nil => simp at member
  | cons piece rest ih =>
    cases rest with
    | nil => exact .inr ⟨piece, List.mem_cons_self, by simpa using member⟩
    | cons next more =>
      rw [List.intercalate_cons_cons, List.mem_append, List.mem_append, List.mem_singleton] at member
      rcases member with (inPiece | isSep) | inRest
      · exact .inr ⟨piece, List.mem_cons_self, inPiece⟩
      · exact .inl isSep
      · rcases ih inRest with isSep | ⟨other, isPiece, inOther⟩
        · exact .inl isSep
        · exact .inr ⟨other, List.mem_cons_of_mem _ isPiece, inOther⟩

theorem nil_mem_splitOn (sep : Char) (text : List Char) : [] ∈ (text ++ [sep]).splitOn sep := by
  rw [List.splitOn_append_cons_self]
  exact List.mem_append_right _ List.mem_cons_self

/-! ## Characters -/

def alphabet : List Char := "0123456789abcdefABCDEF:.".toList

theorem mem_alphabet_of_isHexDigit {c : Char} (digit : isHexDigit c = true) : c ∈ alphabet := by
  -- Hexadecimal digits are ASCII, and below 128 the characters are checked one by one.
  have small : c.toNat < 128 := by
    simp only [isHexDigit, Char.isDigit, Bool.or_eq_true, Bool.and_eq_true, decide_eq_true_eq] at digit
    rcases digit with (⟨-, upper⟩ | ⟨-, upper⟩) | ⟨-, upper⟩ <;>
      exact Nat.lt_of_le_of_lt upper (by decide)
  have all : ∀ n < 128, isHexDigit (Char.ofNat n) = true → Char.ofNat n ∈ alphabet := by decide
  have spelt := all c.toNat small
  rw [Char.ofNat_toNat] at spelt
  exact spelt digit

theorem isHexDigit_of_isOctet {digits : List Char} (octet : isOctet digits = true) :
    ∀ c ∈ digits, isHexDigit c = true := by
  unfold isOctet at octet
  split at octet
  · cases octet
  · rw [List.forall_mem_singleton]
    rfl
  · simp only [Bool.and_eq_true, List.all_eq_true] at octet
    intro c member
    simp [isHexDigit, octet.1.2 c member]

theorem isHexDigit_of_isGroup {digits : List Char} (group : isGroup digits = true) :
    ∀ c ∈ digits, isHexDigit c = true := by
  simp only [isGroup, Bool.and_eq_true, List.all_eq_true] at group
  exact group.2

theorem ne_nil_of_isGroup {digits : List Char} (group : isGroup digits = true) : digits ≠ [] := by
  rintro rfl
  cases group

theorem alphabet_of_isIPv4 {text : List Char} (literal : isIPv4 text = true) :
    ∀ c ∈ text, c ∈ alphabet := by
  simp only [isIPv4, Bool.and_eq_true, List.all_eq_true] at literal
  intro c member
  rcases @mem_splitOn '.' _ _ member with rfl | ⟨octet, isPiece, inOctet⟩
  · decide
  · exact mem_alphabet_of_isHexDigit (isHexDigit_of_isOctet (literal.2 octet isPiece) c inOctet)

theorem not_colon_of_isIPv4 {text : List Char} (literal : isIPv4 text = true) : ':' ∉ text := by
  simp only [isIPv4, Bool.and_eq_true, List.all_eq_true] at literal
  intro member
  rcases @mem_splitOn '.' _ _ member with dot | ⟨octet, isPiece, inOctet⟩
  · revert dot
    decide
  · have digit := isHexDigit_of_isOctet (literal.2 octet isPiece) ':' inOctet
    revert digit
    decide

theorem dot_mem_of_isIPv4 {text : List Char} (literal : isIPv4 text = true) : '.' ∈ text := by
  simp only [isIPv4, Bool.and_eq_true, beq_iff_eq] at literal
  by_cases dot : '.' ∈ text
  · exact dot
  · rw [List.splitOn_eq_singleton dot] at literal
    cases literal.1

theorem piece_of_groupCount? {tail : Bool} {pieces : List (List Char)} {n : Nat}
    (count : groupCount? tail pieces = some n) :
    ∀ piece ∈ pieces, isGroup piece = true ∨ isIPv4 piece = true := by
  fun_induction groupCount? tail pieces generalizing n with
  | case1 => simp
  | case2 last group => simpa using .inl group
  | case3 last group fourth =>
    simp only [Bool.and_eq_true] at fourth
    simpa using .inr fourth.2
  | case4 => cases count
  | case5 piece rest other group ih =>
    obtain ⟨m, counted, -⟩ := Option.map_eq_some_iff.1 count
    exact List.forall_mem_cons.2 ⟨.inl group, ih counted⟩
  | case6 => cases count

theorem alphabet_of_piece {piece : List Char} (valid : isGroup piece = true ∨ isIPv4 piece = true) :
    ∀ c ∈ piece, c ∈ alphabet := by
  rcases valid with group | fourth
  · exact fun c member => mem_alphabet_of_isHexDigit (isHexDigit_of_isGroup group c member)
  · exact alphabet_of_isIPv4 fourth

theorem piece_ne_nil {piece : List Char} (valid : isGroup piece = true ∨ isIPv4 piece = true) :
    piece ≠ [] := by
  rcases valid with group | fourth
  · exact ne_nil_of_isGroup group
  · exact List.ne_nil_of_mem (dot_mem_of_isIPv4 fourth)

theorem alphabet_of_groupCount? {tail : Bool} {text : List Char} {n : Nat}
    (count : groupCount? tail (text.splitOn ':') = some n) : ∀ c ∈ text, c ∈ alphabet := by
  intro c member
  rcases @mem_splitOn ':' _ _ member with rfl | ⟨piece, isPiece, inPiece⟩
  · decide
  · exact alphabet_of_piece (piece_of_groupCount? count piece isPiece) c inPiece

/-- No piece is empty, so groups do not end in a colon. -/
theorem not_endsColon_of_groupCount? {tail : Bool} {text : List Char} {n : Nat} :
    groupCount? tail ((text ++ [':']).splitOn ':') ≠ some n := fun count =>
  piece_ne_nil (piece_of_groupCount? count [] (nil_mem_splitOn ':' text)) rfl

theorem alphabet_of_sideCount? {tail : Bool} {side : List Char} {n : Nat}
    (count : sideCount? tail side = some n) : ∀ c ∈ side, c ∈ alphabet := by
  unfold sideCount? at count
  split at count
  · rename_i empty
    rw [List.isEmpty_iff.1 empty]
    intro c member
    cases member
  · exact alphabet_of_groupCount? count

theorem eq_of_splitGap? {text head tail : List Char} (gap : splitGap? text = some (head, tail)) :
    text = head ++ ':' :: ':' :: tail := by
  fun_induction splitGap? text generalizing head tail with
  | case1 => cases gap
  | case2 => cases gap
  | case3 rest =>
    obtain ⟨rfl, rfl⟩ := Prod.mk.inj (Option.some.inj gap)
    rfl
  | case4 c rest _ _ ih =>
    obtain ⟨⟨first, last⟩, found, same⟩ := Option.map_eq_some_iff.1 gap
    obtain ⟨rfl, rfl⟩ := Prod.mk.inj same
    rw [ih found, List.cons_append]

/-- An IPv6 literal is a list of groups, or two sides of a gap. -/
theorem isIPv6_cases {text : List Char} (literal : isIPv6 text = true) :
    groupCount? true (text.splitOn ':') = some 8 ∨
      ∃ head tail m n, text = head ++ ':' :: ':' :: tail ∧ sideCount? false head = some m ∧
        sideCount? true tail = some n := by
  unfold isIPv6 at literal
  split at literal
  · exact .inl (beq_iff_eq.1 literal)
  · rename_i head tail gap
    split at literal
    · rename_i m n first last
      exact .inr ⟨head, tail, m, n, eq_of_splitGap? gap, first, last⟩
    · cases literal

theorem alphabet_of_isIPv6 {text : List Char} (literal : isIPv6 text = true) :
    ∀ c ∈ text, c ∈ alphabet := by
  rcases isIPv6_cases literal with groups | ⟨head, tail, m, n, rfl, first, last⟩
  · exact alphabet_of_groupCount? groups
  · have colon : ':' ∈ alphabet := by decide
    have tail : ∀ c ∈ ':' :: ':' :: tail, c ∈ alphabet :=
      List.forall_mem_cons.2 ⟨colon, List.forall_mem_cons.2 ⟨colon, alphabet_of_sideCount? last⟩⟩
    exact List.forall_mem_append.2 ⟨alphabet_of_sideCount? first, tail⟩

theorem colon_mem_of_isIPv6 {text : List Char} (literal : isIPv6 text = true) : ':' ∈ text := by
  rcases isIPv6_cases literal with groups | ⟨head, tail, m, n, rfl, first, last⟩
  · by_cases colon : ':' ∈ text
    · exact colon
    · -- Without a colon there is one piece, which counts for two groups at most.
      rw [List.splitOn_eq_singleton colon, groupCount?] at groups
      split at groups
      · cases groups
      · split at groups <;> cases groups
  · simp

theorem endsGap_of_isIPv6 {text : List Char} (literal : isIPv6 (text ++ [':']) = true) :
    ∃ head, text ++ [':'] = head ++ [':', ':'] := by
  rcases isIPv6_cases literal with groups | ⟨head, tail, m, n, split, first, last⟩
  · exact absurd groups not_endsColon_of_groupCount?
  · -- The last colon belongs to the gap or ends the second side, and no side ends in a colon.
    rcases List.eq_nil_or_concat tail with rfl | ⟨front, c, rfl⟩
    · exact ⟨head, split⟩
    · rw [List.concat_eq_append] at split last
      have same : text ++ [':'] = (head ++ ':' :: ':' :: front) ++ [c] := by simpa using split
      obtain ⟨-, ends⟩ := List.append_inj' same rfl
      rw [← ends, sideCount?, if_neg (by simp)] at last
      exact absurd last not_endsColon_of_groupCount?

/-! ## Literals as scalars -/

/-- No reserved word holds a dot or a colon, so one of them tells a literal from all words. -/
theorem not_reserved_of_separated {text : List Char} (separated : '.' ∈ text ∨ ':' ∈ text) :
    Scalar.reserved.contains (text.map Char.toLower) = false := by
  have words : ∀ word ∈ Scalar.reserved, '.' ∉ word ∧ ':' ∉ word := by decide
  rw [Bool.eq_false_iff]
  intro word
  have none := words _ (List.contains_iff_mem.1 word)
  rcases separated with dot | colon
  · exact none.1 (List.mem_map.2 ⟨'.', dot, rfl⟩)
  · exact none.2 (List.mem_map.2 ⟨':', colon, rfl⟩)

theorem isPlainChars_of_alphabet {text : List Char} (chars : ∀ c ∈ text, c ∈ alphabet)
    (separated : '.' ∈ text ∨ ':' ∈ text) : Scalar.isPlainChars text = true := by
  have allowed : ∀ c ∈ alphabet, (!Scalar.isForbidden c && !Scalar.leaders.contains c) = true :=
    List.all_eq_true.1 (by decide)
  simp only [Bool.and_eq_true, Bool.not_eq_true'] at allowed
  cases text with
  | nil => simp at separated
  | cons first rest =>
    have forbidden : (first :: rest).any Scalar.isForbidden = false :=
      List.any_eq_false.2 fun c member => by simp [(allowed c (chars c member)).1]
    have leader := (allowed first (chars first List.mem_cons_self)).2
    rw [Scalar.isPlainChars, forbidden, leader, not_reserved_of_separated separated]
    rfl

theorem isPlain_of_family? {text : String} {family : Family} (literal : family? text = some family) :
    Scalar.isPlain text = true := by
  unfold family? at literal
  split at literal
  · rename_i fourth
    exact isPlainChars_of_alphabet (alphabet_of_isIPv4 fourth) (.inl (dot_mem_of_isIPv4 fourth))
  · split at literal
    · rename_i sixth
      exact isPlainChars_of_alphabet (alphabet_of_isIPv6 sixth) (.inr (colon_mem_of_isIPv6 sixth))
    · cases literal

end ServiceProxy.Literal
