import Mathlib.Data.List.Forall2
import ServiceProxy.Proofs.Json.Spelling

/-! Compact JSON text: no spaces, and no character escaped that can stand for itself. Main
statement: the compact text of a list or record of written parts is a way to write it. -/

set_option autoImplicit false

namespace ServiceProxy.Json

/-- Control characters without a letter of their own are written by their number. -/
def escaped (c : Char) : List Char :=
  match c with
  | '"' => ['\\', '"']
  | '\\' => ['\\', '\\']
  | '\x08' => ['\\', 'b']
  | '\t' => ['\\', 't']
  | '\n' => ['\\', 'n']
  | '\x0c' => ['\\', 'f']
  | '\r' => ['\\', 'r']
  | c =>
    if c.toNat < 0x20 then ['\\', 'u', '0', '0', (c.toNat / 16).digitChar, (c.toNat % 16).digitChar]
    else [c]

def quoted (s : String) : List Char := '"' :: (s.toList.flatMap escaped ++ ['"'])

def number (n : Nat) : List Char := Nat.toDigits 10 n

/-- Parts with commas between them, and the mark that ends them. -/
def listed (mark : Char) : List (List Char) → List Char
  | [] => [mark]
  | [w] => w ++ [mark]
  | w :: second :: rest => w ++ ',' :: listed mark (second :: rest)

def array (items : List (List Char)) : List Char := '[' :: listed ']' items

def object (members : List (String × List Char)) : List Char :=
  '{' :: listed '}' (members.map fun member => quoted member.1 ++ ':' :: member.2)

theorem hexValue?_digitChar : ∀ n < 16, hexValue? n.digitChar = some n := by decide

theorem spellsChar_escaped (c : Char) : SpellsChar c (escaped c) := by
  unfold escaped
  split
  all_goals try exact .short (by decide)
  rename_i notQuote notBackslash _ _ _ _ _
  split
  · rename_i control
    refine .unit ?_
    have zero : hexValue? '0' = some 0 := rfl
    have value : (0 * 16 + 0) * 256 + c.toNat / 16 * 16 + c.toNat % 16 = c.toNat := by omega
    rw [unit?, zero, hexValue?_digitChar (c.toNat / 16) (by omega), hexValue?_digitChar (c.toNat % 16) (by omega)]
    exact congrArg some value
  · rename_i shown
    exact .plain (Nat.not_lt.1 shown) notQuote notBackslash

theorem spellsText_escaped (cs : List Char) : SpellsText cs (cs.flatMap escaped) := by
  induction cs with
  | nil => exact .nil
  | cons c rest ih => exact .cons (spellsChar_escaped c) ih

theorem spells_quoted (s : String) : Spells (.text s) (quoted s) := .text (spellsText_escaped s.toList)

theorem eq_zero_of_toDigits {n : Nat} {rest : List Char} (leads : Nat.toDigits 10 n = '0' :: rest) : n = 0 := by
  induction n using Nat.strongRecOn generalizing rest with
  | ind n ih =>
    rw [Nat.toDigits_eq_if (by decide)] at leads
    split at leads
    · rename_i small
      have zero : ∀ k < 10, k.digitChar = '0' → k = 0 := by decide
      exact zero n small (List.cons.inj leads).1
    · rename_i large
      -- The first digit is that of the number without its last one.
      cases digits : Nat.toDigits 10 (n / 10) with
      | nil => exact absurd digits Nat.toDigits_ne_nil
      | cons d more =>
        rw [digits, List.cons_append] at leads
        have none := ih (n / 10) (by omega) ((List.cons.inj leads).1 ▸ digits)
        omega

theorem toDigits_ne_zero_cons (n : Nat) (c : Char) (rest : List Char) :
    Nat.toDigits 10 n ≠ '0' :: c :: rest := by
  intro leads
  rw [eq_zero_of_toDigits leads] at leads
  cases leads

theorem spells_number {n : Nat} (fits : n < UInt64.size) : Spells (.integer n) (number n) := by
  have value : Decimal.value (number n) = n := Decimal.value_toDigits n
  have spells := @Spells.integer (number n) Nat.toDigits_ne_nil
    (fun c => Nat.isDigit_of_mem_toDigits (by decide) (by decide)) (toDigits_ne_zero_cons n) (value.symm ▸ fits)
  rwa [value] at spells

theorem Spells.pads {d : Datum} {w : List Char} (spells : Spells d w) : Pads d w := by
  have bare : Spaces [] := fun _ member => absurd member List.not_mem_nil
  have pads := Pads.mk bare spells bare
  rwa [List.nil_append, List.append_nil] at pads

theorem spellsItems_listed {d : Datum} {w : List Char} {ds : List Datum} {ws : List (List Char)}
    (first : Spells d w) (others : List.Forall₂ Spells ds ws) :
    SpellsItems (.more d (.ofList ds)) (listed ']' (w :: ws)) := by
  induction others generalizing d w with
  | nil => exact .last first.pads
  | cons second _ ih => exact .more first.pads (ih second)

theorem spells_array {ds : List Datum} {ws : List (List Char)} (spells : List.Forall₂ Spells ds ws) :
    Spells (.list (.ofList ds)) (array ws) := by
  cases spells with
  | nil => exact .emptyList fun _ member => absurd member List.not_mem_nil
  | cons first others => exact .list (spellsItems_listed first others)

theorem spells_array_map {α : Type} {datum : α → Datum} {json : α → List Char}
    (spells : ∀ x, Spells (datum x) (json x)) (xs : List α) :
    Spells (.list (.ofList (xs.map datum))) (array (xs.map json)) := by
  refine spells_array (List.forall₂_map_left_iff.2 (List.forall₂_map_right_iff.2 ?_))
  exact List.forall₂_same.2 fun x _ => spells x

inductive SpellsEach : List (String × Datum) → List (String × List Char) → Prop
  | nil : SpellsEach [] []
  | cons {key : String} {d : Datum} {w : List Char} {members : List (String × Datum)}
    {written : List (String × List Char)} (first : Spells d w) (others : SpellsEach members written) :
    SpellsEach ((key, d) :: members) ((key, w) :: written)

theorem spellsMembers_listed {key : String} {d : Datum} {w : List Char} {members : List (String × Datum)}
    {written : List (String × List Char)} (first : Spells d w) (others : SpellsEach members written) :
    SpellsMembers (.more (some key) d (.ofList members))
      (listed '}' (((key, w) :: written).map fun member => quoted member.1 ++ ':' :: member.2)) := by
  induction others generalizing key d w with
  | nil =>
    rw [List.map_cons, List.map_nil, listed, List.append_assoc, List.cons_append]
    exact .last (spells_quoted key).pads first.pads
  | cons second _ ih =>
    rw [List.map_cons, List.map_cons, listed, List.append_assoc, List.cons_append]
    exact .more (spells_quoted key).pads first.pads (ih second)

theorem spells_object {members : List (String × Datum)} {written : List (String × List Char)}
    (spells : SpellsEach members written) : Spells (.record (.ofList members)) (object written) := by
  cases spells with
  | nil => exact .emptyRecord fun _ member => absurd member List.not_mem_nil
  | cons first others => exact .record (spellsMembers_listed first others)

end ServiceProxy.Json
