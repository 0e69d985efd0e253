import ServiceProxy.Document.Layout

/-! Texts as lines. Lines without a line feed of their own, each closed by one, are read back
from their text. -/

set_option autoImplicit false

namespace ServiceProxy.Document

def OneLine (text : String) : Prop := '\n' ∉ text.toList

instance (text : String) : Decidable (OneLine text) :=
  inferInstanceAs (Decidable ('\n' ∉ text.toList))

@[simp] theorem oneLine_append (a b : String) : OneLine (a ++ b) ↔ OneLine a ∧ OneLine b := by
  simp only [OneLine, String.toList_append, List.mem_append, not_or]

/-- The lines of a text. What follows the last line feed is no line. -/
def linesOf (text : String) : List String :=
  ((text.toList.splitOn '\n').dropLast).map String.ofList

theorem splitOn_unlines {ls : List String} (oneLine : ∀ l ∈ ls, OneLine l) :
    (unlines ls).toList.splitOn '\n' = ls.map String.toList ++ [[]] := by
  rw [toList_unlines]
  induction ls with
  | nil => rfl
  | cons l rest ih =>
    have first : '\n' ∉ l.toList := oneLine l List.mem_cons_self
    have others : ∀ l ∈ rest, OneLine l := fun l member => oneLine l (List.mem_cons_of_mem _ member)
    rw [List.flatMap_cons, List.append_assoc, List.singleton_append,
      List.splitOn_append_cons_self_of_not_mem first, ih others]
    rfl

theorem linesOf_unlines {ls : List String} (oneLine : ∀ l ∈ ls, OneLine l) :
    linesOf (unlines ls) = ls := by
  rw [linesOf, splitOn_unlines oneLine, List.dropLast_concat, List.map_map]
  exact List.map_id'' (fun _ => String.ofList_toList) ls

def after? (lead line : String) : Option String :=
  (lead.toList.isPrefixOf? line.toList).map String.ofList

theorem isPrefixOf?_cons_cons (a b : Char) (lead rest : List Char) :
    (a :: lead).isPrefixOf? (b :: rest) = if a = b then lead.isPrefixOf? rest else none := by
  by_cases same : a = b
  · rw [if_pos same]
    exact if_pos (beq_iff_eq.2 same)
  · rw [if_neg same]
    exact if_neg fun equal => same (beq_iff_eq.1 equal)

theorem isPrefixOf?_append (lead rest : List Char) : lead.isPrefixOf? (lead ++ rest) = some rest := by
  induction lead with
  | nil => rfl
  | cons head tail ih => rw [List.cons_append, isPrefixOf?_cons_cons, if_pos rfl, ih]

@[simp] theorem after?_append (lead rest : String) : after? lead (lead ++ rest) = some rest := by
  rw [after?, String.toList_append, isPrefixOf?_append, Option.map_some, String.ofList_toList]

end ServiceProxy.Document
