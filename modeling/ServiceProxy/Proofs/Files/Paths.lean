import Mathlib.Data.List.DropRight
import Mathlib.Data.List.TakeWhile
import ServiceProxy.Files.Path

/-! What the text of a path says, read from the pieces between its slashes. Main statement: a path
that names a file has its name as the last piece that says something, behind the pieces of its
parent. -/

set_option autoImplicit false

namespace ServiceProxy

namespace Path

theorem not_mem_of_mem_splitOn {sep : Char} {text piece : List Char}
    (member : piece ∈ text.splitOn sep) : sep ∉ piece := by
  induction text generalizing piece with
  | nil =>
    rw [List.splitOn_nil, List.mem_singleton] at member
    rw [member]
    exact List.not_mem_nil
  | cons c rest ih =>
    rw [List.splitOn_cons_eq_if_modifyHead] at member
    split at member
    · rcases List.mem_cons.1 member with rfl | member
      · exact List.not_mem_nil
      · exact ih member
    · rename_i other
      obtain ⟨first, others, pieces⟩ := List.exists_cons_of_ne_nil (List.splitOn_ne_nil sep rest)
      rw [pieces] at member ih
      rw [List.modifyHead_cons] at member
      rcases List.mem_cons.1 member with rfl | member
      · rw [List.mem_cons, not_or]
        exact ⟨fun same => other (beq_iff_eq.2 same.symm), ih List.mem_cons_self⟩
      · exact ih (List.mem_cons_of_mem _ member)

theorem not_slash_of_mem_pieces {path : String} {piece : List Char} (member : piece ∈ pieces path) :
    '/' ∉ piece := not_mem_of_mem_splitOn member

theorem pieces_ne_nil (path : String) : pieces path ≠ [] := List.splitOn_ne_nil _ _

theorem joinPieces_pieces (path : String) : joinPieces (pieces path) = path := by
  rw [joinPieces, pieces, List.intercalate_splitOn, String.ofList_toList]

theorem pieces_joinPieces {ps : List (List Char)} (filled : ps ≠ []) (apart : ∀ p ∈ ps, '/' ∉ p) :
    pieces (joinPieces ps) = ps := by
  rw [pieces, joinPieces, String.toList_ofList, List.splitOn_intercalate '/' apart filled]

theorem exists_void_of_trimVoid (ps : List (List Char)) :
    ∃ voids, ps = trimVoid ps ++ voids ∧ ∀ v ∈ voids, isVoid v = true := by
  refine ⟨(ps.reverse.takeWhile isVoid).reverse, ?_, fun v member => ?_⟩
  · rw [trimVoid, ← List.reverse_append, List.takeWhile_append_dropWhile, List.reverse_reverse]
  · exact List.mem_takeWhile_imp (List.mem_reverse.1 member)

theorem exists_last_of_trimVoid {ps : List (List Char)} (telling : trimVoid ps ≠ []) :
    ∃ last, trimVoid ps = (trimVoid ps).dropLast ++ [last] ∧ isVoid last = false := by
  refine ⟨(trimVoid ps).getLast telling, (List.dropLast_concat_getLast telling).symm, ?_⟩
  rw [Bool.eq_false_iff]
  exact List.rdropWhile_last_not isVoid ps telling

theorem component?_eq_name {piece : List Char} {n : String} (named : component? piece = some (.name n)) :
    piece = n.toList ∧ isVoid piece = false ∧ piece ≠ ['.', '.'] := by
  unfold component? at named
  split at named
  · cases named
  · rename_i filled
    split at named
    · cases named
    · rename_i other
      cases named
      exact ⟨String.toList_ofList.symm, Bool.eq_false_iff.2 filled, other⟩

theorem component?_eq_none {piece : List Char} : component? piece = none ↔ isVoid piece = true := by
  unfold component?
  split
  · exact iff_of_true rfl ‹_›
  · split <;> simp_all

theorem getLast?_leading {path n : String} {first : List Char}
    (named : (leading path first).getLast? = some (.name n)) :
    component? first = some (.name n) ∧ isAbsolute path = false := by
  unfold leading at named
  split at named
  · cases named
  · rename_i relative
    split at named
    · cases named
    · refine ⟨?_, Bool.eq_false_iff.2 relative⟩
      cases piece : component? first with
      | none => simp [piece] at named
      | some component => simpa [piece] using named

theorem fileName?_eq_some_iff {path n : String} :
    fileName? path = some n ↔ (components path).getLast? = some (.name n) := by
  unfold fileName?
  constructor
  · intro named
    split at named
    · rename_i last
      rw [last, Option.some.inj named]
    · cases named
  · intro last
    rw [last]

/-- A path that names a file has its name as its only piece that says something, or else behind
its parent. -/
theorem fileName?_cases {path n : String} (named : fileName? path = some n) :
    component? n.toList = some (.name n) ∧
    ((∃ ends, pieces path = n.toList :: ends ∧ (∀ v ∈ ends, isVoid v = true) ∧
        isAbsolute path = false ∧ parent? path = some "") ∨
      ∃ first kept voids ends, pieces path = first :: (kept ++ voids ++ n.toList :: ends) ∧
        (∀ v ∈ voids, isVoid v = true) ∧ (∀ v ∈ ends, isVoid v = true) ∧
        parent? path = some (if isAbsolute path && kept.isEmpty then "/" else joinPieces (first :: kept))) := by
  rw [fileName?_eq_some_iff, components] at named
  unfold parent?
  obtain ⟨first, rest, split⟩ := List.exists_cons_of_ne_nil (pieces_ne_nil path)
  simp only [split] at named ⊢
  obtain ⟨ends, parts, void⟩ := exists_void_of_trimVoid rest
  have silent : ends.filterMap component? = [] :=
    List.filterMap_eq_nil_iff.2 fun v member => component?_eq_none.2 (void v member)
  cases told : trimVoid rest with
  | nil =>
    -- Nothing behind the first piece says anything, so the name is the first piece.
    rw [told, List.nil_append] at parts
    rw [parts, silent, List.append_nil] at named
    obtain ⟨isName, relative⟩ := getLast?_leading named
    obtain ⟨spelling, filled, -⟩ := component?_eq_name isName
    rw [spelling] at isName
    refine ⟨isName, .inl ⟨ends, by rw [spelling, parts], void, relative, ?_⟩⟩
    cases first with
    | nil => cases filled
    | cons => rfl
  | cons head tail =>
    have telling : trimVoid rest ≠ [] := by
      rw [told]
      exact nofun
    obtain ⟨last, front, filled⟩ := exists_last_of_trimVoid telling
    rw [told] at parts front
    generalize inner : (head :: tail).dropLast = before at front
    have isLast : component? last = some (.name n) := by
      cases piece : component? last with
      | none => rw [component?_eq_none.1 piece] at filled; cases filled
      | some component =>
        have read : rest.filterMap component? = before.filterMap component? ++ [component] := by
          rw [parts, front, List.filterMap_append, List.filterMap_append, silent, List.append_nil,
            List.filterMap_cons, piece]
          rfl
        rw [read, ← List.append_assoc, List.getLast?_concat] at named
        exact named
    obtain ⟨spelling, -, -⟩ := component?_eq_name isLast
    -- The parent drops the name and the pieces in front of it that say nothing.
    obtain ⟨voids, kept, quiet⟩ := exists_void_of_trimVoid before
    refine ⟨spelling ▸ isLast, .inr ⟨first, trimVoid before, voids, ends, ?_, quiet, void, ?_⟩⟩
    · rw [← kept, parts, front, ← spelling, List.append_assoc]
      rfl
    · simp only [inner]
      split <;> rfl

theorem isAbsolute_joinPieces {first : List Char} {rest : List (List Char)} (apart : '/' ∉ first) :
    isAbsolute (joinPieces (first :: rest)) = (first.isEmpty && !rest.isEmpty) := by
  unfold isAbsolute joinPieces
  rw [String.toList_ofList]
  cases rest with
  | nil =>
    cases first with
    | nil => rfl
    | cons c cs =>
      have other : c ≠ '/' := fun same => apart (same ▸ List.mem_cons_self)
      simpa [List.intercalate_singleton] using other
  | cons next others =>
    rw [List.intercalate_cons_cons]
    cases first with
    | nil => rfl
    | cons c cs =>
      have other : c ≠ '/' := fun same => apart (same ▸ List.mem_cons_self)
      simpa using other

theorem not_slash_of_fileName? {path n : String} (named : fileName? path = some n) : '/' ∉ n.toList := by
  have member : n.toList ∈ pieces path := by
    obtain ⟨-, ⟨ends, split, -⟩ | ⟨first, kept, voids, ends, split, -⟩⟩ := fileName?_cases named
    · simp [split]
    · simp [split]
  exact not_slash_of_mem_pieces member

theorem ne_dots_of_fileName? {path n : String} (named : fileName? path = some n) : n ≠ "." ∧ n ≠ ".." := by
  obtain ⟨-, filled, other⟩ := component?_eq_name (fileName?_cases named).1
  refine ⟨fun same => ?_, fun same => other (same ▸ rfl)⟩
  rw [same] at filled
  cases filled

theorem not_slash_of_ending {name ending : String} (apart : '/' ∉ name.toList) (last : '/' ∉ ending.toList) :
    '/' ∉ (name ++ ending).toList := by
  rw [String.toList_append, List.mem_append, not_or]
  exact ⟨apart, last⟩

theorem isAbsolute_eq_false {name : String} (apart : '/' ∉ name.toList) : isAbsolute name = false := by
  rw [isAbsolute, beq_eq_false_iff_ne]
  exact fun slash => apart (List.mem_of_head? slash)

theorem isAbsolute_join {name : String} (relative : isAbsolute name = false) (directory : String) :
    isAbsolute (join directory name) = isAbsolute directory := by
  unfold join
  split
  · rename_i empty
    rw [relative, String.isEmpty_iff.1 empty]
    rfl
  · rename_i filled
    obtain ⟨c, cs, chars⟩ : ∃ c cs, directory.toList = c :: cs :=
      List.exists_cons_of_ne_nil fun nil => filled (by rw [← String.ofList_toList (s := directory), nil]; rfl)
    split <;> simp [isAbsolute, chars]

theorem pieces_append_slash (directory name : String) :
    pieces (directory ++ "/" ++ name) = pieces directory ++ pieces name := by
  have joined : (directory ++ "/" ++ name).toList = directory.toList ++ '/' :: name.toList := by simp
  rw [pieces, pieces, pieces, joined, List.splitOn_append_cons_self]

theorem exists_pieces_join {directory : String} (filled : directory ≠ "") (name : String) :
    ∃ first ps voids, pieces directory = first :: (ps ++ voids) ∧ (∀ v ∈ voids, v = []) ∧
      pieces (join directory name) = first :: (ps ++ pieces name) := by
  unfold join
  rw [if_neg (fun empty => filled (String.isEmpty_iff.1 empty))]
  split
  · -- The slash at the end is not doubled: the void piece behind it makes room for the name.
    rename_i slash
    obtain ⟨front, closed⟩ := List.getLast?_eq_some_iff.1 slash
    have bare : directory = String.ofList front ++ "/" := by
      rw [← String.toList_inj, closed]
      simp
    have parts : directory = String.ofList front ++ "/" ++ "" := by rw [bare]; simp
    obtain ⟨first, ps, split⟩ := List.exists_cons_of_ne_nil (pieces_ne_nil (String.ofList front))
    refine ⟨first, ps, [[]], ?_, by simp, ?_⟩
    · rw [parts, pieces_append_slash, split]
      rfl
    · rw [bare, pieces_append_slash, split]
      rfl
  · obtain ⟨first, ps, split⟩ := List.exists_cons_of_ne_nil (pieces_ne_nil directory)
    refine ⟨first, ps, [], by rw [split, List.append_nil], by simp, ?_⟩
    rw [pieces_append_slash, split]
    rfl

/-- The parent of a path starts as the path does and keeps the pieces in front of what is cut off. -/
theorem exists_pieces_parent {path : String} {first : List Char} {kept rest : List (List Char)}
    (split : pieces path = first :: (kept ++ rest)) (more : rest ≠ []) :
    let parent := if isAbsolute path && kept.isEmpty then "/" else joinPieces (first :: kept)
    isAbsolute parent = isAbsolute path ∧
      ∃ voids, pieces parent = first :: (kept ++ voids) ∧ ∀ v ∈ voids, v = [] := by
  have apart : ∀ p ∈ first :: kept, '/' ∉ p := by
    intro p member
    have inPath : p ∈ pieces path := by
      rw [split]
      exact List.cons_subset_cons first (List.subset_append_left _ _) member
    exact not_slash_of_mem_pieces inPath
  have rooted : isAbsolute path = first.isEmpty := by
    rw [← joinPieces_pieces path, split, isAbsolute_joinPieces (apart first List.mem_cons_self)]
    simp [more]
  intro parent
  simp only [parent, rooted]
  split
  · -- Of the root alone two void pieces are left, where joining would leave one.
    rename_i bare
    simp only [Bool.and_eq_true, List.isEmpty_iff] at bare
    rw [bare.1, bare.2]
    exact ⟨rfl, [[]], by decide, by simp⟩
  · rename_i filled
    rw [pieces_joinPieces (List.cons_ne_nil _ _) apart, isAbsolute_joinPieces (apart first List.mem_cons_self)]
    refine ⟨?_, [], by rw [List.append_nil], by simp⟩
    cases first with
    | nil => simpa using filled
    | cons => rfl

end Path

end ServiceProxy
