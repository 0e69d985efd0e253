import ServiceProxy.Proofs.Files.Frames
import ServiceProxy.Proofs.Files.Paths

/-! Where a path and its temporary path lead. A path that names a file leads to that name in the
directory that its parent leads to, and its temporary path to another name there; a path that
names none has its temporary path one name further. Main statement: the two never lead to one
location. -/

set_option autoImplicit false

namespace ServiceProxy

namespace Tree

open ServiceProxy.Path

/-- The names that pieces spell; an empty piece spells none. -/
def spelt (ps : List (List Char)) : List String := (ps.filter (· ≠ [])).map String.ofList

theorem spelt_append (ps qs : List (List Char)) : spelt (ps ++ qs) = spelt ps ++ spelt qs := by
  rw [spelt, List.filter_append, List.map_append]
  rfl

theorem spelt_singleton {p : List Char} (filled : p ≠ []) : spelt [p] = [String.ofList p] := by
  simp [spelt, filled]

theorem eq_dot_of_mem_spelt {voids : List (List Char)} (void : ∀ v ∈ voids, isVoid v = true) :
    ∀ name ∈ spelt voids, name = "." := by
  intro name member
  obtain ⟨v, kept, rfl⟩ := List.mem_map.1 member
  obtain ⟨member, filled⟩ := List.mem_filter.1 kept
  have dot := void v member
  simp only [isVoid, Bool.or_eq_true, beq_iff_eq] at dot
  rw [dot.resolve_left (of_decide_eq_true filled)]

theorem names_eq_spelt (path : String) : names path = spelt (pieces path) := rfl

theorem spelt_append_void (ps : List (List Char)) {voids : List (List Char)} (void : ∀ v ∈ voids, v = []) :
    spelt (ps ++ voids) = spelt ps := by
  have nothing : spelt voids = [] := by
    rw [spelt, List.map_eq_nil_iff, List.filter_eq_nil_iff]
    simpa using void
  rw [spelt_append, nothing, List.append_nil]

theorem names_join (directory name : String) :
    names (join directory name) = names directory ++ names name := by
  by_cases empty : directory = ""
  · rw [empty]
    rfl
  · obtain ⟨first, ps, voids, short, void, long⟩ := exists_pieces_join empty name
    rw [names_eq_spelt, names_eq_spelt, names_eq_spelt, short, long, ← List.cons_append, ← List.cons_append,
      spelt_append, spelt_append_void _ void]

theorem names_eq_singleton {name : String} (filled : name ≠ "") (apart : '/' ∉ name.toList) :
    names name = [name] := by
  have chars : name.toList ≠ [] := fun nil => filled (by rw [← String.ofList_toList (s := name), nil])
  rw [names_eq_spelt, pieces, List.splitOn_eq_singleton apart, spelt_singleton chars, String.ofList_toList]

/-- The names on a path that names a file: those of its parent, and its name among dots. -/
theorem names_of_fileName? {path n : String} (named : fileName? path = some n) :
    ∃ parent dots ends, parent? path = some parent ∧ isAbsolute parent = isAbsolute path ∧
      names path = names parent ++ dots ++ ([n] ++ ends) ∧
      (∀ name ∈ dots, name = ".") ∧ (∀ name ∈ ends, name = ".") := by
  obtain ⟨isName, parts⟩ := fileName?_cases named
  obtain ⟨-, filled, -⟩ := component?_eq_name isName
  have spelling : spelt [n.toList] = [n] := by
    rw [spelt_singleton (fun nil => by rw [nil] at filled; cases filled), String.ofList_toList]
  obtain ⟨ends, split, void, relative, parent⟩ | ⟨first, kept, voids, ends, split, quiet, void, parent⟩ := parts
  · refine ⟨"", [], spelt ends, parent, relative.symm, ?_, nofun, eq_dot_of_mem_spelt void⟩
    rw [names_eq_spelt, split, ← List.singleton_append, spelt_append, spelling]
    rfl
  · have regrouped : first :: (kept ++ voids ++ n.toList :: ends) =
        (first :: kept) ++ voids ++ ([n.toList] ++ ends) := by simp
    have cut : pieces path = first :: (kept ++ (voids ++ n.toList :: ends)) := by rw [split]; simp
    obtain ⟨start, nothing, whole, blank⟩ := exists_pieces_parent cut (by simp)
    refine ⟨_, spelt voids, spelt ends, parent, start, ?_, eq_dot_of_mem_spelt quiet, eq_dot_of_mem_spelt void⟩
    rw [names_eq_spelt, names_eq_spelt, whole, split, regrouped, ← List.cons_append, spelt_append_void _ blank,
      spelt_append, spelt_append, spelt_append, spelling]

theorem walk_append {t : Tree} {place last : Location} {front back : List String} :
    t.walk place (front ++ back) = .ok last ↔
      ∃ next, t.walk place front = .ok next ∧ t.walk next back = .ok last := by
  induction front generalizing place with
  | nil => simp [walk]
  | cons name rest ih =>
    rw [List.cons_append, walk, walk]
    cases t.step place name with
    | error fault => simp
    | ok next => exact ih

theorem walk_dots {t : Tree} {place last : Location} {dots : List String}
    (dot : ∀ name ∈ dots, name = ".") (leads : t.walk place dots = .ok last) : last = place := by
  induction dots with
  | nil => exact (Except.ok.inj leads).symm
  | cons name rest ih =>
    rw [List.forall_mem_cons] at dot
    obtain ⟨rfl, others⟩ := dot
    unfold walk at leads
    cases stepped : t.step place "." with
    | error fault => rw [stepped] at leads; cases leads
    | ok next =>
      rw [stepped] at leads
      obtain ⟨-, stays⟩ := step_eq_ok.1 stepped
      rw [if_pos rfl] at stays
      rw [← Except.ok.inj stays] at leads
      exact ih others leads

theorem eq_of_walk_name {t : Tree} {place last : Location} {name : String} (here : name ≠ ".")
    (up : name ≠ "..") (leads : t.walk place [name] = .ok last) : last = place ++ [name] := by
  unfold walk at leads
  cases stepped : t.step place name with
  | error fault => rw [stepped] at leads; cases leads
  | ok next =>
    rw [stepped] at leads
    obtain ⟨-, goes⟩ := step_eq_ok.1 stepped
    rw [if_neg here, if_neg up] at goes
    split at goes
    · cases goes
    · rw [← Except.ok.inj leads, Except.ok.inj goes]

theorem walk_of_locate {t : Tree} {path : String} {place : Location} (leads : t.locate path = .ok place) :
    path ≠ "" ∧ t.walk (if isAbsolute path then [] else t.base) (names path) = .ok place := by
  unfold locate at leads
  split at leads
  · cases leads
  · split at leads
    · cases leads
    · rename_i filled
      split at leads
      · cases leads
      · exact ⟨fun empty => filled (empty ▸ rfl), leads⟩

section

variable {t : Tree} {path : String} {place beside : Location}

/-- A named file and its temporary file lie in one directory. -/
theorem locate_temporary_of_fileName? {n : String} (named : fileName? path = some n)
    (leads : t.locate path = .ok place) (temporary : t.locate (temporary path) = .ok beside) :
    ∃ directory, place = directory ++ [n] ∧ beside = directory ++ [n ++ ".tmp"] := by
  obtain ⟨parent, dots, ends, isParent, start, split, dot, ended⟩ := names_of_fileName? named
  obtain ⟨here, up⟩ := ne_dots_of_fileName? named
  obtain ⟨-, walked⟩ := walk_of_locate leads
  obtain ⟨filled, reached⟩ := walk_of_locate temporary
  have apart : '/' ∉ (n ++ ".tmp").toList := not_slash_of_ending (not_slash_of_fileName? named) (by decide)
  have longer : ∀ m : String, m.length < 4 → n ++ ".tmp" ≠ m := fun m short same => by
    have lengths := congrArg String.length same
    rw [String.length_append] at lengths
    have ending : String.length ".tmp" = 4 := rfl
    omega
  have written : Path.temporary path = join parent (n ++ ".tmp") := by
    simp [Path.temporary, withFileName, named, isParent]
  rw [written, isAbsolute_join (isAbsolute_eq_false apart), start, names_join,
    names_eq_singleton (longer "" (by decide)) apart, walk_append] at reached
  rw [split, walk_append] at walked
  -- Both walks go through the parent; what follows it in the path are dots and the name.
  obtain ⟨between, front, back⟩ := walked
  obtain ⟨directory, toParent, stays⟩ := walk_append.1 front
  obtain rfl := walk_dots dot stays
  obtain ⟨file, step, rest⟩ := walk_append.1 back
  obtain rfl := walk_dots ended rest
  obtain ⟨other, toOther, stepBeside⟩ := reached
  rw [toParent] at toOther
  obtain rfl := Except.ok.inj toOther
  exact ⟨_, eq_of_walk_name here up step,
    eq_of_walk_name (longer "." (by decide)) (longer ".." (by decide)) stepBeside⟩

theorem locate_temporary_of_nameless (nameless : fileName? path = none)
    (leads : t.locate path = .ok place) (temporary : t.locate (temporary path) = .ok beside) :
    beside = place ++ [".tmp"] := by
  obtain ⟨filled, walked⟩ := walk_of_locate leads
  obtain ⟨-, reached⟩ := walk_of_locate temporary
  have written : Path.temporary path = join path ".tmp" := by
    simp [Path.temporary, withFileName, nameless]
  have last : names ".tmp" = [".tmp"] := names_eq_singleton (by decide) (by decide)
  rw [written, isAbsolute_join (by decide), names_join, last, walk_append] at reached
  obtain ⟨next, front, step⟩ := reached
  rw [walked] at front
  rw [Except.ok.inj front]
  exact eq_of_walk_name (by decide) (by decide) step

theorem locate_temporary_ne (leads : t.locate path = .ok place) : t.locate (temporary path) ≠ .ok place := by
  intro same
  cases named : fileName? path with
  | none =>
    have longer := congrArg List.length (locate_temporary_of_nameless named leads same)
    simp at longer
  | some n =>
    obtain ⟨directory, here, there⟩ := locate_temporary_of_fileName? named leads same
    have names := List.append_cancel_left (here.symm.trans there)
    have longer := congrArg String.length (List.head_eq_of_cons_eq names)
    simp at longer

end

end Tree

end ServiceProxy
