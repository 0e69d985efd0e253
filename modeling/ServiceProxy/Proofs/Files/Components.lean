import ServiceProxy.Proofs.Files.Paths
import ServiceProxy.Watch.FileEvent

/-! What the names beside a file say. A name joined to a directory is one component behind those
of the directory, and a path that names a file is its parent with that name. Main statement: the
temporary path differs from the path in its last component only, and events on the path as the
watch on its directory gives it are told apart from those on the temporary path. -/

set_option autoImplicit false

namespace ServiceProxy

namespace Path

variable {path other n : String} {first : List Char} {ps voids : List (List Char)}

theorem filterMap_voids (void : ∀ v ∈ voids, isVoid v = true) : voids.filterMap component? = [] :=
  List.filterMap_eq_nil_iff.2 fun v member => component?_eq_none.2 (void v member)

theorem components_eq (split : pieces path = first :: ps) :
    components path = leading path first ++ ps.filterMap component? := by
  rw [components, split]

theorem leading_congr (same : isAbsolute path = isAbsolute other) (first : List Char) :
    leading path first = leading other first := by
  rw [leading, leading, same]

theorem leading_name (named : component? n.toList = some (.name n)) (relative : isAbsolute path = false) :
    leading path n.toList = [.name n] := by
  have notDot : n.toList ≠ ['.'] := by
    intro dot
    rw [dot] at named
    cases named
  rw [leading, if_neg (by simp [relative]), if_neg notDot, named]
  rfl

/-- Two paths that start alike, where only the second goes on to a name. -/
theorem components_concat (named : component? n.toList = some (.name n)) (void : ∀ v ∈ voids, isVoid v = true)
    (short : pieces path = first :: (ps ++ voids)) (long : pieces other = first :: (ps ++ [n.toList]))
    (start : isAbsolute other = isAbsolute path) : components other = components path ++ [.name n] := by
  rw [components_eq short, components_eq long, leading_congr start, List.filterMap_append,
    List.filterMap_append, filterMap_voids void, List.filterMap_cons, named, List.append_nil, List.append_assoc]
  rfl

theorem components_name (named : component? n.toList = some (.name n)) (apart : '/' ∉ n.toList) :
    components n = [.name n] := by
  rw [components_eq (List.splitOn_eq_singleton apart), leading_name named (isAbsolute_eq_false apart)]
  rfl

theorem components_join (named : component? n.toList = some (.name n)) (apart : '/' ∉ n.toList)
    (directory : String) : components (join directory n) = components directory ++ [.name n] := by
  by_cases empty : directory = ""
  · subst empty
    exact components_name named apart
  · obtain ⟨first, ps, voids, short, void, long⟩ := exists_pieces_join empty n
    rw [show pieces n = [n.toList] from List.splitOn_eq_singleton apart] at long
    exact components_concat named (fun v member => void v member ▸ rfl) short long
      (isAbsolute_join (isAbsolute_eq_false apart) directory)

theorem components_eq_nil_iff : components path = [] ↔ path = "" := by
  refine ⟨fun nothing => ?_, fun empty => empty ▸ rfl⟩
  obtain ⟨first, ps, split⟩ := List.exists_cons_of_ne_nil (pieces_ne_nil path)
  rw [components_eq split, List.append_eq_nil_iff, leading] at nothing
  have apart : '/' ∉ first := not_slash_of_mem_pieces (split ▸ List.mem_cons_self)
  have start : isAbsolute path = (first.isEmpty && !ps.isEmpty) := by
    rw [← joinPieces_pieces path, split, isAbsolute_joinPieces apart]
  obtain ⟨silent, -⟩ := nothing
  split at silent
  · cases silent
  · rename_i relative
    split at silent
    · cases silent
    · rename_i other
      have void := component?_eq_none.1 (Option.toList_eq_nil_iff.1 silent)
      simp only [isVoid, Bool.or_eq_true, beq_iff_eq, other, or_false] at void
      -- An empty first piece with another behind it would be the root.
      simp only [start, void, List.isEmpty_nil, Bool.true_and, Bool.not_eq_true', Bool.not_eq_false,
        List.isEmpty_iff] at relative
      rw [← joinPieces_pieces path, split, void, relative]
      rfl

/-- A path that names a file says what its parent says, and then the name. -/
theorem components_of_fileName? (named : fileName? path = some n) :
    ∃ parent, parent? path = some parent ∧ components path = components parent ++ [.name n] := by
  obtain ⟨isName, parts⟩ := fileName?_cases named
  obtain ⟨ends, split, void, relative, parent⟩ | ⟨first, kept, voids, ends, split, quiet, void, parent⟩ := parts
  · refine ⟨"", parent, ?_⟩
    rw [components_eq split, filterMap_voids void, leading_name isName relative]
    rfl
  · have cut : pieces path = first :: (kept ++ (voids ++ n.toList :: ends)) := by rw [split]; simp
    obtain ⟨start, nothing, whole, blank⟩ := exists_pieces_parent cut (by simp)
    refine ⟨_, parent, ?_⟩
    rw [components_eq whole, components_eq cut, leading_congr start]
    simp [List.filterMap_append, filterMap_voids quiet, filterMap_voids void, isName,
      filterMap_voids fun v member => blank v member ▸ rfl]

theorem component?_ending {ending : String} (long : 2 < ending.length) :
    component? (n ++ ending).toList = some (.name (n ++ ending)) := by
  have longer : 2 < (n ++ ending).toList.length := by
    rw [String.length_toList, String.length_append]
    omega
  have filled : isVoid (n ++ ending).toList ≠ true := by
    intro void
    simp only [isVoid, Bool.or_eq_true, beq_iff_eq] at void
    rcases void with nil | dot
    · simp [nil] at longer
    · simp [dot] at longer
  have notUp : (n ++ ending).toList ≠ ['.', '.'] := by
    intro up
    simp [up] at longer
  rw [component?, if_neg filled, if_neg notUp, String.ofList_toList]

/-- The name of a file, behind what its path says before it, and the names beside it. -/
theorem neighbours_of_fileName? (named : fileName? path = some n) :
    ∃ above, components path = above ++ [.name n] ∧
      components (temporary path) = above ++ [.name (n ++ ".tmp")] ∧
      components (join (directory path) n) = (if above = [] then [.here] else above) ++ [.name n] := by
  obtain ⟨parent, isParent, whole⟩ := components_of_fileName? named
  have apart : '/' ∉ n.toList := not_slash_of_fileName? named
  refine ⟨components parent, whole, ?_, ?_⟩
  · have written : temporary path = join parent (n ++ ".tmp") := by
      simp [temporary, withFileName, named, isParent]
    rw [written]
    exact components_join (component?_ending (by decide)) (not_slash_of_ending apart (by decide)) parent
  · rw [components_join (fileName?_cases named).1 apart, directory, isParent]
    simp only [components_eq_nil_iff, String.isEmpty_iff]
    split <;> rfl

theorem fileName?_of_components {above : List Component} (last : components path = above ++ [.name n]) :
    fileName? path = some n := by
  rw [fileName?_eq_some_iff, last, List.getLast?_concat]

end Path

open ServiceProxy.Path

/-- The temporary path says what the path says, up to the ending of the name, so it never equals
the path. The name joined to the watched directory says what the path says, with the working
directory written out in front of a bare name. A change of that file is an event on the path,
and a change of the temporary file is none. -/
theorem events_beside_fileName? {path n : String} (named : fileName? path = some n) :
    (∃ above, components path = above ++ [.name n] ∧
      components (temporary path) = above ++ [.name (n ++ ".tmp")] ∧
      components (temporary path) ≠ components path ∧
      components (join (directory path) n) = (if above = [] then [.here] else []) ++ components path) ∧
    (∀ event : FileEvent, event.change ∈ [.create, .content, .name, .modified] →
      join (directory path) n ∈ event.paths → event.touches n = true) ∧
    ∀ event : FileEvent, (∀ p ∈ event.paths, p = temporary path) → event.touches n = false := by
  obtain ⟨above, whole, beside, joined⟩ := neighbours_of_fileName? named
  refine ⟨⟨above, whole, beside, ?_, ?_⟩, ?_, ?_⟩
  · rw [whole, beside]
    simp
  · rw [joined, whole]
    split <;> simp_all
  · -- Any change that may alter content will do, as the joined path has the name itself.
    intro event changes listed
    have mayAlter : event.change.mayAlterContent = true := by
      simp only [List.mem_cons, List.not_mem_nil, or_false] at changes
      rcases changes with kind | kind | kind | kind <;> rw [kind] <;> rfl
    rw [FileEvent.touches, mayAlter, Bool.true_and, List.any_eq_true]
    exact ⟨_, listed, beq_iff_eq.2 (fileName?_of_components joined)⟩
  · intro event aside
    rw [FileEvent.touches, Bool.and_eq_false_iff, List.any_eq_false]
    refine .inr fun p listed => ?_
    rw [aside p listed, fileName?_of_components beside]
    simp

/-- Slashes and dots in the path change neither name. -/
theorem events_beside_dottedPath :
    fileName? "etc//lb/./lb.toml/." = some "lb.toml" ∧
    join (directory "etc//lb/./lb.toml/.") "lb.toml" = "etc//lb/lb.toml" ∧
    temporary "etc//lb/./lb.toml/." = "etc//lb/lb.toml.tmp" ∧
    components "etc//lb/lb.toml.tmp" ≠ components "etc//lb/./lb.toml/." ∧
    (FileEvent.mk .name ["etc//lb/lb.toml.new", "etc//lb/lb.toml"]).touches "lb.toml" = true ∧
    (FileEvent.mk .create ["etc//lb/lb.toml.tmp"]).touches "lb.toml" = false := by
  have named : fileName? "etc//lb/./lb.toml/." = some "lb.toml" := by decide
  have watched : join (directory "etc//lb/./lb.toml/.") "lb.toml" = "etc//lb/lb.toml" := by decide
  have written : temporary "etc//lb/./lb.toml/." = "etc//lb/lb.toml.tmp" := by decide
  obtain ⟨⟨_, -, -, other, -⟩, onPath, aside⟩ := events_beside_fileName? named
  rw [written] at other aside
  rw [watched] at onPath
  have renamed := onPath ⟨.name, ["etc//lb/lb.toml.new", "etc//lb/lb.toml"]⟩ (by decide) (by decide)
  exact ⟨named, watched, written, other, renamed, aside ⟨.create, ["etc//lb/lb.toml.tmp"]⟩ (by decide)⟩

end ServiceProxy
