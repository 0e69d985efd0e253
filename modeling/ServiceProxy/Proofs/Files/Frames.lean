import ServiceProxy.Files.Replacement

/-! What file operations leave alone. No operation makes or removes a directory, so a path leads
where it led before; and what a tree holds is changed only where the paths of the operation
lead. -/

set_option autoImplicit false

namespace ServiceProxy

namespace Tree

theorem get?_erase (t : Tree) (place other : Location) :
    (t.erase place).get? other = if other = place then none else t.get? other := by
  unfold get? erase
  induction t.holdings with
  | nil => simp
  | cons entry rest ih =>
    obtain ⟨here, holding⟩ := entry
    by_cases erased : here = place
    · rw [List.filter_cons_of_neg (by simp [erased]), ih]
      by_cases found : other = place
      · rw [if_pos found, if_pos found]
      · rw [if_neg found, if_neg found, List.lookup_cons, erased, beq_eq_false_iff_ne.2 found]
    · rw [List.filter_cons_of_pos (by simp [erased]), List.lookup_cons, List.lookup_cons, ih]
      by_cases found : other = here
      · simp only [found, BEq.rfl, if_neg erased]
      · rw [beq_eq_false_iff_ne.2 found]

theorem get?_set (t : Tree) (place other : Location) (holding : Holding) :
    (t.set place holding).get? other = if other = place then some holding else t.get? other := by
  have erased := t.get?_erase place other
  unfold get? at erased ⊢
  unfold set
  rw [List.lookup_cons, erased]
  by_cases found : other = place
  · simp only [found, BEq.rfl, if_true]
  · rw [beq_eq_false_iff_ne.2 found, if_neg found, if_neg found]

/-- Two trees with one working directory and the same directories. -/
structure Alike (t u : Tree) : Prop where
  base : u.base = t.base
  directory : ∀ place, u.get? place = some .directory ↔ t.get? place = some .directory

theorem Alike.refl (t : Tree) : t.Alike t := ⟨rfl, fun _ => .rfl⟩

theorem Alike.trans {t u v : Tree} (first : t.Alike u) (second : u.Alike v) : t.Alike v :=
  ⟨second.base.trans first.base, fun place => (second.directory place).trans (first.directory place)⟩

theorem Alike.set {t : Tree} {place : Location} {bytes : ByteArray}
    (free : t.get? place ≠ some .directory) : t.Alike (t.set place (.file bytes)) := by
  refine ⟨rfl, fun other => ?_⟩
  rw [get?_set]
  split
  · rename_i here
    rw [here]
    exact iff_of_false nofun free
  · exact .rfl

theorem Alike.erase {t : Tree} {place : Location} (free : t.get? place ≠ some .directory) :
    t.Alike (t.erase place) := by
  refine ⟨rfl, fun other => ?_⟩
  rw [get?_erase]
  split
  · rename_i here
    rw [here]
    exact iff_of_false nofun free
  · exact .rfl

theorem step_eq_ok {t : Tree} {place next : Location} {name : String} :
    t.step place name = .ok next ↔ t.get? place = some .directory ∧
      (if name = "." then .ok place
        else if name = ".." then .ok place.dropLast
        else if nameLimit < name.utf8ByteSize then .error .nameTooLong
        else .ok (place ++ [name]) : Except FileFault Location) = .ok next := by
  unfold step
  split
  · rename_i held
    simp [held]
  · rename_i held
    simp [held]
  · rename_i held
    simp [held]

theorem Alike.walk {t u : Tree} (alike : t.Alike u) {place place' : Location} {names : List String} :
    u.walk place names = .ok place' ↔ t.walk place names = .ok place' := by
  induction names generalizing place with
  | nil => exact .rfl
  | cons name rest ih =>
    -- A step asks nothing of the tree but whether the place is a directory.
    have steps : ∀ next, u.step place name = .ok next ↔ t.step place name = .ok next := fun next => by
      rw [step_eq_ok, step_eq_ok, alike.directory]
    unfold Tree.walk
    cases there : t.step place name with
    | ok next =>
      rw [(steps next).2 there]
      exact ih
    | error fault =>
      cases here : u.step place name with
      | ok next => exact absurd ((steps next).1 here) (by rw [there]; nofun)
      | error fault => exact iff_of_false nofun nofun

theorem Alike.locate {t u : Tree} (alike : t.Alike u) {path : String} {place : Location} :
    u.locate path = .ok place ↔ t.locate path = .ok place := by
  unfold Tree.locate
  rw [alike.base]
  split
  · exact iff_of_false nofun nofun
  · split
    · exact iff_of_false nofun nofun
    · split
      · exact iff_of_false nofun nofun
      · exact alike.walk

/-- The trees are alike and hold the same but for the locations that some paths lead to. -/
structure Differs (paths : List String) (t u : Tree) : Prop where
  alike : t.Alike u
  kept : ∀ place, (∀ path ∈ paths, t.locate path ≠ .ok place) → u.get? place = t.get? place

namespace Differs

variable {t u v : Tree} {paths : List String}

theorem refl (paths : List String) (t : Tree) : Differs paths t t := ⟨.refl t, fun _ _ => rfl⟩

theorem trans (first : Differs paths t u) (second : Differs paths u v) : Differs paths t v := by
  refine ⟨first.alike.trans second.alike, fun place apart => ?_⟩
  rw [second.kept place, first.kept place apart]
  exact fun path member leads => apart path member (first.alike.locate.1 leads)

theorem mono {more : List String} (within : ∀ path ∈ paths, path ∈ more) (differs : Differs paths t u) :
    Differs more t u :=
  ⟨differs.alike, fun place apart => differs.kept place fun path member => apart path (within path member)⟩

theorem widen {path : String} (differs : Differs [path] t u) (other : String) :
    Differs [path, other] t u :=
  differs.mono fun _ member => List.mem_cons.2 (.inl (List.mem_singleton.1 member))

theorem read {path : String} {place : Location} (differs : Differs paths t u)
    (leads : t.locate path = .ok place) (apart : ∀ other ∈ paths, t.locate other ≠ .ok place) :
    u.read path = t.read path := by
  unfold Tree.read
  rw [leads, differs.alike.locate.2 leads]
  simp only [bind, Except.bind, differs.kept place apart]

end Differs

theorem write_eq_ok {t u : Tree} {path : String} {bytes : ByteArray} :
    t.write path bytes = .ok u ↔ ∃ place, t.locate path = .ok place ∧
      t.get? place ≠ some .directory ∧ wantsDirectory path = false ∧ t.set place (.file bytes) = u := by
  unfold write
  cases leads : t.locate path with
  | error fault => simp [bind, Except.bind]
  | ok place =>
    simp only [bind, Except.bind, Except.ok.injEq, exists_eq_left']
    cases held : t.get? place with
    | none => cases wantsDirectory path <;> simp
    | some holding =>
      cases holding with
      | directory => simp
      | file old => cases wantsDirectory path <;> simp

theorem read_eq_ok {t : Tree} {path : String} {bytes : ByteArray} :
    t.read path = .ok bytes ↔ ∃ place, t.locate path = .ok place ∧
      t.get? place = some (.file bytes) ∧ wantsDirectory path = false := by
  unfold read
  cases leads : t.locate path with
  | error fault => simp [bind, Except.bind]
  | ok place =>
    simp only [bind, Except.bind, Except.ok.injEq, exists_eq_left']
    cases held : t.get? place with
    | none => simp
    | some holding =>
      cases holding with
      | directory => simp
      | file old => cases wantsDirectory path <;> simp

theorem exists_of_rename {t u : Tree} {source target : String} (renamed : t.rename source target = .ok u) :
    ∃ old new bytes, t.locate source = .ok old ∧ t.locate target = .ok new ∧
      t.get? old = some (.file bytes) ∧ t.get? new ≠ some .directory ∧
      (t.erase old).set new (.file bytes) = u := by
  unfold rename at renamed
  cases leaves : t.locate source with
  | error fault => simp [bind, Except.bind, leaves] at renamed
  | ok old =>
    cases leads : t.locate target with
    | error fault => simp [bind, Except.bind, leaves, leads] at renamed
    | ok new =>
      simp only [bind, Except.bind, leaves, leads] at renamed
      cases held : t.get? old with
      | none => simp [held] at renamed
      | some holding =>
        cases holding with
        | directory => simp [held] at renamed
        | file bytes =>
          simp only [held] at renamed
          -- Nothing is put at dots, under a name that asks for a directory or over a directory.
          split at renamed
          · cases renamed
          · split at renamed
            · cases renamed
            · split at renamed
              · cases renamed
              · rename_i free
                cases renamed
                refine ⟨old, new, bytes, rfl, rfl, held, ?_, rfl⟩
                intro directory
                rw [directory] at free
                exact free rfl

theorem exists_of_remove {t u : Tree} {path : String} (removed : t.remove path = .ok u) :
    ∃ place bytes, t.locate path = .ok place ∧ t.get? place = some (.file bytes) ∧ t.erase place = u := by
  unfold remove at removed
  cases leads : t.locate path with
  | error fault => simp [bind, Except.bind, leads] at removed
  | ok place =>
    simp only [bind, Except.bind, leads] at removed
    cases held : t.get? place with
    | none => simp [held] at removed
    | some holding =>
      cases holding with
      | directory => simp [held] at removed
      | file bytes =>
        simp only [held, Except.ok.injEq] at removed
        exact ⟨place, bytes, rfl, held, removed⟩

theorem remove_of_file {t : Tree} {path : String} {place : Location} {bytes : ByteArray}
    (leads : t.locate path = .ok place) (held : t.get? place = some (.file bytes)) :
    t.remove path = .ok (t.erase place) := by
  unfold remove
  simp only [leads, held, bind, Except.bind]

end Tree

def FileAction.paths : FileAction → List String
  | .write path _ => [path]
  | .rename source target => [source, target]
  | .remove path => [path]

namespace Tree

variable {t u : Tree}

theorem Differs.set {paths : List String} {path : String} {place : Location} {bytes : ByteArray}
    (member : path ∈ paths) (leads : t.locate path = .ok place) (free : t.get? place ≠ some .directory) :
    Differs paths t (t.set place (.file bytes)) := by
  refine ⟨.set free, fun other apart => ?_⟩
  rw [get?_set, if_neg]
  rintro rfl
  exact apart path member leads

theorem Differs.erase {paths : List String} {path : String} {place : Location}
    (member : path ∈ paths) (leads : t.locate path = .ok place) (free : t.get? place ≠ some .directory) :
    Differs paths t (t.erase place) := by
  refine ⟨.erase free, fun other apart => ?_⟩
  rw [get?_erase, if_neg]
  rintro rfl
  exact apart path member leads

/-- An action changes nothing but what its paths lead to. -/
theorem differs_perform {action : FileAction} (performed : t.perform action = .ok u) :
    Differs action.paths t u := by
  cases action with
  | write path bytes =>
    obtain ⟨place, leads, free, -, rfl⟩ := write_eq_ok.1 performed
    exact .set (List.mem_singleton_self path) leads free
  | rename source target =>
    obtain ⟨old, new, bytes, leaves, leads, held, free, rfl⟩ := exists_of_rename performed
    have file : t.get? old ≠ some .directory := by
      rw [held]
      exact nofun
    -- Two changes in turn; after the first both paths still lead where they led.
    have erased : Differs [source, target] t (t.erase old) := .erase List.mem_cons_self leaves file
    refine erased.trans (.set (List.mem_cons_of_mem _ List.mem_cons_self) (erased.alike.locate.2 leads) ?_)
    exact fun directory => free ((erased.alike.directory new).1 directory)
  | remove path =>
    obtain ⟨place, bytes, leads, held, rfl⟩ := exists_of_remove performed
    refine .erase (List.mem_singleton_self path) leads ?_
    rw [held]
    exact nofun

theorem differs_attempt (t : Tree) (action : FileAction) : Differs action.paths t (t.attempt action) := by
  unfold attempt
  cases performed : t.perform action with
  | ok u => exact differs_perform performed
  | error fault => exact .refl _ t

theorem differs_deliver (t : Tree) (path document : String) :
    Differs [Path.temporary path, path] t (t.deliver path document).2 := by
  rw [deliver_eq]
  cases wrote : t.perform (.write (Path.temporary path) document.toUTF8) with
  | error fault => exact .refl _ t
  | ok written =>
    have first := (differs_perform wrote).widen path
    cases renamed : written.perform (.rename (Path.temporary path) path) with
    | ok placed =>
      simp only [renamed]
      exact first.trans (differs_perform renamed)
    | error fault =>
      simp only [renamed]
      exact first.trans ((written.differs_attempt (.remove _)).widen path)

theorem read_of_write {path : String} {bytes : ByteArray} (wrote : t.write path bytes = .ok u) :
    u.read path = .ok bytes := by
  obtain ⟨place, leads, free, file, rfl⟩ := write_eq_ok.1 wrote
  refine read_eq_ok.2 ⟨place, (Alike.set free).locate.2 leads, ?_, file⟩
  rw [get?_set, if_pos rfl]

theorem write_of_read {path : String} {old : ByteArray} (readable : t.read path = .ok old)
    (bytes : ByteArray) : ∃ u, t.write path bytes = .ok u := by
  obtain ⟨place, leads, held, file⟩ := read_eq_ok.1 readable
  refine ⟨_, write_eq_ok.2 ⟨place, leads, ?_, file, rfl⟩⟩
  rw [held]
  exact nofun

end Tree

end ServiceProxy
