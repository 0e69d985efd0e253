import ServiceProxy.Proofs.Watch.Runs

/-! Coalescing of updates. The loop may leave updates out, because a later one takes the place of
one that it holds, but never the last. Main statement: whatever comes between its steps, a loop
whose channel is closed stops, and the last description that it attempted to deliver is the last
that the watcher sent. -/

set_option autoImplicit false

namespace ServiceProxy.Watch

/-- Some updates may be left out, but not the last. -/
def Coalesced {α : Type} (updates kept : List α) : Prop :=
  kept.Sublist updates ∧ kept.getLast? = updates.getLast?

namespace Coalesced

variable {α : Type} {u v w : List α}

theorem refl (u : List α) : Coalesced u u := ⟨.refl u, rfl⟩

theorem trans (first : Coalesced u v) (second : Coalesced v w) : Coalesced u w :=
  ⟨second.1.trans first.1, second.2.trans first.2⟩

theorem append_left (kept : Coalesced u v) (before : List α) :
    Coalesced (before ++ u) (before ++ v) := by
  refine ⟨kept.1.append_left before, ?_⟩
  rw [List.getLast?_append, List.getLast?_append, kept.2]

theorem append_right (kept : Coalesced u v) (after : List α) :
    Coalesced (u ++ after) (v ++ after) := by
  refine ⟨kept.1.append_right after, ?_⟩
  rw [List.getLast?_append, List.getLast?_append, kept.2]

theorem overtaken (held latest : α) (rest : List α) :
    Coalesced (held :: latest :: rest) (latest :: rest) :=
  ⟨List.sublist_cons_self _ _, by rw [List.getLast?_cons_cons]⟩

end Coalesced

/-- The description that the loop has taken and not yet attempted to deliver. -/
def Phase.held : Phase → List Description
  | .delivering first => [first]
  | .holding latest => [latest]
  | .debouncing latest => [latest]
  | .draining latest => [latest]
  | _ => []

/-- What is still to be attempted, if nothing overtakes it. -/
def State.inHand (s : State) : List Description := s.phase.held ++ s.updates

/-- A step attempts what it takes out of the hand, or lets a later update overtake it. Only the
first load puts something in, and only the shutdown signal throws something away. -/
theorem Scene.Leads.attempts {x y : Scene} {action : Action} (step : x.Leads action y)
    (loaded : action ≠ .load) (unheeded : action ≠ .heed) :
    ∃ more, y.state.attempts = x.state.attempts ++ more ∧
      Coalesced x.state.inHand (more ++ y.state.inHand) := by
  have nothing : x.state.attempts = x.state.attempts ++ [] := (List.append_nil _).symm
  cases step with
  | load => exact absurd rfl loaded
  | loadFailed => exact absurd rfl loaded
  | heed => exact absurd rfl unheeded
  | deliver phase | deliverFailed phase =>
    refine ⟨_, rfl, ?_⟩
    rw [State.inHand, phase]
    exact .refl _
  | register phase | registerFailed phase | subscribe phase | rest phase | skip phase | elapse phase =>
    refine ⟨[], nothing, ?_⟩
    rw [State.inHand, phase]
    exact .refl _
  | take phase updates =>
    refine ⟨[], nothing, ?_⟩
    rw [State.inHand, phase, updates]
    exact .refl _
  | finish phase updates =>
    refine ⟨[], nothing, ?_⟩
    rw [State.inHand, State.inHand, phase, updates]
    exact .refl _
  | drain phase updates =>
    -- What is let go has a later update behind it, so it is not the last.
    refine ⟨[], nothing, ?_⟩
    rw [State.inHand, phase, updates]
    exact .overtaken _ _ _
  | redeliver phase updates =>
    refine ⟨_, rfl, ?_⟩
    rw [State.inHand, State.inHand, phase, updates]
    exact .refl _

def Phase.Watches : Phase → Prop
  | .subscribing => True
  | .waiting => True
  | .holding _ => True
  | .debouncing _ => True
  | .draining _ => True
  | .stopped => True
  | _ => False

theorem State.isSignalled_subscribe (s : State) : s.subscribe.isSignalled = false := by
  simp [subscribe, isSignalled, Shutdown.subscribe, Shutdown.isPending]

namespace Scene.Leads

variable {x y : Scene} {action : Action}

theorem watching (step : x.Leads action y) (watches : x.state.phase.Watches) :
    y.state.phase.Watches ∧ y.state.watched = x.state.watched ∧ action ≠ .load := by
  cases step with
  | load phase | loadFailed phase | deliver phase | deliverFailed phase | register phase
  | registerFailed phase =>
    rw [phase] at watches
    exact watches.elim
  | _ => exact ⟨trivial, rfl, nofun⟩

theorem unsignalled (step : x.Leads action y) (watches : x.state.phase.Watches)
    (before : x.state.phase = .subscribing ∨ x.state.isSignalled = false) :
    y.state.isSignalled = false := by
  cases step with
  | load phase | loadFailed phase | deliver phase | deliverFailed phase | register phase
  | registerFailed phase =>
    rw [phase] at watches
    exact watches.elim
  | subscribe => exact x.state.isSignalled_subscribe
  | heed listens =>
    refine before.resolve_left fun phase => ?_
    rw [phase] at listens
    exact listens
  | take phase | finish phase | rest phase | skip phase | elapse phase | drain phase
  | redeliver phase => exact before.resolve_left (by rw [phase]; nofun)

theorem finished (step : x.Leads action y) (unheeded : action ≠ .heed)
    (stopped : y.state.phase = .stopped) : y.state.isClosed = true ∧ y.state.updates = [] := by
  cases step with
  | finish _ updates closed => exact ⟨closed, updates⟩
  | heed => exact absurd rfl unheeded
  | _ => cases stopped

end Scene.Leads

/-- The loop watches, hears no signal, and has attempted or has in hand all of some updates but
those that a later one overtook. It ends only when it has been told that no more will come. -/
structure State.Keeps (input name : String) (before updates : List Description) (s : State) : Prop where
  input : s.plan.input = input
  watched : s.watched = some name
  watches : s.phase.Watches
  unsignalled : s.phase = .subscribing ∨ s.isSignalled = false
  ended : s.phase = .stopped → s.isClosed = true ∧ s.updates = []
  coalesced : ∃ made, s.attempts = before ++ made ∧ Coalesced updates (made ++ s.inHand)

def results (input name : String) (handled : List (FileEvent × Workspace)) : List Description :=
  handled.filterMap fun (e, w) => Watcher.update? w input name e

theorem results_append (input name : String) (earlier later : List (FileEvent × Workspace)) :
    results input name (earlier ++ later) = results input name earlier ++ results input name later :=
  List.filterMap_append

theorem results_handled? (input name : String) (x : Scene) (e : FileEvent) :
    results input name (x.handled? (.meet (.event e))).toList =
      (Watcher.update? x.workspace input name e).toList := by
  simp only [Scene.handled?, results, Option.toList_some, List.filterMap_cons, List.filterMap_nil]
  cases Watcher.update? x.workspace input name e <;> rfl

namespace State.Keeps

variable {input name : String} {before updates : List Description} {x y : Scene}

theorem unheeded (keeps : x.state.Keeps input name before updates) {action : Action}
    (step : x.Leads action y) : action ≠ .heed := by
  rintro rfl
  cases step with
  | heed listens signalled =>
    rcases keeps.unsignalled with phase | unsignalled
    · rw [phase] at listens
      exact listens
    · rw [signalled] at unsignalled
      cases unsignalled

theorem act (keeps : x.state.Keeps input name before updates) {action : Action}
    (step : x.Leads action y) : y.state.Keeps input name before updates := by
  have unheeded := keeps.unheeded step
  obtain ⟨watches, watched, loaded⟩ := step.watching keeps.watches
  obtain ⟨more, attempted, inHand⟩ := step.attempts loaded unheeded
  obtain ⟨made, earlier, coalesced⟩ := keeps.coalesced
  refine ⟨(congrArg Plan.input step.plan).trans keeps.input, watched.trans keeps.watched, watches,
    .inr (step.unsignalled keeps.watches keeps.unsignalled), step.finished unheeded, made ++ more, ?_, ?_⟩
  · rw [attempted, earlier, List.append_assoc]
  · rw [List.append_assoc]
    exact coalesced.trans (inHand.append_left made)

theorem receive (keeps : x.state.Keeps input name before updates) (isOpen : x.state.isClosed = false)
    (e : FileEvent) :
    (x.meet (.event e)).state.Keeps input name before
      (updates ++ (Watcher.update? x.workspace input name e).toList) := by
  rw [Scene.meet_event keeps.watched, keeps.input]
  obtain ⟨made, earlier, coalesced⟩ := keeps.coalesced
  refine ⟨keeps.input, keeps.watched, keeps.watches, keeps.unsignalled, fun stopped => ?_, made, earlier, ?_⟩
  · have closed := (keeps.ended stopped).1
    rw [isOpen] at closed
    cases closed
  · have longer := coalesced.append_right (Watcher.update? x.workspace input name e).toList
    rwa [List.append_assoc, State.inHand, List.append_assoc] at longer

theorem move (keeps : x.state.Keeps input name before updates) {move : Move}
    (untriggered : move ≠ .meet .trigger) (moved : x.move? move = some y) :
    y.state.Keeps input name before (updates ++ results input name (x.handled? move).toList) := by
  have same : updates ++ results input name [] = updates := List.append_nil _
  cases move with
  | act action =>
    change y.state.Keeps input name before (updates ++ results input name [])
    rw [same]
    exact keeps.act (Scene.leads_of_act? moved)
  | turn workspace =>
    change y.state.Keeps input name before (updates ++ results input name [])
    rw [same]
    cases moved
    exact keeps
  | meet incident =>
    cases incident with
    | trigger => exact absurd rfl untriggered
    | close =>
      change y.state.Keeps input name before (updates ++ results input name [])
      rw [same]
      cases moved
      exact ⟨keeps.input, keeps.watched, keeps.watches, keeps.unsignalled,
        fun stopped => ⟨rfl, (keeps.ended stopped).2⟩, keeps.coalesced⟩
    | event e =>
      simp only [Scene.move?] at moved
      split at moved
      · cases moved
      · rename_i isOpen
        cases moved
        have received := keeps.receive (Bool.eq_false_iff.2 isOpen) e
        rwa [results_handled?]

theorem follow {moves : List Move} (keeps : x.state.Keeps input name before updates)
    (untriggered : .meet .trigger ∉ moves) (run : x.follow? moves = some y) :
    y.state.Keeps input name before (updates ++ results input name (x.handled moves)) := by
  -- The updates of the moves that are left join those that the state accounts for already.
  induction moves generalizing x updates with
  | nil =>
    cases run
    change y.state.Keeps input name before (updates ++ results input name [])
    rwa [results, List.filterMap_nil, List.append_nil]
  | cons move rest ih =>
    obtain ⟨z, moved, further⟩ := Scene.follow?_cons.1 run
    rw [List.mem_cons, not_or] at untriggered
    have later := ih (keeps.move (Ne.symm untriggered.1) moved) untriggered.2 further
    rwa [List.append_assoc, ← results_append, ← Scene.handled_cons moved] at later

theorem goes_on (keeps : x.state.Keeps input name before updates) (closed : x.state.isClosed = true)
    (running : x.state.phase ≠ .stopped) : ∃ action, (x.act? action).isSome := by
  have watches := keeps.watches
  have unsignalled := keeps.unsignalled
  cases phase : x.state.phase with
  | subscribing => exact ⟨.subscribe, by simp [Scene.act?, State.step?, phase]⟩
  | waiting =>
    cases updates : x.state.updates with
    | nil => exact ⟨.finish, by simp [Scene.act?, State.step?, phase, updates, closed]⟩
    | cons latest rest => exact ⟨.take, by simp [Scene.act?, State.step?, phase, updates]⟩
  | holding latest =>
    have quiet : x.state.isSignalled = false := unsignalled.resolve_left (by simp [phase])
    exact ⟨.rest, by simp [Scene.act?, State.step?, phase, quiet]⟩
  | debouncing latest => exact ⟨.elapse, by simp [Scene.act?, State.step?, phase]⟩
  | draining latest =>
    cases updates : x.state.updates with
    | nil => exact ⟨.redeliver, by simp [Scene.act?, State.step?, phase, updates]⟩
    | cons next rest => exact ⟨.drain, by simp [Scene.act?, State.step?, phase, updates]⟩
  | stopped => exact absurd phase running
  | loading | delivering _ | registering | failed _ =>
    rw [phase] at watches
    exact watches.elim

end State.Keeps

section

variable {input name : String} {before updates : List Description} {x y : Scene}

theorem State.Keeps.work_move (keeps : x.state.Keeps input name before updates) {move : Move}
    (moved : x.move? move = some y) :
    [move].countP Move.isAct + y.state.work ≤
      x.state.work + 4 * (results input name (x.handled? move).toList).length := by
  cases move with
  | act action =>
    have less : y.state.work < x.state.work := (Scene.leads_of_act? moved).work_lt
    change 1 + y.state.work ≤ x.state.work + 0
    omega
  | turn workspace =>
    cases moved
    exact Nat.le_of_eq (Nat.zero_add _)
  | meet incident =>
    cases incident with
    | trigger | close =>
      cases moved
      exact Nat.le_of_eq (Nat.zero_add _)
    | event e =>
      rw [results_handled?]
      simp only [Scene.move?] at moved
      split at moved
      · cases moved
      · cases moved
        rw [Scene.meet_event keeps.watched, keeps.input]
        change 0 + State.work _ ≤ _
        simp only [State.work, List.length_append]
        omega

theorem State.Keeps.work_follow {moves : List Move} (keeps : x.state.Keeps input name before updates)
    (untriggered : .meet .trigger ∉ moves) (run : x.follow? moves = some y) :
    moves.countP Move.isAct + y.state.work ≤
      x.state.work + 4 * (results input name (x.handled moves)).length := by
  induction moves generalizing x updates with
  | nil =>
    cases run
    exact Nat.le_of_eq (Nat.zero_add _)
  | cons move rest ih =>
    obtain ⟨z, moved, further⟩ := Scene.follow?_cons.1 run
    rw [List.mem_cons, not_or] at untriggered
    have now := keeps.work_move moved
    have later := ih (keeps.move (Ne.symm untriggered.1) moved) untriggered.2 further
    rw [Scene.handled_cons moved, results_append, List.length_append]
    rw [← List.singleton_append, List.countP_append]
    omega

end

/-- A loop that watches and hears no shutdown attempts some of the descriptions that the events
lead to, in their order. Once it has been told that no more will come it goes on until it has
stopped, within a number of steps that the events give, and then the last one has been attempted
last. -/
theorem Scene.attempts_of_follow? {x y : Scene} {name : String} {moves : List Move}
    (phase : x.state.phase = .subscribing) (watched : x.state.watched = some name)
    (fresh : x.state.updates = []) (untriggered : .meet .trigger ∉ moves)
    (run : x.follow? moves = some y) :
    ∃ made, y.state.attempts = x.state.attempts ++ made ∧
      made.Sublist (results x.state.plan.input name (x.handled moves)) ∧
      (y.state.phase = .stopped →
        made.getLast? = (results x.state.plan.input name (x.handled moves)).getLast?) ∧
      (y.state.isClosed = true → y.state.phase ≠ .stopped → ∃ action, (y.act? action).isSome) ∧
      moves.countP Move.isAct ≤
        4 * (results x.state.plan.input name (x.handled moves)).length + 2 := by
  have start : x.state.Keeps x.state.plan.input name x.state.attempts [] := by
    refine ⟨rfl, watched, phase ▸ trivial, .inl phase, ?_, [], (List.append_nil _).symm, ?_⟩
    · rw [phase]
      exact nofun
    · rw [State.inHand, phase, fresh]
      exact .refl _
  have kept := start.follow untriggered run
  have steps := start.work_follow untriggered run
  rw [List.nil_append] at kept
  obtain ⟨made, attempted, sublist, latest⟩ := kept.coalesced
  refine ⟨made, attempted, (List.sublist_append_left made _).trans sublist, ?_, kept.goes_on, ?_⟩
  · intro stopped
    have empty : y.state.inHand = [] := by
      rw [State.inHand, stopped, (kept.ended stopped).2]
      rfl
    rwa [empty, List.append_nil] at latest
  · rw [State.work, State.work, phase, fresh, Phase.remaining, List.length_nil] at steps
    omega

def Scene.watching : Scene where
  state := { plan := { input := "lb.toml", output := "envoy.yaml" }, phase := .subscribing,
             watched := some "lb.toml" }
  workspace := .fresh

/-- Two saves before the quiet period, the second of which overtakes the first, and a change of
another file. -/
def overtaking : List Move :=
  let saved (text : String) : List Move :=
    [.turn { Workspace.fresh with tree := Workspace.fresh.tree.attempt (.write "lb.toml" text.toUTF8) },
     .meet (.event ⟨.name, ["lb.toml"]⟩)]
  [.act .subscribe] ++ saved "" ++ [.act .take] ++ saved "[service]\n" ++
    [.act .rest, .meet (.event ⟨.create, ["other.toml"]⟩), .act .elapse, .act .drain, .act .redeliver,
     .meet .close, .act .finish]

theorem attempts_of_follow?_overtaking :
    ∃ y made, Scene.watching.follow? overtaking = some y ∧ y.state.phase = .stopped ∧
      y.state.attempts = made ∧ made.length = 1 ∧
      (results "lb.toml" "lb.toml" (Scene.watching.handled overtaking)).length = 2 ∧
      made.Sublist (results "lb.toml" "lb.toml" (Scene.watching.handled overtaking)) ∧
      made.getLast? = (results "lb.toml" "lb.toml" (Scene.watching.handled overtaking)).getLast? := by
  have runs : (Scene.watching.follow? overtaking).map
      (fun y => (y.state.phase, y.state.attempts.length)) = some (.stopped, 1) := by decide +kernel
  obtain ⟨y, run, ended⟩ := Option.map_eq_some_iff.1 runs
  obtain ⟨stopped, once⟩ := Prod.mk.inj ended
  obtain ⟨made, attempted, sublist, latest, -, -⟩ :=
    Scene.attempts_of_follow? rfl rfl rfl (by simp [overtaking]) run
  rw [attempted] at once
  exact ⟨y, made, run, stopped, attempted, once, by decide +kernel, sublist, latest stopped⟩

end ServiceProxy.Watch
