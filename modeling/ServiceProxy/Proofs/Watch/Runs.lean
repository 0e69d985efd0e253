import ServiceProxy.Proofs.Watch.Steps

/-! Runs of a watch loop as lists of moves. Between any two steps of the loop something may come
to it from outside, and the workspace may change in any way. Every run that goes on ends: each
step leaves less to do, and only an update gives more. -/

set_option autoImplicit false

namespace ServiceProxy.Watch

inductive Move where
  | act (action : Action)
  | meet (incident : Incident)
  /-- The workspace changes beside the loop. -/
  | turn (workspace : Workspace)

def Move.isAct : Move → Bool
  | .act _ => true
  | _ => false

namespace Scene

def meet (x : Scene) (incident : Incident) : Scene :=
  .ofOutcome (x.workspace.outcome (x.state.meet Workspace.access incident))

/-- One move. No event is handled after the channel of updates has been closed. -/
def move? (x : Scene) : Move → Option Scene
  | .act action => x.act? action
  | .meet (.event e) => if x.state.isClosed then none else some (x.meet (.event e))
  | .meet incident => some (x.meet incident)
  | .turn workspace => some { x with workspace }

def follow? : Scene → List Move → Option Scene
  | x, [] => some x
  | x, move :: rest => (x.move? move).bind fun y => y.follow? rest

def handled? (x : Scene) : Move → Option (FileEvent × Workspace)
  | .meet (.event e) => some (e, x.workspace)
  | _ => none

/-- The events of a run in their order, each with the workspace of its moment. -/
def handled : Scene → List Move → List (FileEvent × Workspace)
  | _, [] => []
  | x, move :: rest =>
    match x.move? move with
    | none => []
    | some y => (x.handled? move).toList ++ y.handled rest

theorem follow?_cons {x z : Scene} {move : Move} {rest : List Move} :
    x.follow? (move :: rest) = some z ↔ ∃ y, x.move? move = some y ∧ y.follow? rest = some z := by
  rw [follow?, Option.bind_eq_some_iff]

theorem follow?_append {x z : Scene} {earlier later : List Move} :
    x.follow? (earlier ++ later) = some z ↔ ∃ y, x.follow? earlier = some y ∧ y.follow? later = some z := by
  induction earlier generalizing x with
  | nil => exact ⟨fun run => ⟨x, rfl, run⟩, fun ⟨_, same, run⟩ => Option.some.inj same ▸ run⟩
  | cons move rest ih =>
    rw [List.cons_append, follow?_cons]
    constructor
    · rintro ⟨w, moved, further⟩
      obtain ⟨y, run, others⟩ := ih.1 further
      exact ⟨y, follow?_cons.2 ⟨w, moved, run⟩, others⟩
    · rintro ⟨y, run, others⟩
      obtain ⟨w, moved, further⟩ := follow?_cons.1 run
      exact ⟨w, moved, ih.2 ⟨y, further, others⟩⟩

theorem follow?_singleton {x y : Scene} {move : Move} : x.follow? [move] = some y ↔ x.move? move = some y := by
  rw [follow?_cons]
  exact ⟨fun ⟨_, moved, same⟩ => Option.some.inj same ▸ moved, fun moved => ⟨y, moved, rfl⟩⟩

theorem handled_cons {x y : Scene} {move : Move} {rest : List Move} (moved : x.move? move = some y) :
    x.handled (move :: rest) = (x.handled? move).toList ++ y.handled rest := by
  rw [handled, moved]

theorem meet_event {x : Scene} {name : String} (watched : x.state.watched = some name)
    (e : FileEvent) :
    x.meet (.event e) = { x with state.updates := x.state.updates ++
      (Watcher.update? x.workspace x.state.plan.input name e).toList } := by
  obtain ⟨⟨plan, phase, _, updates, isClosed, shutdown, receiver, attempts⟩, w⟩ := x
  cases watched
  unfold meet State.meet
  simp only [Workspace.outcome_bind, Watcher.outcome_handle]
  cases Watcher.update? w plan.input name e with
  | none => simp only [Option.toList_none, List.append_nil]; rfl
  | some description => rfl

theorem exists_meet_event (x : Scene) (e : FileEvent) :
    ∃ updates, x.meet (.event e) = { x with state.updates := updates } := by
  cases watched : x.state.watched with
  | some name => exact ⟨_, meet_event watched e⟩
  | none =>
    obtain ⟨⟨plan, phase, _, updates, isClosed, shutdown, receiver, attempts⟩, workspace⟩ := x
    cases watched
    exact ⟨updates, rfl⟩

theorem phase_meet (x : Scene) (incident : Incident) :
    (x.meet incident).state.phase = x.state.phase := by
  cases incident with
  | trigger | close => rfl
  | event e =>
    obtain ⟨updates, met⟩ := x.exists_meet_event e
    rw [met]

end Scene

def Phase.remaining : Phase → Nat
  | .loading => 5
  | .delivering _ => 4
  | .registering => 3
  | .subscribing => 2
  | .waiting => 1
  | .holding _ => 4
  | .debouncing _ => 3
  | .draining _ => 2
  | .stopped => 0
  | .failed _ => 0

def State.work (s : State) : Nat := 4 * s.updates.length + s.phase.remaining

theorem Scene.Leads.work_lt {x y : Scene} {action : Action} (step : x.Leads action y) :
    y.state.work < x.state.work := by
  cases step with
  | heed phase =>
    simp only [State.work]
    revert phase
    cases x.state.phase <;> simp [Phase.Listens, Phase.remaining]
  | _ => simp_all [State.work, Phase.remaining, State.subscribe] <;> omega

end ServiceProxy.Watch
