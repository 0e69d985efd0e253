import ServiceProxy.Watch.Loop

/-! What a watch loop in a workspace can do in one step. `Scene.Leads` lists the steps with their
guards and results; every step that is open to the loop is one of them. -/

set_option autoImplicit false

namespace ServiceProxy

namespace Workspace

/-- What a program ends with in a workspace, and what it makes of the workspace. -/
def outcome {α : Type} (w : Workspace) (program : Desk α) : α × Workspace := (program.run w).value

variable {α β : Type}

@[simp] theorem outcome_bind (w : Workspace) (x : Desk α) (f : α → Desk β) :
    w.outcome (x >>= f) = (w.outcome x).2.outcome (f (w.outcome x).1) := rfl

@[simp] theorem outcome_observe (w : Workspace) (run : Observed α) :
    w.outcome (access.observe run) = (run.value, w) := rfl

@[simp] theorem outcome_read (w : Workspace) (path : String) :
    w.outcome (access.read path) = (w.tree.read path, w) := rfl

@[simp] theorem outcome_canWatch (w : Workspace) (path : String) :
    w.outcome (access.canWatch path) = (w.tree.hasEntry path, w) := rfl

end Workspace

def Workspace.current? (w : Workspace) (path : String) : Option Description :=
  (Description.load path (w.tree.read path)).run.value.toOption

namespace Watcher

/-- The description that an event leads to: one that touches the file has it loaded. -/
def update? (w : Workspace) (path name : String) (event : FileEvent) : Option Description :=
  if event.touches name then w.current? path else none

theorem outcome_handle (w : Workspace) (path name : String) (event : FileEvent) :
    w.outcome (handle Workspace.access path name event) = (update? w path name event, w) := by
  unfold handle update?
  split
  · simp only [Workspace.outcome_bind, Workspace.outcome_observe, Workspace.outcome_read,
      Workspace.current?]
    cases (Description.load path (w.tree.read path)).run.value <;> rfl
  · rfl

theorem outcome_start (w : Workspace) (path : String) :
    (∃ name, Path.fileName? path = some name ∧
      w.outcome (start Workspace.access path) = (.ok name, w)) ∨
    ∃ e, w.outcome (start Workspace.access path) = (.error e, w) := by
  unfold start
  cases named : Path.fileName? path with
  | none => exact .inr ⟨_, rfl⟩
  | some name =>
    cases nul : Path.hasNul (Path.directory path) with
    | true =>
      simp only [nul, if_true]
      exact .inr ⟨_, rfl⟩
    | false =>
      simp only [nul, Bool.false_eq_true, if_false, Workspace.outcome_bind, Workspace.outcome_canWatch]
      cases w.tree.hasEntry (Path.directory path) with
      | error fault => exact .inr ⟨_, rfl⟩
      | ok _ => exact .inl ⟨name, rfl, rfl⟩

end Watcher

namespace Watch

def Phase.Listens : Phase → Prop
  | .waiting => True
  | .holding _ => True
  | .debouncing _ => True
  | _ => False

/-- What a run may do in a phase; to its start there is one order only. -/
def Phase.Admits : Phase → Action → Prop
  | .loading, action => action = .load
  | .delivering _, action => action = .deliver
  | .registering, action => action = .register
  | .stopped, _ => False
  | .failed _, _ => False
  | _, action => action ≠ .load ∧ action ≠ .deliver ∧ action ≠ .register

/-- What a step has the loop do. Most steps only lead to another state. -/
inductive Task where
  | load
  | deliver (first : Description)
  | register
  | redeliver (latest : Description)
  | stop
  | move (next : State)

def Task.run {m : Type → Type} [Monad m] (a : Access m) (s : State) : Task → m State
  | .load => s.load a
  | .deliver first => s.deliver a first
  | .register => s.register a
  | .redeliver latest => s.redeliver a latest
  | .stop => s.stop a
  | .move next => pure next

namespace State

/-- The steps that are open in a state, whatever the loop works in. -/
inductive Opens (s : State) : Action → Task → Prop
  | load (phase : s.phase = .loading) : Opens s .load .load
  | deliver {first : Description} (phase : s.phase = .delivering first) : Opens s .deliver (.deliver first)
  | register (phase : s.phase = .registering) : Opens s .register .register
  | subscribe (phase : s.phase = .subscribing) : Opens s .subscribe (.move s.subscribe)
  | take {latest : Description} {rest : List Description} (phase : s.phase = .waiting)
      (updates : s.updates = latest :: rest) :
      Opens s .take (.move { s with phase := .holding latest, updates := rest })
  | finish (phase : s.phase = .waiting) (updates : s.updates = []) (closed : s.isClosed = true) :
      Opens s .finish .stop
  | heed (listens : s.phase.Listens) (signalled : s.isSignalled = true) : Opens s .heed .stop
  | rest {latest : Description} (phase : s.phase = .holding latest) (unsignalled : s.isSignalled = false) :
      Opens s .rest (.move { s with phase := .debouncing latest })
  | skip {latest : Description} (phase : s.phase = .holding latest) (short : s.plan.debounceMillis = 0) :
      Opens s .elapse (.move { s with phase := .draining latest })
  | elapse {latest : Description} (phase : s.phase = .debouncing latest) :
      Opens s .elapse (.move { s with phase := .draining latest })
  | drain {held latest : Description} {rest : List Description} (phase : s.phase = .draining held)
      (updates : s.updates = latest :: rest) :
      Opens s .drain (.move { s with phase := .draining latest, updates := rest })
  | redeliver {latest : Description} (phase : s.phase = .draining latest) (updates : s.updates = []) :
      Opens s .redeliver (.redeliver latest)

variable {m : Type → Type} [Monad m] {a : Access m} {s : State} {action : Action}

theorem exists_opens {run : m State} (isOpen : s.step? a action = some run) :
    ∃ task, s.Opens action task ∧ task.run a s = run := by
  -- For each action the phases to which it is closed drop out, and one step is left.
  cases action with
  | load =>
    simp only [step?] at isOpen
    split at isOpen
    · rename_i phase
      cases isOpen
      exact ⟨_, .load phase, rfl⟩
    · cases isOpen
  | deliver =>
    simp only [step?] at isOpen
    split at isOpen
    · rename_i phase
      cases isOpen
      exact ⟨_, .deliver phase, rfl⟩
    · cases isOpen
  | register =>
    simp only [step?] at isOpen
    split at isOpen
    · rename_i phase
      cases isOpen
      exact ⟨_, .register phase, rfl⟩
    · cases isOpen
  | subscribe =>
    simp only [step?] at isOpen
    split at isOpen
    · rename_i phase
      cases isOpen
      exact ⟨_, .subscribe phase, rfl⟩
    · cases isOpen
  | take =>
    simp only [step?] at isOpen
    split at isOpen
    · rename_i phase updates
      cases isOpen
      exact ⟨_, .take phase updates, rfl⟩
    · cases isOpen
  | finish =>
    simp only [step?] at isOpen
    split at isOpen
    · rename_i phase updates
      split at isOpen
      · rename_i closed
        cases isOpen
        exact ⟨_, .finish phase updates closed, rfl⟩
      · cases isOpen
    · cases isOpen
  | heed =>
    simp only [step?] at isOpen
    split at isOpen
    iterate 3
      · rename_i phase
        split at isOpen
        · rename_i signalled
          cases isOpen
          exact ⟨_, .heed (phase ▸ trivial) signalled, rfl⟩
        · cases isOpen
    · cases isOpen
  | rest =>
    simp only [step?] at isOpen
    split at isOpen
    · rename_i phase
      split at isOpen
      · cases isOpen
      · rename_i unsignalled
        cases isOpen
        exact ⟨_, .rest phase (Bool.eq_false_iff.2 unsignalled), rfl⟩
    · cases isOpen
  | elapse =>
    simp only [step?] at isOpen
    split at isOpen
    · rename_i phase
      split at isOpen
      · rename_i short
        cases isOpen
        exact ⟨_, .skip phase short, rfl⟩
      · cases isOpen
    · rename_i phase
      cases isOpen
      exact ⟨_, .elapse phase, rfl⟩
    · cases isOpen
  | drain =>
    simp only [step?] at isOpen
    split at isOpen
    · rename_i phase updates
      cases isOpen
      exact ⟨_, .drain phase updates, rfl⟩
    · cases isOpen
  | redeliver =>
    simp only [step?] at isOpen
    split at isOpen
    · rename_i phase updates
      cases isOpen
      exact ⟨_, .redeliver phase updates, rfl⟩
    · cases isOpen

theorem Opens.step? {task : Task} (opens : s.Opens action task) (a : Access m) :
    s.step? a action = some (task.run a s) := by
  cases opens with
  | load phase | deliver phase | register phase | subscribe phase | elapse phase =>
    simp only [State.step?, phase, Task.run]
  | take phase updates | drain phase updates | redeliver phase updates =>
    simp only [State.step?, phase, updates, Task.run]
  | finish phase updates closed => simp only [State.step?, phase, updates, closed, if_true, Task.run]
  | heed listens signalled =>
    cases phase : s.phase <;> simp only [phase, Phase.Listens] at listens <;>
      simp only [State.step?, phase, signalled, if_true, Task.run]
  | rest phase unsignalled =>
    simp only [State.step?, phase, unsignalled, Bool.false_eq_true, if_false, Task.run]
  | skip phase short => simp only [State.step?, phase, short, if_true, Task.run]

end State

structure Scene where
  state : State
  workspace : Workspace

def Scene.delivered (x : Scene) (d : Description) : Workspace :=
  (x.workspace.outcome (d.deliver Workspace.access x.state.plan.strict x.state.plan.output)).2

def Scene.ofOutcome (outcome : State × Workspace) : Scene := ⟨outcome.1, outcome.2⟩

def Scene.act? (x : Scene) (action : Action) : Option Scene :=
  (x.state.step? Workspace.access action).map fun run => .ofOutcome (x.workspace.outcome run)

/-- The steps of a loop, each with the state that it needs and the state that it leads to. -/
inductive Scene.Leads (x : Scene) : Action → Scene → Prop
  | load {first : Description} (phase : x.state.phase = .loading)
      (loaded : x.workspace.current? x.state.plan.input = some first) :
      Leads x .load { x with state.phase := .delivering first }
  | loadFailed {e : RunError} (phase : x.state.phase = .loading) :
      Leads x .load { x with state.phase := .failed e }
  | deliver {first : Description} (phase : x.state.phase = .delivering first) :
      Leads x .deliver ⟨{ x.state with attempts := x.state.attempts ++ [first], phase := .registering },
        x.delivered first⟩
  | deliverFailed {first : Description} {e : RunError} (phase : x.state.phase = .delivering first) :
      Leads x .deliver ⟨{ x.state with attempts := x.state.attempts ++ [first], phase := .failed e },
        x.delivered first⟩
  | register {name : String} (phase : x.state.phase = .registering)
      (named : Path.fileName? x.state.plan.input = some name) :
      Leads x .register { x with state.watched := some name, state.phase := .subscribing }
  | registerFailed {e : RunError} (phase : x.state.phase = .registering) :
      Leads x .register { x with state.phase := .failed e }
  | subscribe (phase : x.state.phase = .subscribing) :
      Leads x .subscribe { x with state := x.state.subscribe }
  | take {latest : Description} {rest : List Description} (phase : x.state.phase = .waiting)
      (updates : x.state.updates = latest :: rest) :
      Leads x .take { x with state.phase := .holding latest, state.updates := rest }
  | finish (phase : x.state.phase = .waiting) (updates : x.state.updates = [])
      (closed : x.state.isClosed = true) : Leads x .finish { x with state.phase := .stopped }
  | heed (phase : x.state.phase.Listens) (signalled : x.state.isSignalled = true) :
      Leads x .heed { x with state.phase := .stopped }
  | rest {latest : Description} (phase : x.state.phase = .holding latest)
      (unsignalled : x.state.isSignalled = false) :
      Leads x .rest { x with state.phase := .debouncing latest }
  | skip {latest : Description} (phase : x.state.phase = .holding latest)
      (short : x.state.plan.debounceMillis = 0) :
      Leads x .elapse { x with state.phase := .draining latest }
  | elapse {latest : Description} (phase : x.state.phase = .debouncing latest) :
      Leads x .elapse { x with state.phase := .draining latest }
  | drain {held latest : Description} {rest : List Description}
      (phase : x.state.phase = .draining held) (updates : x.state.updates = latest :: rest) :
      Leads x .drain { x with state.phase := .draining latest, state.updates := rest }
  | redeliver {latest : Description} (phase : x.state.phase = .draining latest)
      (updates : x.state.updates = []) :
      Leads x .redeliver ⟨{ x.state with phase := .waiting, attempts := x.state.attempts ++ [latest] },
        x.delivered latest⟩

namespace Scene.Leads

variable {x y : Scene} {action : Action}

theorem plan (step : x.Leads action y) : y.state.plan = x.state.plan := by
  cases step <;> rfl

theorem admitted (step : x.Leads action y) : x.state.phase.Admits action := by
  cases step with
  | heed listens =>
    revert listens
    cases x.state.phase <;> simp [Phase.Listens, Phase.Admits]
  | load phase | loadFailed phase | deliver phase | deliverFailed phase | register phase
  | registerFailed phase | subscribe phase | take phase | finish phase | rest phase | skip phase
  | elapse phase | drain phase | redeliver phase => simp [phase, Phase.Admits]

end Scene.Leads

namespace Scene

theorem outcome_load (x : Scene) :
    x.workspace.outcome (x.state.load Workspace.access) =
      (match (Description.load x.state.plan.input (x.workspace.tree.read x.state.plan.input)).run.value with
        | .ok first => { x.state with phase := .delivering first }
        | .error e => { x.state with phase := .failed (.load e) }, x.workspace) := by
  unfold State.load
  simp only [Workspace.outcome_bind, Workspace.outcome_observe, Workspace.outcome_read]
  cases (Description.load x.state.plan.input (x.workspace.tree.read x.state.plan.input)).run.value <;> rfl

/-- An attempt is a delivery and an entry for it. -/
theorem outcome_attempt (x : Scene) (d : Description) :
    x.workspace.outcome (x.state.attempt Workspace.access d) =
      (((x.workspace.outcome (d.deliver Workspace.access x.state.plan.strict x.state.plan.output)).1,
        { x.state with attempts := x.state.attempts ++ [d] }), x.delivered d) := rfl

theorem leads_deliver {x : Scene} {first : Description} (phase : x.state.phase = .delivering first) :
    x.Leads .deliver (.ofOutcome (x.workspace.outcome (x.state.deliver Workspace.access first))) := by
  unfold State.deliver
  simp only [Workspace.outcome_bind, outcome_attempt]
  cases ended : (x.workspace.outcome
      (first.deliver Workspace.access x.state.plan.strict x.state.plan.output)).1 with
  | ok _ => exact .deliver phase
  | error e => exact .deliverFailed phase

theorem leads_register {x : Scene} (phase : x.state.phase = .registering) :
    x.Leads .register (.ofOutcome (x.workspace.outcome (x.state.register Workspace.access))) := by
  unfold State.register
  simp only [Workspace.outcome_bind]
  rcases Watcher.outcome_start x.workspace x.state.plan.input with ⟨name, named, started⟩ | ⟨e, failed⟩
  · rw [started]
    exact .register phase named
  · rw [failed]
    exact .registerFailed phase

theorem leads_redeliver {x : Scene} {latest : Description} (phase : x.state.phase = .draining latest)
    (updates : x.state.updates = []) :
    x.Leads .redeliver (.ofOutcome (x.workspace.outcome (x.state.redeliver Workspace.access latest))) := by
  unfold State.redeliver
  simp only [Workspace.outcome_bind, outcome_attempt]
  cases (x.workspace.outcome
      (latest.deliver Workspace.access x.state.plan.strict x.state.plan.output)).1 with
  | ok _ => exact .redeliver phase updates
  | error e => exact .redeliver phase updates

theorem leads_of_act? {x y : Scene} {action : Action} (acted : x.act? action = some y) :
    x.Leads action y := by
  obtain ⟨run, isOpen, rfl⟩ := Option.map_eq_some_iff.1 acted
  obtain ⟨task, opens, rfl⟩ := State.exists_opens isOpen
  cases opens with
  | load phase =>
    rw [Task.run, outcome_load]
    cases loaded : (Description.load x.state.plan.input
        (x.workspace.tree.read x.state.plan.input)).run.value with
    | ok first => exact .load phase (by rw [Workspace.current?, loaded]; rfl)
    | error e => exact .loadFailed phase
  | deliver phase => exact leads_deliver phase
  | register phase => exact leads_register phase
  | subscribe phase => exact .subscribe phase
  | take phase updates => exact .take phase updates
  | finish phase updates closed => exact .finish phase updates closed
  | heed listens signalled => exact .heed listens signalled
  | rest phase unsignalled => exact .rest phase unsignalled
  | skip phase short => exact .skip phase short
  | elapse phase => exact .elapse phase
  | drain phase updates => exact .drain phase updates
  | redeliver phase updates => exact leads_redeliver phase updates

end Scene

end Watch

end ServiceProxy
