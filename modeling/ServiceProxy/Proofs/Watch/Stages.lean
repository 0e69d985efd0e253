import Mathlib.Logic.Relation
import ServiceProxy.Proofs.Files.Dialogue
import ServiceProxy.Proofs.Watch.Coalescing

/-! A watch loop between one file operation and the next. The loop and its watcher ask for file
operations, each of which may come to anything that the file tree allows or fail for any reason,
a write after some bytes; meanwhile updates and signals come, and the tree changes in places that
are not the loop's. Main statement: the loop in a workspace is one of these. -/

set_option autoImplicit false

namespace ServiceProxy

namespace Watch

/-- The phases from the first delivery on, as long as nothing but the watcher fails. -/
def Phase.Goes : Phase → Prop
  | .registering => True
  | .failed (.watch _) => True
  | phase => phase.Watches

theorem Phase.Listens.watches {phase : Phase} (listens : phase.Listens) : phase.Watches := by
  cases phase <;> first | exact listens | exact listens.elim

namespace State

def subject? (s : State) (action : Action) : Option Description :=
  match s.phase, action with
  | .delivering first, .deliver => some first
  | .draining latest, .redeliver => some latest
  | _, _ => none

end State

def Task.subject? : Task → Option Description
  | .deliver first => some first
  | .redeliver latest => some latest
  | _ => none

namespace State.Opens

variable {s next : State} {action : Action} {task : Task}

theorem subject?_eq (opens : s.Opens action task) : s.subject? action = task.subject? := by
  cases opens with
  | heed listens =>
    cases phase : s.phase <;> simp only [phase, Phase.Listens] at listens <;>
      simp [subject?, phase, Task.subject?]
  | load phase | deliver phase | register phase | subscribe phase | take phase | finish phase
  | rest phase | skip phase | elapse phase | drain phase | redeliver phase =>
    simp [subject?, phase, Task.subject?]

theorem watches_of_stop (opens : s.Opens action .stop) : s.phase.Watches := by
  cases opens with
  | finish phase => exact phase ▸ trivial
  | heed listens => exact Phase.Listens.watches listens

theorem watches_of_move (opens : s.Opens action (.move next)) :
    s.phase.Watches ∧ next.plan = s.plan ∧ next.phase.Watches := by
  cases opens with
  | subscribe phase | take phase | rest phase | skip phase | elapse phase | drain phase =>
    exact ⟨phase ▸ trivial, rfl, trivial⟩

end State.Opens

/-- What is kept of the course of a run. -/
inductive Deed where
  | loaded (contents : Except FileFault ByteArray)
  | begun (d : Description)
  | acted (action : FileAction) (result : Except FileFault Unit)

/-- A run at some point: what the loop is at, what its watcher is at, the file tree, and what has
happened, the latest first. -/
structure Stage where
  run : Dialogue State
  watcher : Option (Dialogue (Option Description)) := none
  tree : Tree
  log : List Deed := []

namespace Stage

def outset (plan : Plan) (shutdown : Shutdown) (start : Tree) : Stage where
  run := .done { plan, shutdown }
  tree := start

def affect (x : Stage) (change : State → State) : Stage := { x with run := change <$> x.run }

end Stage

end Watch

namespace Tree

def heldAt (t : Tree) (path : String) : Option Holding := (t.locate path).toOption.bind t.get?

end Tree

namespace Watch

/-- What can happen next. The loop takes a step or goes on with one, the watcher handles an event
on its own, and things come from outside. Nobody else writes the output, or its temporary file
while the loop is at it. -/
inductive Step (plan : Plan) (x : Stage) : Stage → Prop
  | act {s : State} {action : Action} {run : Dialogue State} (rests : x.run = .done s)
    (isOpen : s.step? Dialogue.access action = some run) :
    Step plan x { x with run, log := ((s.subject? action).map Deed.begun).toList ++ x.log }
  | read {path : String} {next : Except FileFault ByteArray → Dialogue State}
    (asks : x.run = .ask (.read path) next) (contents : Except FileFault ByteArray) :
    Step plan x { x with run := next contents, log := .loaded contents :: x.log }
  | watch {path : String} {next : Except FileFault Unit → Dialogue State}
    (asks : x.run = .ask (.watch path) next) (answer : Except FileFault Unit) :
    Step plan x { x with run := next answer }
  | print {text : String} {next : Except FileFault Unit → Dialogue State}
    (asks : x.run = .ask (.print text) next) (answer : Except FileFault Unit) :
    Step plan x { x with run := next answer }
  | perform {action : FileAction} {next : Except FileFault Unit → Dialogue State} {tree : Tree}
    (asks : x.run = .ask (.act action) next) (performed : x.tree.perform action = .ok tree) :
    Step plan x { x with run := next (.ok ()), tree, log := .acted action (.ok ()) :: x.log }
  | fail {action : FileAction} {next : Except FileFault Unit → Dialogue State}
    (asks : x.run = .ask (.act action) next) (fault : FileFault) :
    Step plan x { x with run := next (.error fault), log := .acted action (.error fault) :: x.log }
  /-- The file is open and holds the first bytes. -/
  | writeSome {path : String} {bytes : ByteArray} {next : Except FileFault Unit → Dialogue State} {tree : Tree}
    (asks : x.run = .ask (.act (.write path bytes)) next) (count : Nat)
    (performed : x.tree.perform (.write path (bytes.extract 0 count)) = .ok tree) : Step plan x { x with tree }
  | notice (idle : x.watcher = none) (name : String) (event : FileEvent) :
    Step plan x { x with watcher := some (Watcher.handle Dialogue.access plan.input name event) }
  | reload {path : String} {next : Except FileFault ByteArray → Dialogue (Option Description)}
    (asks : x.watcher = some (.ask (.read path) next)) (contents : Except FileFault ByteArray) :
    Step plan x { x with watcher := some (next contents) }
  | update {sent : Option Description} (handled : x.watcher = some (.done sent)) :
    Step plan x { x.affect fun s => { s with updates := s.updates ++ sent.toList } with watcher := none }
  | trigger : Step plan x (x.affect fun s => { s with shutdown := s.shutdown.trigger })
  | close : Step plan x (x.affect fun s => { s with isClosed := true })
  | turn {tree : Tree} (spared : tree.heldAt plan.output = x.tree.heldAt plan.output)
    (sparedBeside : ∀ action next, x.run = .ask (.act action) next →
      tree.heldAt (Path.temporary plan.output) = x.tree.heldAt (Path.temporary plan.output)) :
    Step plan x { x with tree }

def Reaches (plan : Plan) : Stage → Stage → Prop := Relation.ReflTransGen (Step plan)

end Watch

/-! ## The loop in a workspace -/

/-- The dialogue comes to what the program comes to. -/
def Dialogue.Agrees {α : Type} (x : Dialogue α) (program : Desk α) : Prop :=
  ∀ w : Workspace, x.carryOut w = w.outcome program

namespace Dialogue.Agrees

variable {α β : Type}

theorem pure (a : α) : Agrees (Pure.pure a) (Pure.pure a) := fun _ => rfl

-- A program that is written over any access agrees with itself part by part, so each of the lemmas
-- below follows the text of its program.
theorem bind {x : Dialogue α} {program : Desk α} {f : α → Dialogue β} {g : α → Desk β}
    (first : x.Agrees program) (others : ∀ a, (f a).Agrees (g a)) : (x >>= f).Agrees (program >>= g) := by
  intro w
  rw [carryOut_bind, first w, others _ _, Workspace.outcome_bind]

theorem observe (run : Observed α) : (access.observe run).Agrees (Workspace.access.observe run) := fun _ => rfl

theorem deliver (path document : String) :
    (access.deliver path document).Agrees (Workspace.access.deliver path document) :=
  fun w => carryOut_ofProcedure w _

theorem put (path document : String) : (access.put path document).Agrees (Workspace.access.put path document) := by
  unfold Access.put
  split
  · exact bind (fun _ => rfl) fun _ => .pure _
  · refine bind (.deliver path document) fun result => ?_
    cases result with
    | error e => exact .pure _
    | ok _ => exact bind (.observe _) fun _ => .pure _

theorem deliver_description (d : Description) (strict : Bool) (output : String) :
    (d.deliver access strict output).Agrees (d.deliver Workspace.access strict output) := by
  refine bind (.observe _) fun compiled => ?_
  cases compiled with
  | error e => exact .pure _
  | ok document =>
    refine bind (.put output document) fun result => ?_
    cases result with
    | error e => exact bind (.observe _) fun _ => .pure _
    | ok _ => exact .pure _

theorem start (path : String) : (Watcher.start access path).Agrees (Watcher.start Workspace.access path) := by
  unfold Watcher.start
  split
  · exact .pure _
  · dsimp only
    split
    · exact .pure _
    · refine bind (fun _ => rfl) fun answer => ?_
      cases answer with
      | error fault => exact .pure _
      | ok _ => exact bind (.observe _) fun _ => .pure _

end Dialogue.Agrees

namespace Watch

namespace State

open Dialogue.Agrees

theorem agrees_attempt (s : State) (d : Description) :
    (s.attempt Dialogue.access d).Agrees (s.attempt Workspace.access d) :=
  bind (deliver_description d _ _) fun _ => .pure _

theorem exists_agrees {s : State} {action : Action} {program : Desk State}
    (isOpen : s.step? Workspace.access action = some program) :
    ∃ run, s.step? Dialogue.access action = some run ∧ run.Agrees program := by
  obtain ⟨task, opens, rfl⟩ := exists_opens isOpen
  refine ⟨_, opens.step? Dialogue.access, ?_⟩
  cases task with
  | load =>
    refine bind (fun _ => rfl) fun contents => bind (observe _) fun loaded => ?_
    cases loaded <;> exact .pure _
  | deliver first =>
    refine bind (s.agrees_attempt first) fun (result, _) => ?_
    cases result with
    | error e => exact .pure _
    | ok _ => exact bind (observe _) fun _ => .pure _
  | register =>
    refine bind (start _) fun result => ?_
    cases result <;> exact .pure _
  | redeliver latest =>
    refine bind (s.agrees_attempt latest) fun (result, _) => ?_
    cases result <;> exact bind (observe _) fun _ => .pure _
  | stop => exact bind (observe _) fun _ => .pure _
  | move next => exact .pure _

end State

namespace Stage

/-- The loop is between two steps, and its watcher is idle. -/
structure At (x : Stage) (scene : Scene) : Prop where
  rests : x.run = .done scene.state
  idle : x.watcher = none
  tree : x.tree = scene.workspace.tree

/-- Answers that are those of a workspace lead to the end of a dialogue. -/
theorem exists_reaches_carryOut (plan : Plan) (x : Stage) {w : Workspace} (tree : x.tree = w.tree) :
    ∃ log, Reaches plan x
      { x with run := .done (x.run.carryOut w).1, tree := (x.run.carryOut w).2.tree, log } := by
  obtain ⟨run, watcher, _, log⟩ := x
  obtain rfl := tree
  -- The loop is left alone to the end of its dialogue, so each request is one step.
  induction run generalizing w log with
  | done result => exact ⟨log, .refl⟩
  | ask request next ih =>
    cases request with
    | read path =>
      obtain ⟨more, reaches⟩ := ih (w.tree.read path) (.loaded (w.tree.read path) :: log)
      exact ⟨more, .head (.read rfl _) reaches⟩
    | watch path =>
      obtain ⟨more, reaches⟩ := ih (w.tree.hasEntry path) log
      exact ⟨more, .head (.watch rfl _) reaches⟩
    | print text =>
      obtain ⟨more, reaches⟩ := @ih (.ok ()) { w with printed := w.printed ++ text } log
      exact ⟨more, .head (.print rfl _) reaches⟩
    | act action =>
      simp only [Dialogue.carryOut]
      cases performed : w.tree.perform action with
      | ok tree =>
        obtain ⟨more, reaches⟩ := @ih (.ok ()) { w with tree } (.acted action (.ok ()) :: log)
        exact ⟨more, .head (.perform rfl performed) reaches⟩
      | error fault =>
        obtain ⟨more, reaches⟩ := ih (.error fault) (.acted action (.error fault) :: log)
        exact ⟨more, .head (.fail rfl fault) reaches⟩

variable {plan : Plan} {x : Stage} {scene : Scene}

theorem At.act (rest : x.At scene) {action : Action} {y : Scene} (acted : scene.act? action = some y) :
    ∃ z, Reaches plan x z ∧ z.At y := by
  obtain ⟨program, isOpen, rfl⟩ := Option.map_eq_some_iff.1 acted
  obtain ⟨run, isOpen, agrees⟩ := State.exists_agrees isOpen
  have begins : Step plan x _ := .act rest.rests isOpen
  obtain ⟨log, ends⟩ := exists_reaches_carryOut plan
    { x with run, log := ((scene.state.subject? action).map Deed.begun).toList ++ x.log } rest.tree
  refine ⟨_, .head begins ends, ?_, rest.idle, ?_⟩
  · exact congrArg (fun outcome => Dialogue.done outcome.1) (agrees scene.workspace)
  · exact congrArg (fun outcome => outcome.2.tree) (agrees scene.workspace)

theorem handle_eq (path name : String) (event : FileEvent) :
    Watcher.handle Dialogue.access path name event =
      if event.touches name then
        .ask (.read path) fun contents => .done (Description.load path contents).run.value.toOption
      else .done none := by
  unfold Watcher.handle
  split
  · simp only [Dialogue.read_bind, Dialogue.observe_bind]
    refine congrArg (Dialogue.ask (.read path)) (funext fun contents => ?_)
    cases (Description.load path contents).run.value <;> rfl
  · rfl

theorem step_update {s : State} {sent : Option Description} (rests : x.run = .done s)
    (handled : x.watcher = some (.done sent)) :
    Step plan x { x with run := .done { s with updates := s.updates ++ sent.toList }, watcher := none } := by
  have step : Step plan x _ := .update handled
  rw [affect, rests] at step
  exact step

theorem meet_event_of_unwatched (watched : scene.state.watched = none) (event : FileEvent) :
    scene.meet (.event event) = scene := by
  unfold Scene.meet State.meet
  simp only [watched]
  rfl

theorem At.event (rest : x.At scene) (event : FileEvent) :
    ∃ z, Reaches scene.state.plan x z ∧ z.At (scene.meet (.event event)) := by
  cases watched : scene.state.watched with
  | none =>
    rw [meet_event_of_unwatched watched]
    exact ⟨x, .refl, rest⟩
  | some name =>
    have noticed : Step scene.state.plan x _ := .notice rest.idle name event
    rw [handle_eq] at noticed
    rw [Scene.meet_event watched, Watcher.update?]
    cases touches : event.touches name with
    | false =>
      rw [touches] at noticed
      exact ⟨_, .head noticed (.single (step_update rest.rests rfl)), rfl, rfl, rest.tree⟩
    | true =>
      rw [touches] at noticed
      refine ⟨_, .head noticed (.head (.reload rfl (x.tree.read scene.state.plan.input))
        (.single (step_update rest.rests rfl))), ?_, rfl, rest.tree⟩
      rw [rest.tree]
      rfl

end Stage

/-- A move of a loop in a workspace in which nobody else writes the output. -/
def Scene.Moves (x y : Scene) : Prop :=
  ∃ move, x.move? move = some y ∧
    (move.isAct = true ∨ y.workspace.tree.heldAt x.state.plan.output = x.workspace.tree.heldAt x.state.plan.output)

theorem Scene.Moves.plan {x y : Scene} (moves : x.Moves y) : y.state.plan = x.state.plan := by
  obtain ⟨move, moved, -⟩ := moves
  cases move with
  | act action => exact (leads_of_act? moved).plan
  | turn workspace =>
    cases moved
    rfl
  | meet incident =>
    cases incident with
    | trigger | close =>
      cases moved
      rfl
    | event e =>
      simp only [move?] at moved
      split at moved
      · cases moved
      · cases moved
        cases watched : x.state.watched with
        | some name => rw [meet_event watched]
        | none => rw [Stage.meet_event_of_unwatched watched]

namespace Stage

variable {x : Stage} {scene y : Scene}

theorem At.move (rest : x.At scene) (moves : scene.Moves y) :
    ∃ z, Reaches scene.state.plan x z ∧ z.At y := by
  obtain ⟨move, moved, spared⟩ := moves
  cases move with
  | act action => exact rest.act moved
  | turn workspace =>
    cases moved
    have same := spared.resolve_left nofun
    have turned : Step scene.state.plan x { x with tree := workspace.tree } :=
      .turn (by rw [same, rest.tree]) fun action next asks => by cases rest.rests.symm.trans asks
    exact ⟨_, .single turned, rest.rests, rest.idle, rfl⟩
  | meet incident =>
    cases incident with
    | event e =>
      simp only [Scene.move?] at moved
      split at moved
      · cases moved
      · cases moved
        exact rest.event e
    | trigger =>
      cases moved
      have triggered : Step scene.state.plan x _ := .trigger
      refine ⟨_, .single triggered, ?_, rest.idle, rest.tree⟩
      rw [affect, rest.rests]
      rfl
    | close =>
      cases moved
      have closed : Step scene.state.plan x _ := .close
      refine ⟨_, .single closed, ?_, rest.idle, rest.tree⟩
      rw [affect, rest.rests]
      rfl

/-- A run of the loop in a workspace is a run between file operations. -/
theorem At.run (rest : x.At scene) (run : Relation.ReflTransGen Scene.Moves scene y) :
    ∃ z, Reaches scene.state.plan x z ∧ z.At y := by
  -- The steps depend on the plan, which every move keeps.
  suffices ∃ z, Reaches scene.state.plan x z ∧ z.At y ∧ y.state.plan = scene.state.plan by
    obtain ⟨z, reaches, there, -⟩ := this
    exact ⟨z, reaches, there⟩
  induction run with
  | refl => exact ⟨x, .refl, rest, rfl⟩
  | tail _ moves ih =>
    obtain ⟨z, reaches, there, samePlan⟩ := ih
    obtain ⟨next, further, there⟩ := there.move moves
    exact ⟨next, reaches.trans (samePlan ▸ further), there, moves.plan.trans samePlan⟩

end Stage

end Watch

end ServiceProxy
