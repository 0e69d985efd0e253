import ServiceProxy.Proofs.Outcome
import ServiceProxy.Proofs.Watch.Coalescing
import ServiceProxy.Proofs.Watch.Contents

/-! Saves of the description file beside a watch loop. A save posts an event once the watcher has
been started, and the watcher handles the events that wait in their order. The file is read
before it is watched, and what is saved in between posts nothing: main statement, when the last
description that the loop attempted to deliver is the one in the file. -/

set_option autoImplicit false

namespace ServiceProxy.Watch

/-- A watch loop, the workspace around it, and the events that the watcher has yet to handle. -/
structure Vigil where
  scene : Scene
  pending : List FileEvent := []

namespace Vigil

inductive Move where
  | act (action : Action)
  | save (content : String)
  | handle
  | trigger
  deriving DecidableEq

def Move.content? : Move → Option String
  | .save content => some content
  | _ => none

def start (plan : Plan) (workspace : Workspace) : Vigil where
  scene := ⟨{ plan }, workspace⟩

def save (x : Vigil) (content : String) : Vigil where
  scene := { x.scene with workspace := saved x.scene.workspace x.scene.state.plan.input content }
  pending :=
    if x.scene.state.watched.isSome then
      x.pending ++ [(Edit.save content).event x.scene.state.plan.input]
    else x.pending

def move? (x : Vigil) : Move → Option Vigil
  | .act action => (x.scene.act? action).map fun scene => { x with scene }
  | .save content => some (x.save content)
  | .handle =>
    match x.pending with
    | [] => none
    | e :: rest => some ⟨x.scene.meet (.event e), rest⟩
  | .trigger => some { x with scene := x.scene.meet .trigger }

def follow? : Vigil → List Move → Option Vigil
  | x, [] => some x
  | x, move :: rest => (x.move? move).bind fun y => y.follow? rest

theorem follow?_cons {x z : Vigil} {move : Move} {rest : List Move} :
    x.follow? (move :: rest) = some z ↔ ∃ y, x.move? move = some y ∧ y.follow? rest = some z := by
  rw [follow?, Option.bind_eq_some_iff]

/-- The loop waits for an update, and none is on its way. -/
structure Idle (x : Vigil) : Prop where
  waiting : x.scene.state.phase = .waiting
  taken : x.scene.state.updates = []
  handled : x.pending = []

/-- What a run saves after its first step of a kind. -/
def savesAfter (action : Action) (moves : List Move) : List String :=
  (moves.dropWhile (· ≠ .act action)).filterMap Move.content?

theorem savesAfter_cons_self (action : Action) (moves : List Move) :
    savesAfter action (.act action :: moves) = moves.filterMap Move.content? := by
  rw [savesAfter, List.dropWhile_cons_of_neg (by simp)]
  rfl

theorem savesAfter_cons_of_ne {action : Action} {move : Move} (other : move ≠ .act action)
    (moves : List Move) : savesAfter action (move :: moves) = savesAfter action moves := by
  simp [savesAfter, other]

theorem savesAfter_concat (action : Action) (moves : List Move) (move : Move) :
    savesAfter action (moves ++ [move]) =
      savesAfter action moves ++ if .act action ∈ moves then move.content?.toList else [] := by
  induction moves with
  | nil =>
    by_cases here : move = .act action
    · rw [here, List.nil_append, savesAfter_cons_self]
      rfl
    · rw [List.nil_append, savesAfter_cons_of_ne here]
      rfl
  | cons first rest ih =>
    by_cases here : first = .act action
    · rw [here, List.cons_append, savesAfter_cons_self, savesAfter_cons_self,
        if_pos List.mem_cons_self, List.filterMap_append]
      cases move <;> rfl
    · rw [List.cons_append, savesAfter_cons_of_ne here, savesAfter_cons_of_ne here, ih]
      simp only [List.mem_cons, Ne.symm here, false_or]

theorem savesAfter_concat_of_none {move : Move} (nothing : move.content? = none) (action : Action)
    (moves : List Move) : savesAfter action (moves ++ [move]) = savesAfter action moves := by
  rw [savesAfter_concat, nothing, Option.toList_none, ite_self, List.append_nil]

theorem savesAfter_eq_nil {action : Action} {moves : List Move} (absent : .act action ∉ moves) :
    savesAfter action moves = [] := by
  induction moves with
  | nil => rfl
  | cons first rest ih =>
    rw [List.mem_cons, not_or] at absent
    rw [savesAfter_cons_of_ne (Ne.symm absent.1), ih absent.2]

end Vigil

def State.last? (s : State) : Option Description := (s.attempts ++ s.inHand).getLast?

namespace Scene.Leads

variable {x y : Scene} {action : Action}

theorem last? (step : x.Leads action y) (loaded : action ≠ .load) (unheeded : action ≠ .heed) :
    y.state.last? = x.state.last? := by
  obtain ⟨more, attempted, coalesced⟩ := step.attempts loaded unheeded
  rw [State.last?, State.last?, attempted, List.append_assoc]
  exact (coalesced.append_left _).2

theorem head? (step : x.Leads action y) (loaded : action ≠ .load) {first : Description}
    (headed : x.state.attempts.head? = some first) : y.state.attempts.head? = some first := by
  cases step with
  | deliver | deliverFailed | redeliver => rw [List.head?_append, headed]; rfl
  | _ => exact headed

end Scene.Leads

namespace Vigil

variable {plan : Plan} {moves : List Move} {x y : Vigil}

structure Unread (plan : Plan) (moves : List Move) (x : Vigil) : Prop where
  follows : x.scene.state.plan = plan
  phase : x.scene.state.phase = .loading
  unwatched : x.scene.state.watched = none
  silent : x.pending = []
  untried : x.scene.state.attempts = []
  untaken : x.scene.state.updates = []
  apart : ¬plan.Overwrites x.scene.workspace.tree
  unloaded : .act .load ∉ moves
  unregistered : .act .register ∉ moves

/-- A first description has been read; the file now holds another only if one has been saved since. -/
structure Read (plan : Plan) (moves : List Move) (first now : Description) (x : Vigil) : Prop where
  follows : x.scene.state.plan = plan
  finds : plan.Finds now x.scene.workspace
  loaded : .act .load ∈ moves
  untouched : savesAfter .load moves = [] → first = now

structure Unwatched (plan : Plan) (moves : List Move) (first now : Description) (x : Vigil) : Prop
    extends Read plan moves first now x where
  phase : x.scene.state.phase = .delivering first ∨ x.scene.state.phase = .registering
  unwatched : x.scene.state.watched = none
  silent : x.pending = []
  tried : x.scene.state.attempts ++ x.scene.state.phase.held = [first]
  untaken : x.scene.state.updates = []
  unregistered : .act .register ∉ moves

/-- Of all that has been saved since the file is watched, either the newest is what comes last, or
an event is on its way. If that is nothing, the first description comes last. -/
structure Watched (plan : Plan) (moves : List Move) (first now : Description) (name : String)
    (x : Vigil) : Prop extends Read plan moves first now x where
  watches : x.scene.state.phase.Watches
  watched : x.scene.state.watched = some name
  named : Path.fileName? plan.input = some name
  touching : ∀ e ∈ x.pending, e.touches name
  headed : x.scene.state.attempts.head? = some first
  registered : .act .register ∈ moves
  unheard : savesAfter .register moves = [] →
    x.pending = [] ∧ (x.scene.state.phase = .stopped ∨ x.scene.state.last? = some first)
  heard : savesAfter .register moves ≠ [] → x.pending = [] →
    x.scene.state.phase = .stopped ∨ x.scene.state.last? = some now

/-- Where a run of the plan stands after some moves. -/
inductive Account (plan : Plan) (moves : List Move) (x : Vigil) : Prop
  | unread (unread : Unread plan moves x)
  | unwatched {first now : Description} (unwatched : Unwatched plan moves first now x)
  | watched {first now : Description} {name : String} (watched : Watched plan moves first now name x)
  | failed {e : RunError} (phase : x.scene.state.phase = .failed e)

theorem mem_concat_iff (action : Action) (moves : List Move) (move : Move)
    (other : move ≠ .act action) : .act action ∈ moves ++ [move] ↔ .act action ∈ moves := by
  rw [List.mem_append, List.mem_singleton, or_iff_left (Ne.symm other)]

namespace Read

variable {first now : Description}

theorem save (read : Read plan moves first now x) {content : String} {new : Description}
    (loads : (Description.load plan.input (.ok content.toUTF8)).run.value = .ok new) :
    Read plan (moves ++ [.save content]) first new (x.save content) := by
  obtain ⟨rfl, finds, loaded, -⟩ := read
  refine ⟨rfl, finds.saved loads, List.mem_append_left _ loaded, fun none => ?_⟩
  rw [savesAfter_concat, if_pos loaded] at none
  exact absurd none (List.append_ne_nil_of_right_ne_nil _ nofun)

theorem act (read : Read plan moves first now x) {action : Action} {scene : Scene}
    (step : x.scene.Leads action scene) : Read plan moves first now { x with scene } := by
  obtain ⟨rfl, finds, loaded, untouched⟩ := read
  exact ⟨step.plan, finds.differs step.differs, loaded, untouched⟩

theorem concat (read : Read plan moves first now x) {move : Move} (nothing : move.content? = none) :
    Read plan (moves ++ [move]) first now x := by
  obtain ⟨same, finds, loaded, untouched⟩ := read
  refine ⟨same, finds, List.mem_append_left _ loaded, ?_⟩
  rwa [savesAfter_concat_of_none nothing]

end Read

namespace Watched

variable {first now : Description} {name : String}

theorem save (watched : Watched plan moves first now name x) {content : String} {new : Description}
    (loads : (Description.load plan.input (.ok content.toUTF8)).run.value = .ok new) :
    Watched plan (moves ++ [.save content]) first new name (x.save content) := by
  have touches : ((Edit.save content).event x.scene.state.plan.input).touches name := by
    simp [watched.follows, watched.named, Edit.event, FileEvent.touches, FileChange.mayAlterContent]
  have pending : (x.save content).pending =
      x.pending ++ [(Edit.save content).event x.scene.state.plan.input] := by
    simp [Vigil.save, watched.watched]
  refine { watched.toRead.save loads with
    watches := watched.watches
    watched := watched.watched
    named := watched.named
    touching := fun e member => ?_
    headed := watched.headed
    registered := List.mem_append_left _ watched.registered
    unheard := fun none => ?_
    heard := fun _ handled => ?_ }
  · rw [pending] at member
    rcases List.mem_append.1 member with member | member
    · exact watched.touching e member
    · rw [List.mem_singleton.1 member]
      exact touches
  · rw [savesAfter_concat, if_pos watched.registered] at none
    exact absurd none (List.append_ne_nil_of_right_ne_nil _ nofun)
  · rw [pending] at handled
    exact absurd handled (List.append_ne_nil_of_right_ne_nil _ nofun)

theorem handle (watched : Watched plan moves first now name x) {e : FileEvent} {rest : List FileEvent}
    (pending : x.pending = e :: rest) :
    Watched plan moves first now name ⟨x.scene.meet (.event e), rest⟩ := by
  have touching := watched.touching
  rw [pending] at touching
  -- Whichever save the event is from, the watcher reads what the file holds now.
  have update : Watcher.update? x.scene.workspace x.scene.state.plan.input name e = some now := by
    rw [Watcher.update?, if_pos (touching e List.mem_cons_self), watched.follows, watched.finds.current]
  rw [Scene.meet_event watched.watched, update]
  exact { watched with
    touching := fun other member => touching other (List.mem_cons_of_mem _ member)
    unheard := fun none => by
      rw [(watched.unheard none).1] at pending
      cases pending
    heard := fun _ _ => .inr (by
      rw [State.last?, State.inHand, ← List.append_assoc, ← List.append_assoc, Option.toList_some,
        List.getLast?_concat]) }

-- Short of stopping, no step changes what comes last of all that is attempted, in hand or waiting.
theorem act (watched : Watched plan moves first now name x) {action : Action} {scene : Scene}
    (step : x.scene.Leads action scene) : Watched plan moves first now name { x with scene } := by
  obtain ⟨watches, watched', later⟩ := step.watching watched.watches
  have running : x.scene.state.phase ≠ .stopped := by
    intro stopped
    have admitted := step.admitted
    rw [stopped] at admitted
    exact admitted
  have latest : scene.state.phase = .stopped ∨ scene.state.last? = x.scene.state.last? := by
    by_cases heed : action = .heed
    · subst heed
      cases step
      exact .inl rfl
    · exact .inr (step.last? later heed)
  exact { watched.toRead.act step with
    watches := watches
    watched := watched'.trans watched.watched
    named := watched.named
    touching := watched.touching
    headed := step.head? later watched.headed
    registered := watched.registered
    unheard := fun none => by
      obtain ⟨silent, before⟩ := watched.unheard none
      exact ⟨silent, latest.imp_right fun same => same.trans (before.resolve_left running)⟩
    heard := fun posted handled => by
      have before := watched.heard posted handled
      exact latest.imp_right fun same => same.trans (before.resolve_left running) }

end Watched

namespace Account

theorem concat (account : Account plan moves x) {move : Move} (nothing : move.content? = none)
    (unload : move ≠ .act .load) (unregister : move ≠ .act .register) :
    Account plan (moves ++ [move]) x := by
  have saves (action : Action) := savesAfter_concat_of_none nothing action moves
  have load := mem_concat_iff .load moves move unload
  have register := mem_concat_iff .register moves move unregister
  cases account with
  | unread unread =>
    exact .unread { unread with
      unloaded := mt load.1 unread.unloaded
      unregistered := mt register.1 unread.unregistered }
  | unwatched unwatched =>
    exact .unwatched { unwatched.toRead.concat nothing, unwatched with
      unregistered := mt register.1 unwatched.unregistered }
  | watched watched =>
    exact .watched { watched.toRead.concat nothing, watched with
      registered := register.2 watched.registered
      unheard := saves .register ▸ watched.unheard
      heard := saves .register ▸ watched.heard }
  | failed phase => exact .failed phase

theorem save (account : Account plan moves x) {content : String} {new : Description}
    (loads : (Description.load plan.input (.ok content.toUTF8)).run.value = .ok new) :
    Account plan (moves ++ [.save content]) (x.save content) := by
  have done (action : Action) := mem_concat_iff action moves (.save content) nofun
  have silent (unwatched : x.scene.state.watched = none) (silent : x.pending = []) :
      (x.save content).pending = [] := by
    simp [Vigil.save, unwatched, silent]
  cases account with
  | unread unread =>
    exact .unread { unread with
      silent := silent unread.unwatched unread.silent
      apart := mt (plan.overwrites_saved x.scene.workspace _ content).1 unread.apart
      unloaded := mt (done .load).1 unread.unloaded
      unregistered := mt (done .register).1 unread.unregistered }
  | unwatched unwatched =>
    exact .unwatched { unwatched.toRead.save loads, unwatched with
      silent := silent unwatched.unwatched unwatched.silent
      unregistered := mt (done .register).1 unwatched.unregistered }
  | watched watched => exact .watched (watched.save loads)
  | failed phase => exact .failed phase

theorem trigger (account : Account plan moves x) :
    Account plan (moves ++ [.trigger]) { x with scene := x.scene.meet .trigger } := by
  suffices Account plan moves { x with scene := x.scene.meet .trigger } from
    this.concat rfl nofun nofun
  cases account with
  | unread unread => exact .unread { unread with }
  | unwatched unwatched => exact .unwatched { unwatched with }
  | watched watched => exact .watched { watched with }
  | failed phase => exact .failed phase

theorem handle (account : Account plan moves x) {e : FileEvent} {rest : List FileEvent}
    (pending : x.pending = e :: rest) :
    Account plan (moves ++ [.handle]) ⟨x.scene.meet (.event e), rest⟩ := by
  suffices Account plan moves ⟨x.scene.meet (.event e), rest⟩ from this.concat rfl nofun nofun
  cases account with
  | unread unread =>
    rw [unread.silent] at pending
    cases pending
  | unwatched unwatched =>
    rw [unwatched.silent] at pending
    cases pending
  | watched watched => exact .watched (watched.handle pending)
  | failed phase => exact .failed ((x.scene.phase_meet (.event e)).trans phase)

theorem load (account : Account plan moves x) {scene : Scene} (step : x.scene.Leads .load scene) :
    Account plan (moves ++ [.act .load]) { x with scene } := by
  cases step with
  | loadFailed => exact .failed rfl
  | load loading current =>
    cases account with
    | unread unread =>
      rw [unread.follows] at current
      exact .unwatched {
        follows := unread.follows
        finds := ⟨unread.apart, current⟩
        loaded := List.mem_append_right _ List.mem_cons_self
        untouched := fun _ => rfl
        phase := .inl rfl
        unwatched := unread.unwatched
        silent := unread.silent
        tried := congrArg (· ++ [_]) unread.untried
        untaken := unread.untaken
        unregistered := mt (mem_concat_iff .register moves (.act .load) nofun).1 unread.unregistered }
    | unwatched unwatched =>
      have phase := unwatched.phase
      rw [loading] at phase
      exact phase.elim nofun nofun
    | watched watched =>
      have watches := watched.watches
      rw [loading] at watches
      exact watches.elim
    | failed phase =>
      rw [loading] at phase
      cases phase

theorem register (account : Account plan moves x) {scene : Scene}
    (step : x.scene.Leads .register scene) :
    Account plan (moves ++ [.act .register]) { x with scene } := by
  cases step with
  | registerFailed => exact .failed rfl
  | @register name registering named =>
    cases account with
    | unread unread =>
      have phase := unread.phase
      rw [registering] at phase
      cases phase
    | @unwatched first now unwatched =>
      -- No save has posted an event so far; what was read first still comes last.
      have unsaved : savesAfter .register (moves ++ [.act .register]) = [] := by
        rw [savesAfter_concat_of_none rfl, savesAfter_eq_nil unwatched.unregistered]
      have attempted : x.scene.state.attempts = [first] := by
        have tried := unwatched.tried
        rw [registering] at tried
        exact (List.append_nil _).symm.trans tried
      rw [unwatched.follows] at named
      refine .watched { unwatched.toRead.concat rfl with
        watches := trivial
        watched := rfl
        named := named
        touching := ?_
        headed := ?_
        registered := List.mem_append_right _ List.mem_cons_self
        unheard := fun _ => ⟨unwatched.silent, .inr ?_⟩
        heard := fun posted => absurd unsaved posted }
      · rw [unwatched.silent]
        exact nofun
      · rw [attempted]
        rfl
      · rw [State.last?, State.inHand, unwatched.untaken, attempted]
        rfl
    | watched watched =>
      have watches := watched.watches
      rw [registering] at watches
      exact watches.elim
    | failed phase =>
      rw [registering] at phase
      cases phase

theorem act (account : Account plan moves x) {action : Action} {scene : Scene}
    (step : x.scene.Leads action scene) : Account plan (moves ++ [.act action]) { x with scene } := by
  by_cases load : action = .load
  · subst load
    exact account.load step
  by_cases register : action = .register
  · subst register
    exact account.register step
  suffices Account plan moves { x with scene } from
    this.concat rfl (fun same => load (Move.act.inj same)) fun same => register (Move.act.inj same)
  have admitted := step.admitted
  cases account with
  | unread unread =>
    rw [unread.phase] at admitted
    exact absurd admitted load
  | unwatched unwatched =>
    have read := unwatched.toRead.act step
    rcases unwatched.phase with delivering | registering
    · rw [delivering] at admitted
      cases admitted
      cases step with
      | deliver other =>
        have tried := unwatched.tried
        rw [other] at tried
        exact .unwatched { read, unwatched with
          phase := .inr rfl
          tried := (List.append_nil _).trans tried }
      | deliverFailed => exact .failed rfl
    · rw [registering] at admitted
      exact absurd admitted register
  | watched watched => exact .watched (watched.act step)
  | failed phase =>
    rw [phase] at admitted
    exact admitted.elim

theorem move (account : Account plan moves x) {move : Move} (moved : x.move? move = some y)
    (loads : ∀ content, move = .save content →
      (Description.load plan.input (.ok content.toUTF8)).run.value.toOption.isSome) :
    Account plan (moves ++ [move]) y := by
  cases move with
  | act action =>
    obtain ⟨scene, acted, rfl⟩ := Option.map_eq_some_iff.1 moved
    exact account.act (Scene.leads_of_act? acted)
  | save content =>
    have loaded := loads content rfl
    cases ended : (Description.load plan.input (.ok content.toUTF8)).run.value with
    | error e =>
      rw [ended] at loaded
      cases loaded
    | ok new =>
      cases moved
      exact account.save ended
  | handle =>
    cases pending : x.pending with
    | nil => simp [move?, pending] at moved
    | cons e rest =>
      simp only [move?, pending, Option.some.injEq] at moved
      subst moved
      exact account.handle pending
  | trigger =>
    cases moved
    exact account.trigger

theorem follow {later : List Move} (account : Account plan moves x) (run : x.follow? later = some y)
    (loads : ∀ content, .save content ∈ later →
      (Description.load plan.input (.ok content.toUTF8)).run.value.toOption.isSome) :
    Account plan (moves ++ later) y := by
  induction later generalizing moves x with
  | nil =>
    cases run
    rwa [List.append_nil]
  | cons move rest ih =>
    obtain ⟨z, moved, further⟩ := follow?_cons.1 run
    have now := account.move moved fun content same => loads content (same ▸ List.mem_cons_self)
    have whole := ih now further fun content member => loads content (List.mem_cons_of_mem _ member)
    rwa [List.append_assoc] at whole

end Account

/-- In an idle state the last description attempted is the one in the file exactly when something
was saved after the watcher had been started, or the file holds the description that was read
first, as it does if nothing was saved since. Otherwise that first description is still the last
attempted, and what the file holds has been missed. -/
theorem attempts_of_idle {plan : Plan} {workspace : Workspace} {moves : List Move} {y : Vigil}
    (apart : ¬plan.Overwrites workspace.tree)
    (loads : ∀ content, .save content ∈ moves →
      (Description.load plan.input (.ok content.toUTF8)).run.value.toOption.isSome)
    (run : (start plan workspace).follow? moves = some y) (idle : y.Idle) :
    ∃ first last now, y.scene.state.attempts.head? = some first ∧
      y.scene.state.attempts.getLast? = some last ∧
      y.scene.workspace.current? plan.input = some now ∧
      (savesAfter .load moves = [] → first = now) ∧
      (savesAfter .register moves = [] → last = first) ∧
      (last = now ↔ savesAfter .register moves ≠ [] ∨ first = now) := by
  have begun : Account plan [] (start plan workspace) :=
    .unread ⟨rfl, rfl, rfl, rfl, rfl, rfl, apart, List.not_mem_nil, List.not_mem_nil⟩
  have account := begun.follow run loads
  rw [List.nil_append] at account
  cases account with
  | unread unread =>
    have phase := unread.phase
    rw [idle.waiting] at phase
    cases phase
  | unwatched unwatched =>
    have phase := unwatched.phase
    rw [idle.waiting] at phase
    exact phase.elim nofun nofun
  | failed phase =>
    rw [idle.waiting] at phase
    cases phase
  | @watched first now _ watched =>
    have unheard := watched.unheard
    have heard := watched.heard
    have running : y.scene.state.phase ≠ .stopped := by
      rw [idle.waiting]
      exact nofun
    have latest : y.scene.state.last? = y.scene.state.attempts.getLast? := by
      rw [State.last?, State.inHand, idle.waiting, idle.taken]
      exact congrArg List.getLast? (List.append_nil _)
    rw [latest] at unheard heard
    by_cases saves : savesAfter .register moves = []
    · have last := (unheard saves).2.resolve_left running
      refine ⟨first, first, now, watched.headed, last, watched.finds.current, watched.untouched,
        fun _ => rfl, ?_⟩
      rw [or_iff_right (not_not_intro saves)]
    · have last := (heard saves idle.handled).resolve_left running
      exact ⟨first, now, now, watched.headed, last, watched.finds.current, watched.untouched,
        fun none => absurd none saves, iff_of_true rfl (.inl saves)⟩

def described : Workspace :=
  { Workspace.fresh with tree := Workspace.fresh.tree.attempt (.write "lb.toml" "".toUTF8) }

def plain : Plan := { input := "lb.toml", output := "envoy.yaml" }

def listeningText : String :=
  "[service]\nipFamilies = [\"IPv4\"]\n[[service.ports]]\nlistenPort = 80\ntargetPort = 30080\n"

def listening : Description := ⟨some ⟨[⟨80, 30080, .tcp⟩], [.ipv4], 0⟩, []⟩

/-- A save between the reading of the file and the start of the watcher. -/
def unheardSave : List Move :=
  [.act .load, .save listeningText, .act .deliver, .act .register, .act .subscribe]

def heardSave : List Move :=
  unheardSave ++ [.save listeningText, .handle, .act .take, .act .rest, .act .elapse, .act .redeliver]

theorem apart_described : ¬plain.Overwrites described.tree := by
  rintro ⟨place, leads, path, member, there⟩
  have input : (described.tree.locate plain.input).toOption = some ["tmp", "workspace", "lb.toml"] := by
    decide +kernel
  have outputs : some ["tmp", "workspace", "lb.toml"] ∉
      (Path.written plain.output).map fun path => (described.tree.locate path).toOption := by
    decide +kernel
  rw [leads] at input
  exact outputs (List.mem_map.2 ⟨path, member, by rw [there]; exact input⟩)

theorem loads_heardSave (content : String) (member : .save content ∈ heardSave) :
    (Description.load plain.input (.ok content.toUTF8)).run.value.toOption.isSome := by
  have only : content = listeningText := by simpa [heardSave, unheardSave] using member
  rw [only]
  decide +kernel

theorem attempts_of_idle_heardSave :
    ∃ y first last now, (start plain described).follow? heardSave = some y ∧ y.Idle ∧
      y.scene.state.attempts.head? = some first ∧ y.scene.state.attempts.getLast? = some last ∧
      y.scene.workspace.current? plain.input = some now ∧ last = now ∧
      savesAfter .register heardSave ≠ [] := by
  have runs : ((start plain described).follow? heardSave).map
      (fun y => (y.scene.state.phase, y.scene.state.updates, y.pending)) = some (.waiting, [], []) := by
    decide +kernel
  obtain ⟨y, run, ended⟩ := Option.map_eq_some_iff.1 runs
  obtain ⟨waiting, ended⟩ := Prod.mk.inj ended
  obtain ⟨taken, handled⟩ := Prod.mk.inj ended
  have idle : y.Idle := ⟨waiting, taken, handled⟩
  have heard : savesAfter .register heardSave ≠ [] := by decide
  obtain ⟨first, last, now, headed, latest, current, -, -, caught⟩ :=
    attempts_of_idle apart_described loads_heardSave run idle
  exact ⟨y, first, last, now, run, idle, headed, latest, current, caught.2 (.inl heard), heard⟩

/-- In place is the document of the description that was read, and the file holds one with another
document. -/
theorem stale_unheardSave : ∃ y document, (start plain described).follow? unheardSave = some y ∧ y.Idle ∧
    y.scene.state.attempts.getLast? = some {} ∧ y.scene.workspace.current? plain.input = some listening ∧
    y.scene.workspace.tree.read plain.output = .ok document.toUTF8 ∧
    (Description.compile plain.strict {}).run.value = .ok document ∧
    (listening.compile plain.strict).run.value ≠ .ok document := by
  have runs : ((start plain described).follow? unheardSave).map
      (fun y => ((y.scene.state.phase, y.scene.state.updates, y.pending),
        y.scene.state.attempts.getLast?, y.scene.workspace.current? plain.input,
        y.scene.workspace.tree.read plain.output)) =
      some ((.waiting, [], []), some {}, some listening,
        .ok (Routing.Model.ofDescription {}).value.document.toUTF8) := by
    decide +kernel
  obtain ⟨y, run, ended⟩ := Option.map_eq_some_iff.1 runs
  obtain ⟨idle, ended⟩ := Prod.mk.inj ended
  obtain ⟨attempted, ended⟩ := Prod.mk.inj ended
  obtain ⟨current, written⟩ := Prod.mk.inj ended
  obtain ⟨waiting, idle⟩ := Prod.mk.inj idle
  obtain ⟨taken, handled⟩ := Prod.mk.inj idle
  exact ⟨y, _, run, ⟨waiting, taken, handled⟩, attempted, current, written, by decide +kernel, by decide +kernel⟩

/-- A save can be lost. -/
theorem lost_save : ¬∀ (plan : Plan) (workspace : Workspace) (moves : List Move) (y : Vigil),
    ¬plan.Overwrites workspace.tree →
    (∀ content, .save content ∈ moves →
      (Description.load plan.input (.ok content.toUTF8)).run.value.toOption.isSome) →
    (start plan workspace).follow? moves = some y → y.Idle →
    y.scene.state.attempts.getLast? = y.scene.workspace.current? plan.input := by
  intro all
  obtain ⟨y, document, run, idle, attempted, current, -, compiled, other⟩ := stale_unheardSave
  have loads (content : String) (member : .save content ∈ unheardSave) :=
    loads_heardSave content (List.mem_append_left _ member)
  have same := all plain described _ y apart_described loads run idle
  rw [attempted, current] at same
  exact other (Option.some.inj same ▸ compiled)

end Vigil

end ServiceProxy.Watch
