import ServiceProxy.Proofs.Watch.Runs

/-! Shutdown signals beside a watch loop. A run subscribes once, after its start-up, and nothing
takes a signal away from it but the step that stops it. Main statement: what waits for a listening
loop is what has been triggered since its subscription, and a trigger from before is lost. -/

set_option autoImplicit false

namespace ServiceProxy

namespace Shutdown

def Reception.ofCount : Nat → Reception
  | 0 => .empty
  | 1 => .signal
  | n + 2 => .lagged (n + 1)

/-- So many of the messages sent wait for a receiver. -/
def Waits (s : Shutdown) (receiver count : Nat) : Prop :=
  ∃ position, s.receivers[receiver]? = some position ∧ s.sent = position + count

variable {s : Shutdown} {receiver count : Nat}

theorem waits_subscribe (s : Shutdown) : s.subscribe.2.Waits s.subscribe.1 0 :=
  ⟨s.sent, by simp [subscribe], rfl⟩

theorem Waits.trigger (waits : s.Waits receiver count) : s.trigger.Waits receiver (count + 1) := by
  obtain ⟨position, here, sent⟩ := waits
  have filled : s.receivers.isEmpty = false := by
    rw [Bool.eq_false_iff, ne_eq, List.isEmpty_iff]
    intro none
    rw [none] at here
    cases here
  refine ⟨position, ?_, ?_⟩
  · simpa only [Shutdown.trigger, filled, Bool.false_eq_true, if_false] using here
  · simp only [Shutdown.trigger, filled, Bool.false_eq_true, if_false]
    omega

theorem Waits.isPending_iff (waits : s.Waits receiver count) : s.isPending receiver = true ↔ 0 < count := by
  obtain ⟨position, here, sent⟩ := waits
  simp only [isPending, here, decide_eq_true_eq]
  omega

theorem Waits.receive (waits : s.Waits receiver count) :
    (s.receive receiver true).1 = .ofCount count := by
  obtain ⟨position, here, sent⟩ := waits
  simp only [Shutdown.receive, here, Option.getD_some, reception, sent]
  match count with
  | 0 => simp [Reception.ofCount]
  | 1 =>
    have more : ¬position + 1 ≤ position := by omega
    simp only [more, if_false, if_true, Reception.ofCount]
  | n + 2 =>
    have more : ¬position + (n + 2) ≤ position := by omega
    have several : position + (n + 2) ≠ position + 1 := by omega
    have lost : position + (n + 2) - position - 1 = n + 1 := by omega
    simp only [more, several, lost, if_false, Reception.ofCount]

end Shutdown

namespace Watch

def Move.isTrigger : Move → Bool
  | .meet .trigger => true
  | _ => false

theorem Move.isTrigger_iff {move : Move} : move.isTrigger = true ↔ move = .meet .trigger := by
  unfold isTrigger
  split <;> simp_all

/-- The phases before the subscription, and the end of a run that does not come to it. -/
def Phase.Precedes : Phase → Prop
  | .loading => True
  | .delivering _ => True
  | .registering => True
  | .subscribing => True
  | .failed _ => True
  | _ => False

theorem Phase.Listens.not_precedes {phase : Phase} (listens : phase.Listens) : ¬phase.Precedes := by
  cases phase <;> simp_all [Listens, Precedes]

def sinceSubscription : List Move → List Move
  | [] => []
  | .act .subscribe :: rest => rest
  | _ :: rest => sinceSubscription rest

theorem sinceSubscription_append {earlier : List Move} (absent : .act .subscribe ∉ earlier)
    (later : List Move) : sinceSubscription (earlier ++ .act .subscribe :: later) = later := by
  induction earlier with
  | nil => rfl
  | cons move rest ih =>
    rw [List.mem_cons, not_or] at absent
    rw [List.cons_append, sinceSubscription]
    · exact ih absent.2
    · exact fun same => absent.1 same.symm

namespace Scene

def start (plan : Plan) (shutdown : Shutdown) (workspace : Workspace) : Scene where
  state := { plan, shutdown }
  workspace

/-- Only the subscription changes what the loop hears, and only it leads past the start-up. -/
theorem Leads.hearing {x y : Scene} {action : Action} (step : x.Leads action y) :
    (action = .subscribe ∧ x.state.phase = .subscribing ∧ y.state = x.state.subscribe) ∨
    (action ≠ .subscribe ∧ (y.state.phase.Precedes ↔ x.state.phase.Precedes) ∧
      y.state.receiver = x.state.receiver ∧ y.state.shutdown = x.state.shutdown) := by
  cases step with
  | subscribe phase => exact .inl ⟨rfl, phase, rfl⟩
  | heed listens => exact .inr ⟨nofun, iff_of_false id listens.not_precedes, rfl, rfl⟩
  | load phase | loadFailed phase | deliver phase | deliverFailed phase | register phase
  | registerFailed phase | take phase | finish phase | rest phase | skip phase | elapse phase
  | drain phase | redeliver phase => exact .inr ⟨nofun, by rw [phase]; exact .rfl, rfl, rfl⟩

theorem hearing_meet_event (x : Scene) (e : FileEvent) :
    (x.meet (.event e)).state.receiver = x.state.receiver ∧
      (x.meet (.event e)).state.shutdown = x.state.shutdown := by
  obtain ⟨updates, met⟩ := x.exists_meet_event e
  rw [met]
  exact ⟨rfl, rfl⟩

end Scene

/-- How the moves of a run and what its loop hears go together: before the subscription nothing is
heard, and after it every trigger. -/
inductive State.Hears (moves : List Move) (s : State) : Prop
  | yet (precedes : s.phase.Precedes) (unsubscribed : .act .subscribe ∉ moves)
  | since (earlier later : List Move) {receiver : Nat} (past : ¬s.phase.Precedes)
      (split : moves = earlier ++ .act .subscribe :: later) (first : .act .subscribe ∉ earlier)
      (subscribed : s.receiver = some receiver)
      (waits : s.shutdown.Waits receiver (later.countP Move.isTrigger))

namespace State.Hears

variable {moves : List Move} {x y : Scene} {s t : State}

theorem concat (hears : s.Hears moves) {move : Move} (other : move ≠ .act .subscribe)
    (silent : move.isTrigger = false) (phase : t.phase.Precedes ↔ s.phase.Precedes)
    (receiver : t.receiver = s.receiver) (shutdown : t.shutdown = s.shutdown) :
    t.Hears (moves ++ [move]) := by
  cases hears with
  | yet precedes unsubscribed =>
    refine .yet (phase.2 precedes) ?_
    rw [List.mem_append, List.mem_singleton, not_or]
    exact ⟨unsubscribed, Ne.symm other⟩
  | since earlier later past split first subscribed waits =>
    refine .since earlier (later ++ [move]) (mt phase.1 past) ?_ first (receiver.trans subscribed) ?_
    · rw [split, List.append_assoc, List.cons_append]
    · rw [shutdown, List.countP_append, List.countP_singleton, silent]
      exact waits

theorem act (hears : x.state.Hears moves) {action : Action} (step : x.Leads action y) :
    y.state.Hears (moves ++ [.act action]) := by
  obtain ⟨rfl, phase, subscribed⟩ | ⟨other, phase, receiver, shutdown⟩ := step.hearing
  · rw [subscribed]
    cases hears with
    | since _ _ past =>
      rw [phase] at past
      exact absurd trivial past
    | yet _ unsubscribed => exact .since moves [] id rfl unsubscribed rfl x.state.shutdown.waits_subscribe
  · exact hears.concat (fun same => other (Move.act.inj same)) rfl phase receiver shutdown

theorem trigger (hears : x.state.Hears moves) :
    (x.meet .trigger).state.Hears (moves ++ [.meet .trigger]) := by
  cases hears with
  | yet precedes unsubscribed =>
    refine .yet precedes ?_
    rw [List.mem_append, List.mem_singleton, not_or]
    exact ⟨unsubscribed, nofun⟩
  | since earlier later past split first subscribed waits =>
    refine .since earlier (later ++ [.meet .trigger]) past ?_ first subscribed ?_
    · rw [split, List.append_assoc, List.cons_append]
    · rw [List.countP_append]
      exact waits.trigger

theorem move (hears : x.state.Hears moves) {move : Move} (moved : x.move? move = some y) :
    y.state.Hears (moves ++ [move]) := by
  cases move with
  | act action => exact hears.act (Scene.leads_of_act? moved)
  | turn workspace =>
    cases moved
    exact hears.concat nofun rfl .rfl rfl rfl
  | meet incident =>
    cases incident with
    | trigger =>
      cases moved
      exact hears.trigger
    | close =>
      cases moved
      exact hears.concat nofun rfl .rfl rfl rfl
    | event e =>
      simp only [Scene.move?] at moved
      split at moved
      · cases moved
      · cases moved
        obtain ⟨receiver, shutdown⟩ := x.hearing_meet_event e
        exact hears.concat nofun rfl (by rw [Scene.phase_meet]) receiver shutdown

theorem follow {later : List Move} (hears : x.state.Hears moves) (run : x.follow? later = some y) :
    y.state.Hears (moves ++ later) := by
  -- The moves behind the loop grow at their end, those ahead of it shrink at their start.
  induction later generalizing moves x with
  | nil =>
    cases run
    rwa [List.append_nil]
  | cons move rest ih =>
    obtain ⟨z, moved, further⟩ := Scene.follow?_cons.1 run
    have whole := ih (hears.move moved) further
    rwa [List.append_assoc] at whole

end State.Hears

/-- What waits for a run that listens is what has been triggered since its subscription, however
often. What was triggered before makes no difference. -/
theorem Scene.signals_of_listens {plan : Plan} {shutdown : Shutdown} {workspace : Workspace}
    {moves : List Move} {y : Scene} (run : (start plan shutdown workspace).follow? moves = some y)
    (listens : y.state.phase.Listens) :
    ∃ receiver, y.state.receiver = some receiver ∧
      (y.state.shutdown.receive receiver true).1 =
        .ofCount ((sinceSubscription moves).countP Move.isTrigger) ∧
      (y.state.isSignalled = true ↔ .meet .trigger ∈ sinceSubscription moves) := by
  have begun : (start plan shutdown workspace).state.Hears [] := .yet trivial List.not_mem_nil
  have hears := begun.follow run
  rw [List.nil_append] at hears
  cases hears with
  | yet precedes => exact absurd precedes listens.not_precedes
  | @since earlier later receiver _ split first subscribed waits =>
    rw [split, sinceSubscription_append first]
    refine ⟨receiver, subscribed, waits.receive, ?_⟩
    rw [State.isSignalled, subscribed]
    simp only [waits.isPending_iff, List.countP_pos_iff, Move.isTrigger_iff, exists_eq_right]

def Scene.idle : Scene :=
  start { input := "lb.toml", output := "envoy.yaml" } {}
    { Workspace.fresh with tree := Workspace.fresh.tree.attempt (.write "lb.toml" "".toUTF8) }

def earlyTrigger : List Move :=
  [.act .load, .meet .trigger, .act .deliver, .act .register, .act .subscribe]

theorem Scene.signals_of_listens_twice :
    ∃ y receiver, idle.follow? (earlyTrigger ++ [.meet .trigger, .meet .trigger]) = some y ∧
      y.state.phase.Listens ∧ y.state.receiver = some receiver ∧
      (y.state.shutdown.receive receiver true).1 = .lagged 1 ∧ y.state.isSignalled = true := by
  have runs : (idle.follow? (earlyTrigger ++ [.meet .trigger, .meet .trigger])).map
      (fun y => y.state.phase) = some .waiting := by decide +kernel
  obtain ⟨y, run, waiting⟩ := Option.map_eq_some_iff.1 runs
  have listens : y.state.phase.Listens := waiting ▸ trivial
  obtain ⟨receiver, subscribed, received, signalled⟩ := signals_of_listens run listens
  have heard : .meet .trigger ∈ sinceSubscription (earlyTrigger ++ [.meet .trigger, .meet .trigger]) :=
    List.mem_cons_self
  exact ⟨y, receiver, run, listens, subscribed, received, signalled.2 heard⟩

/-- A shutdown can be lost. -/
theorem lost_trigger : ¬∀ (plan : Plan) (shutdown : Shutdown) (workspace : Workspace)
    (moves : List Move) (y : Scene), (Scene.start plan shutdown workspace).follow? moves = some y →
    .meet .trigger ∈ moves → y.state.phase = .waiting → y.state.isSignalled = true := by
  intro all
  -- Nobody waits for the trigger yet, so it is dropped.
  have runs : (Scene.idle.follow? earlyTrigger).map
      (fun y => (y.state.phase, y.state.isSignalled)) = some (.waiting, false) := by decide +kernel
  obtain ⟨y, run, ended⟩ := Option.map_eq_some_iff.1 runs
  obtain ⟨waiting, silent⟩ := Prod.mk.inj ended
  have heard := all _ _ _ _ y run (by simp [earlyTrigger]) waiting
  rw [silent] at heard
  cases heard

end Watch

end ServiceProxy
