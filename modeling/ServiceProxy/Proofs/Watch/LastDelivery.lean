import Mathlib.Data.List.Induction
import ServiceProxy.Proofs.Watch.Coalescing
import ServiceProxy.Proofs.Watch.Signals

/-! What is still delivered after a shutdown signal. A quiet period begins only while no signal
waits, so a batch that gets as far as its delivery was begun before. Main statement: after a
trigger at most one delivery begins, of a batch whose first update was taken before it, and none
of a batch whose quiet period the signal cuts off. -/

set_option autoImplicit false

namespace ServiceProxy.Watch

def Move.isDelivery : Move → Bool
  | .act .deliver => true
  | .act .redeliver => true
  | _ => false

def Move.turned (workspace : Workspace) : Move → Workspace
  | .turn other => other
  | _ => workspace

def turnedAll (workspace : Workspace) (moves : List Move) : Workspace := moves.foldl Move.turned workspace

namespace Scene

/-- The loop is in the same phase and has attempted the same, beside a move. -/
structure Rests (x y : Scene) (move : Move) : Prop where
  other : move.isAct = false
  phase : y.state.phase = x.state.phase
  plan : y.state.plan = x.state.plan
  attempts : y.state.attempts = x.state.attempts
  workspace : y.workspace = move.turned x.workspace

theorem move?_cases {x y : Scene} {move : Move} (moved : x.move? move = some y) :
    (∃ action, move = .act action ∧ x.Leads action y) ∨ x.Rests y move := by
  cases move with
  | act action => exact .inl ⟨action, rfl, leads_of_act? moved⟩
  | turn workspace =>
    cases moved
    exact .inr ⟨rfl, rfl, rfl, rfl, rfl⟩
  | meet incident =>
    cases incident with
    | trigger | close =>
      cases moved
      exact .inr ⟨rfl, rfl, rfl, rfl, rfl⟩
    | event e =>
      simp only [move?] at moved
      split at moved
      · cases moved
      · cases moved
        obtain ⟨updates, met⟩ := x.exists_meet_event e
        rw [met]
        exact .inr ⟨rfl, rfl, rfl, rfl, rfl⟩

end Scene

theorem Move.isDelivery_of_isAct {move : Move} (other : move.isAct = false) : move.isDelivery = false := by
  cases move with
  | act action => cases other
  | meet incident | turn workspace => rfl

/-! ## Deliveries of a run -/

namespace Scene

variable {x y : Scene} {moves : List Move}

theorem Leads.untouched {action : Action} (step : x.Leads action y)
    (silent : (Move.act action).isDelivery = false) :
    y.state.attempts = x.state.attempts ∧ y.workspace = x.workspace := by
  cases step with
  | deliver | deliverFailed | redeliver => cases silent
  | _ => exact ⟨rfl, rfl⟩

theorem Leads.attempted {action : Action} (step : x.Leads action y) :
    ∃ made, y.state.attempts = x.state.attempts ++ made ∧
      made.length = [Move.act action].countP Move.isDelivery := by
  cases step with
  | deliver | deliverFailed | redeliver => exact ⟨[_], rfl, rfl⟩
  | _ => exact ⟨[], (List.append_nil _).symm, rfl⟩

theorem attempted_of_move? {move : Move} (moved : x.move? move = some y) :
    ∃ made, y.state.attempts = x.state.attempts ++ made ∧ made.length = [move].countP Move.isDelivery := by
  obtain ⟨action, rfl, step⟩ | rests := move?_cases moved
  · exact step.attempted
  · refine ⟨[], rests.attempts.trans (List.append_nil _).symm, ?_⟩
    rw [List.countP_singleton, Move.isDelivery_of_isAct rests.other]
    rfl

theorem attempted_of_follow? (run : x.follow? moves = some y) :
    ∃ made, y.state.attempts = x.state.attempts ++ made ∧ made.length = moves.countP Move.isDelivery := by
  induction moves generalizing x with
  | nil =>
    cases run
    exact ⟨[], (List.append_nil _).symm, rfl⟩
  | cons move rest ih =>
    obtain ⟨z, moved, further⟩ := follow?_cons.1 run
    obtain ⟨now, attempted, one⟩ := attempted_of_move? moved
    obtain ⟨later, attemptedLater, count⟩ := ih further
    refine ⟨now ++ later, ?_, ?_⟩
    · rw [attemptedLater, attempted, List.append_assoc]
    · rw [List.length_append, one, count, ← List.countP_append, List.singleton_append]

theorem untouched_of_follow? (run : x.follow? moves = some y)
    (silent : ∀ move ∈ moves, move.isDelivery = false) :
    y.state.attempts = x.state.attempts ∧ y.workspace = turnedAll x.workspace moves := by
  induction moves generalizing x with
  | nil =>
    cases run
    exact ⟨rfl, rfl⟩
  | cons move rest ih =>
    obtain ⟨z, moved, further⟩ := follow?_cons.1 run
    obtain ⟨now, later⟩ := List.forall_mem_cons.1 silent
    obtain ⟨attempts, workspace⟩ := ih further later
    rw [attempts, workspace]
    obtain ⟨action, rfl, step⟩ | rests := move?_cases moved
    · obtain ⟨same, untouched⟩ := step.untouched now
      exact ⟨same, congrArg (turnedAll · rest) untouched⟩
    · exact ⟨rests.attempts, congrArg (turnedAll · rest) rests.workspace⟩

end Scene

/-! ## Batches -/

/-- The moves of a batch that the loop has begun by taking an update, before its delivery. -/
structure Batch (before batch moves : List Move) : Prop where
  split : moves = before ++ .act .take :: batch
  single : .act .take ∉ batch
  undelivered : ∀ move ∈ batch, move.isDelivery = false

theorem Batch.concat {before batch moves : List Move} (under : Batch before batch moves) {move : Move}
    (other : move ≠ .act .take) (silent : move.isDelivery = false) :
    Batch before (batch ++ [move]) (moves ++ [move]) where
  split := by rw [under.split, List.append_assoc, List.cons_append]
  single := by
    rw [List.mem_append, List.mem_singleton, not_or]
    exact ⟨under.single, Ne.symm other⟩
  undelivered := List.forall_mem_append.2 ⟨under.undelivered, List.forall_mem_singleton.2 silent⟩

/-- How the phase of a loop follows from its moves since it subscribed. A batch that rests or has
rested was begun before all triggers. -/
inductive Phase.Follows (moves : List Move) : Phase → Prop
  | waiting : Follows moves .waiting
  | holding {latest : Description} {before batch : List Move} (under : Batch before batch moves) :
    Follows moves (.holding latest)
  | debouncing {latest : Description} {before batch : List Move} (under : Batch before batch moves)
    (untriggered : .meet .trigger ∉ before) : Follows moves (.debouncing latest)
  | draining {latest : Description} {before batch : List Move} (under : Batch before batch moves)
    (untriggered : .meet .trigger ∉ before) : Follows moves (.draining latest)
  | stopped : Follows moves .stopped

namespace Phase.Follows

variable {moves : List Move} {x y : Scene}

theorem concat {phase : Phase} (follows : phase.Follows moves) {move : Move} (other : move.isAct = false) :
    phase.Follows (moves ++ [move]) := by
  have apart : move ≠ .act .take := by
    rintro rfl
    cases other
  have silent := Move.isDelivery_of_isAct other
  cases follows with
  | waiting => exact .waiting
  | holding under => exact .holding (under.concat apart silent)
  | debouncing under untriggered => exact .debouncing (under.concat apart silent) untriggered
  | draining under untriggered => exact .draining (under.concat apart silent) untriggered
  | stopped => exact .stopped

theorem act (follows : x.state.phase.Follows moves) (debounced : 0 < x.state.plan.debounceMillis)
    (signals : x.state.isSignalled = true ↔ .meet .trigger ∈ moves) {action : Action}
    (step : x.Leads action y) : y.state.phase.Follows (moves ++ [.act action]) := by
  cases step with
  | load phase | loadFailed phase | deliver phase | deliverFailed phase | register phase
  | registerFailed phase | subscribe phase =>
    rw [phase] at follows
    cases follows
  | take => exact .holding ⟨rfl, List.not_mem_nil, List.forall_mem_nil _⟩
  | finish | heed => exact .stopped
  | rest phase unsignalled =>
    rw [phase] at follows
    cases follows with
    | holding under =>
      -- A signal would be heeded first, so there has been no trigger at all.
      have untriggered : .meet .trigger ∉ moves := fun triggered =>
        Bool.false_ne_true (unsignalled.symm.trans (signals.2 triggered))
      rw [under.split, List.mem_append, not_or] at untriggered
      exact .debouncing (under.concat nofun rfl) untriggered.1
  -- Without a quiet period a batch would go on although a signal waits.
  | skip _ short => exact absurd short (Nat.ne_of_gt debounced)
  | elapse phase =>
    rw [phase] at follows
    cases follows with
    | debouncing under untriggered => exact .draining (under.concat nofun rfl) untriggered
  | drain phase =>
    rw [phase] at follows
    cases follows with
    | draining under untriggered => exact .draining (under.concat nofun rfl) untriggered
  | redeliver => exact .waiting

theorem batch_of_delivery (follows : x.state.phase.Follows moves) {action : Action} (step : x.Leads action y)
    (delivers : (Move.act action).isDelivery = true) :
    ∃ before batch, Batch before batch moves ∧ .meet .trigger ∉ before := by
  cases step with
  | deliver phase | deliverFailed phase =>
    rw [phase] at follows
    cases follows
  | redeliver phase =>
    rw [phase] at follows
    cases follows with
    | draining under untriggered => exact ⟨_, _, under, untriggered⟩
  | _ => cases delivers

end Phase.Follows

namespace Scene

variable {x y : Scene} {moves : List Move}

theorem isSignalled_iff_of_follow? (phase : x.state.phase = .subscribing)
    (run : x.follow? (.act .subscribe :: moves) = some y) :
    y.state.isSignalled = true ↔ .meet .trigger ∈ moves := by
  have begun : x.state.Hears [] := .yet (by rw [phase]; trivial) List.not_mem_nil
  have hears := begun.follow run
  rw [List.nil_append] at hears
  cases hears with
  | yet _ unsubscribed => exact absurd List.mem_cons_self unsubscribed
  | since earlier later _ split first subscribed waits =>
    have same : moves = later := by
      have since := congrArg sinceSubscription split
      rwa [sinceSubscription_append first] at since
    rw [State.isSignalled, subscribed, same]
    simp only [waits.isPending_iff, List.countP_pos_iff, Move.isTrigger_iff, exists_eq_right]

theorem plan_of_move? {move : Move} (moved : x.move? move = some y) : y.state.plan = x.state.plan := by
  obtain ⟨action, -, step⟩ | rests := move?_cases moved
  · exact step.plan
  · exact rests.plan

theorem follows_of_follow? (phase : x.state.phase = .subscribing) (debounced : 0 < x.state.plan.debounceMillis)
    (run : x.follow? (.act .subscribe :: moves) = some y) :
    y.state.plan = x.state.plan ∧ y.state.phase.Follows moves := by
  -- From the end, as the phase follows from all the moves that were made before.
  induction moves using List.reverseRecOn generalizing y with
  | nil =>
    have subscribed := follow?_singleton.1 run
    cases leads_of_act? subscribed with
    | subscribe => exact ⟨rfl, .waiting⟩
  | append_singleton moves move ih =>
    rw [← List.cons_append] at run
    obtain ⟨z, before, further⟩ := follow?_append.1 run
    have moved := follow?_singleton.1 further
    obtain ⟨plan, follows⟩ := ih before
    refine ⟨(plan_of_move? moved).trans plan, ?_⟩
    obtain ⟨action, rfl, step⟩ | rests := move?_cases moved
    · rw [← plan] at debounced
      exact follows.act debounced (isSignalled_iff_of_follow? phase before) step
    · rw [rests.phase]
      exact follows.concat rests.other

/-- A delivery ends a batch that was begun before all triggers. -/
theorem batch_of_follow? (phase : x.state.phase = .subscribing) (debounced : 0 < x.state.plan.debounceMillis)
    {passed rest : List Move} {delivery : Move} (delivers : delivery.isDelivery = true)
    (run : x.follow? (.act .subscribe :: (passed ++ delivery :: rest)) = some y) :
    ∃ before batch, Batch before batch passed ∧ .meet .trigger ∉ before := by
  rw [← List.cons_append] at run
  obtain ⟨z, reached, further⟩ := follow?_append.1 run
  obtain ⟨w, moved, -⟩ := follow?_cons.1 further
  obtain ⟨-, follows⟩ := follows_of_follow? phase debounced reached
  obtain ⟨action, rfl, step⟩ | rests := move?_cases moved
  · exact follows.batch_of_delivery step delivers
  · exact absurd ((Move.isDelivery_of_isAct rests.other).symm.trans delivers) Bool.false_ne_true

theorem beside_of_stopped (stopped : x.state.phase = .stopped) (run : x.follow? moves = some y) :
    ∀ move ∈ moves, move.isAct = false := by
  induction moves generalizing x with
  | nil => exact List.forall_mem_nil _
  | cons move rest ih =>
    obtain ⟨z, moved, further⟩ := follow?_cons.1 run
    obtain ⟨action, -, step⟩ | rests := move?_cases moved
    · have admitted := step.admitted
      rw [stopped] at admitted
      exact admitted.elim
    · exact List.forall_mem_cons.2 ⟨rests.other, ih (rests.phase.trans stopped) further⟩

end Scene

/-! ## Batches that are cut off -/

/-- The quiet period of a batch is not over, or never will be. -/
def Phase.Unready : Phase → Prop
  | .holding _ => True
  | .debouncing _ => True
  | .stopped => True
  | _ => False

namespace Scene

variable {x y : Scene}

theorem Leads.unready {action : Action} (step : x.Leads action y) (unready : x.state.phase.Unready)
    (unelapsed : action ≠ .elapse) : y.state.phase.Unready ∧ (Move.act action).isDelivery = false := by
  cases step with
  | rest | heed | finish => exact ⟨trivial, rfl⟩
  | skip | elapse => exact absurd rfl unelapsed
  | load phase | loadFailed phase | deliver phase | deliverFailed phase | register phase
  | registerFailed phase | subscribe phase | take phase | drain phase | redeliver phase =>
    rw [phase] at unready
    exact unready.elim

theorem undelivered_of_unready {moves : List Move} (unready : x.state.phase.Unready)
    (unelapsed : .act .elapse ∉ moves) (run : x.follow? moves = some y) :
    ∀ move ∈ moves, move.isDelivery = false := by
  induction moves generalizing x with
  | nil => exact List.forall_mem_nil _
  | cons move rest ih =>
    obtain ⟨z, moved, further⟩ := follow?_cons.1 run
    rw [List.mem_cons, not_or] at unelapsed
    obtain ⟨action, rfl, step⟩ | rests := move?_cases moved
    · obtain ⟨still, silent⟩ := step.unready unready fun same => unelapsed.1 (congrArg Move.act same.symm)
      exact List.forall_mem_cons.2 ⟨silent, ih still unelapsed.2 further⟩
    · exact List.forall_mem_cons.2 ⟨Move.isDelivery_of_isAct rests.other,
        ih (rests.phase ▸ unready) unelapsed.2 further⟩

theorem undelivered_of_heed {batch after : List Move} (unelapsed : .act .elapse ∉ batch)
    (run : x.follow? (.act .take :: (batch ++ .act .heed :: after)) = some y) :
    ∀ move ∈ .act .take :: (batch ++ .act .heed :: after), move.isDelivery = false := by
  obtain ⟨held, taken, further⟩ := follow?_cons.1 run
  obtain ⟨heeding, waited, ended⟩ := follow?_append.1 further
  obtain ⟨stopped, heeded, others⟩ := follow?_cons.1 ended
  have unready : held.state.phase.Unready := by
    cases leads_of_act? taken with
    | take => trivial
  have phase : stopped.state.phase = .stopped := by
    cases leads_of_act? heeded with
    | heed => rfl
  have nothing := beside_of_stopped phase others
  refine List.forall_mem_cons.2 ⟨rfl, List.forall_mem_append.2 ⟨undelivered_of_unready unready unelapsed waited,
    List.forall_mem_cons.2 ⟨rfl, fun move member => Move.isDelivery_of_isAct (nothing move member)⟩⟩⟩

end Scene

/-! ## Deliveries after a trigger -/

theorem Batch.of_trigger {before batch earlier passed : List Move}
    (under : Batch before batch (earlier ++ .meet .trigger :: passed)) (untriggered : .meet .trigger ∉ before) :
    ∃ since, earlier = before ++ .act .take :: since ∧ batch = since ++ .meet .trigger :: passed := by
  rcases List.append_eq_append_iff.1 under.split with ⟨between, split, same⟩ | ⟨between, split, same⟩
  · cases between with
    | nil => cases same
    | cons first others =>
      cases same
      exact absurd (split ▸ List.mem_append_right _ List.mem_cons_self) untriggered
  · cases between with
    | nil => cases same
    | cons first since =>
      cases same
      exact ⟨since, split, rfl⟩

theorem countP_le_one {α : Type} {p : α → Bool} {xs : List α}
    (single : ∀ passed a rest, xs = passed ++ a :: rest → p a = true → ∀ b ∈ passed, p b = false) :
    xs.countP p ≤ 1 := by
  induction xs using List.reverseRecOn with
  | nil => exact Nat.zero_le 1
  | append_singleton xs last ih =>
    rw [List.countP_append, List.countP_singleton]
    cases holds : p last with
    | true =>
      have none : xs.countP p = 0 := List.countP_eq_zero.2 fun b member =>
        Bool.eq_false_iff.1 (single xs last [] rfl holds b member)
      rw [none]
      exact Nat.le_refl 1
    | false =>
      refine ih fun passed a rest split => single passed a (rest ++ [last]) ?_
      rw [split, List.append_assoc, List.cons_append]

/-- However a loop with a quiet period goes on after a trigger, it begins at most one more delivery,
and that of a batch begun before the trigger. A batch that is begun after it is not delivered, and
one that is cut off before its quiet period is over leaves no trace. -/
theorem Scene.deliveries_after_trigger {x y : Scene} {earlier later : List Move}
    (phase : x.state.phase = .subscribing) (debounced : 0 < x.state.plan.debounceMillis)
    (run : x.follow? (.act .subscribe :: (earlier ++ .meet .trigger :: later)) = some y) :
    (∃ z made, x.follow? (.act .subscribe :: earlier) = some z ∧
      y.state.attempts = z.state.attempts ++ made ∧ made.length = later.countP Move.isDelivery ∧ made.length ≤ 1) ∧
    (∀ passed delivery rest, later = passed ++ delivery :: rest → delivery.isDelivery = true →
      ∃ before since, earlier = before ++ .act .take :: since ∧ .act .take ∉ since ++ passed ∧
        ∀ move ∈ since ++ passed, move.isDelivery = false) ∧
    (∀ passed rest, later = passed ++ .act .take :: rest → ∀ move ∈ rest, move.isDelivery = false) ∧
    ∀ before batch after,
      earlier ++ .meet .trigger :: later = before ++ .act .take :: (batch ++ .act .heed :: after) →
      .act .elapse ∉ batch →
      (∀ move ∈ batch ++ after, move.isDelivery = false) ∧
      ∃ z, x.follow? (.act .subscribe :: before) = some z ∧ y.state.attempts = z.state.attempts ∧
        y.workspace = turnedAll z.workspace (batch ++ after) := by
  have batches : ∀ passed delivery rest, later = passed ++ delivery :: rest → delivery.isDelivery = true →
      ∃ before since, earlier = before ++ .act .take :: since ∧ .act .take ∉ since ++ passed ∧
        ∀ move ∈ since ++ passed, move.isDelivery = false := by
    rintro passed delivery rest rfl delivers
    have whole : earlier ++ .meet .trigger :: (passed ++ delivery :: rest) =
        (earlier ++ .meet .trigger :: passed) ++ delivery :: rest := by
      rw [List.append_assoc, List.cons_append]
    rw [whole] at run
    obtain ⟨before, batch, under, untriggered⟩ := batch_of_follow? phase debounced delivers run
    obtain ⟨since, rfl, rfl⟩ := under.of_trigger untriggered
    have inner : (since ++ passed).Sublist (since ++ .meet .trigger :: passed) :=
      (List.sublist_cons_self _ _).append_left since
    exact ⟨before, since, rfl, fun taken => under.single (inner.subset taken),
      fun move member => under.undelivered move (inner.subset member)⟩
  have single : later.countP Move.isDelivery ≤ 1 := by
    refine countP_le_one fun passed delivery rest split delivers move member => ?_
    obtain ⟨_, since, -, -, silent⟩ := batches passed delivery rest split delivers
    exact silent move (List.mem_append_right since member)
  refine ⟨?_, batches, ?_, ?_⟩
  · rw [← List.cons_append] at run
    obtain ⟨z, reached, further⟩ := follow?_append.1 run
    obtain ⟨made, attempted, count⟩ := attempted_of_follow? further
    have count : made.length = later.countP Move.isDelivery := count
    exact ⟨z, made, reached, attempted, count, count ▸ single⟩
  · rintro passed rest rfl move member
    refine Bool.eq_false_iff.2 fun delivers => ?_
    obtain ⟨between, others, rfl⟩ := List.append_of_mem member
    -- The batch of that delivery would have been begun before the trigger and again after it.
    obtain ⟨_, since, -, untaken, -⟩ := batches (passed ++ .act .take :: between) move others
      (by rw [List.append_assoc, List.cons_append]) delivers
    exact untaken (List.mem_append_right since (List.mem_append_right passed List.mem_cons_self))
  · intro before batch after split unelapsed
    rw [split, ← List.cons_append] at run
    obtain ⟨z, reached, further⟩ := follow?_append.1 run
    have silent := undelivered_of_heed unelapsed further
    obtain ⟨attempts, workspace⟩ := untouched_of_follow? further silent
    have fewer : (batch ++ after).Sublist (.act .take :: (batch ++ .act .heed :: after)) :=
      ((List.sublist_cons_self _ _).append_left batch).cons _
    refine ⟨fun move member => silent move (fewer.subset member), z, reached, attempts, workspace.trans ?_⟩
    simp only [turnedAll, List.foldl_cons, List.foldl_append, Move.turned]

def saving (text : String) : List Move :=
  [.turn { Workspace.fresh with tree := Workspace.fresh.tree.attempt (.write "lb.toml" text.toUTF8) },
   .meet (.event ⟨.name, ["lb.toml"]⟩)]

def resting : List Move := saving "" ++ [.act .take, .act .rest]

/-- The end of the quiet period, a second trigger, a save that the batch takes in, and a save that
comes too late. -/
def outlasting : List Move :=
  .act .elapse :: .meet .trigger :: (saving "[service]\n" ++ .act .drain :: .act .redeliver :: saving "")

theorem Scene.deliveries_after_trigger_outlasting :
    ∃ y, watching.follow? (.act .subscribe :: (resting ++ .meet .trigger :: (outlasting ++ [.act .take, .act .heed]))) =
        some y ∧ y.state.phase = .stopped ∧ y.state.attempts.length = 1 ∧
      (∃ before since, resting = before ++ .act .take :: since ∧ .act .take ∉ since) ∧
      ∃ z, watching.follow? (.act .subscribe :: (resting ++ .meet .trigger :: outlasting)) = some z ∧
        y.state.attempts = z.state.attempts ∧ y.workspace = z.workspace := by
  have runs : (watching.follow?
      (.act .subscribe :: (resting ++ .meet .trigger :: (outlasting ++ [.act .take, .act .heed])))).map
      (fun y => (y.state.phase, y.state.attempts.length)) = some (.stopped, 1) := by decide +kernel
  obtain ⟨y, run, ended⟩ := Option.map_eq_some_iff.1 runs
  obtain ⟨stopped, once⟩ := Prod.mk.inj ended
  obtain ⟨-, batches, -, cutOff⟩ := deliveries_after_trigger rfl (by decide) run
  obtain ⟨before, since, split, untaken, -⟩ := batches
    (.act .elapse :: .meet .trigger :: (saving "[service]\n" ++ [.act .drain])) (.act .redeliver) _ rfl rfl
  obtain ⟨-, z, reached, attempts, workspace⟩ :=
    cutOff (resting ++ .meet .trigger :: outlasting) [] [] rfl List.not_mem_nil
  exact ⟨y, run, stopped, once, ⟨before, since, split, fun taken => untaken (List.mem_append_left _ taken)⟩, z, reached,
    attempts, workspace⟩

end ServiceProxy.Watch
