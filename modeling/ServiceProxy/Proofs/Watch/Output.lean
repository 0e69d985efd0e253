import ServiceProxy.Proofs.Files.Siblings
import ServiceProxy.Proofs.Watch.Stages

/-! What the output of a watch loop holds. At every point of a run it is the whole document of the
description placed last, or what was there before the run. Main statement: that, and that a run
whose start fails is over with the error. -/

set_option autoImplicit false

namespace ServiceProxy

namespace Tree

variable {t u : Tree}

theorem heldAt_eq_some_iff {path : String} {holding : Holding} :
    t.heldAt path = some holding ↔ ∃ place, t.locate path = .ok place ∧ t.get? place = some holding := by
  unfold heldAt
  cases t.locate path with
  | error fault => simp [Except.toOption]
  | ok place => simp [Except.toOption]

theorem Differs.heldAt {paths : List String} (differs : t.Differs paths u) {path : String}
    (apart : ∀ other ∈ paths, ∀ place, t.locate path = .ok place → t.locate other ≠ .ok place) :
    u.heldAt path = t.heldAt path := by
  unfold Tree.heldAt
  cases leads : t.locate path with
  | ok place =>
    rw [differs.alike.locate.2 leads]
    exact differs.kept place fun other member => apart other member place leads
  | error fault =>
    cases there : u.locate path with
    | error _ => rfl
    | ok place =>
      rw [differs.alike.locate.1 there] at leads
      cases leads

theorem heldAt_of_write {path : String} {bytes : ByteArray} (wrote : t.perform (.write path bytes) = .ok u) :
    u.heldAt path = some (.file bytes) := by
  obtain ⟨place, leads, free, -, rfl⟩ := write_eq_ok.1 wrote
  refine heldAt_eq_some_iff.2 ⟨place, (Alike.set free).locate.2 leads, ?_⟩
  rw [get?_set, if_pos rfl]

theorem heldAt_of_rename {source target : String} {bytes : ByteArray}
    (renamed : t.perform (.rename source target) = .ok u) (held : t.heldAt source = some (.file bytes)) :
    u.heldAt target = some (.file bytes) := by
  obtain ⟨place, leads, holding⟩ := heldAt_eq_some_iff.1 held
  have alike := (differs_perform renamed).alike
  obtain ⟨old, new, moved, leaves, arrives, file, -, rfl⟩ := exists_of_rename renamed
  obtain rfl : place = old := Except.ok.inj (leads.symm.trans leaves)
  obtain rfl : bytes = moved := Holding.file.inj (Option.some.inj (holding.symm.trans file))
  refine heldAt_eq_some_iff.2 ⟨new, alike.locate.2 arrives, ?_⟩
  rw [get?_set, if_pos rfl]

theorem heldAt_of_temporary {path : String} {action : FileAction} (only : action.paths = [Path.temporary path])
    (performed : t.perform action = .ok u) : u.heldAt path = t.heldAt path := by
  refine (differs_perform performed).heldAt fun other member place leads => ?_
  rw [only, List.mem_singleton] at member
  rw [member]
  exact locate_temporary_ne leads

end Tree

namespace Watch

/-! ## What a log tells -/

def begun? : List Deed → Option Description
  | [] => none
  | .begun d :: _ => some d
  | _ :: earlier => begun? earlier

/-- The description whose document was renamed to the output last. -/
def placed? (output : String) : List Deed → Option Description
  | [] => none
  | .acted (.rename _ target) (.ok ()) :: earlier =>
    if target = output then begun? earlier else placed? output earlier
  | _ :: earlier => placed? output earlier

def initial? (input : String) : List Deed → Option Description
  | [] => none
  | .loaded contents :: _ => (Description.load input contents).run.value.toOption
  | _ :: earlier => initial? input earlier

/-- The error that a deed amounts to. That a temporary file cannot be removed is none. -/
def Deed.failure? (plan : Plan) : Deed → Option RunError
  | .loaded contents =>
    match (Description.load plan.input contents).run.value with
    | .error e => some (.load e)
    | .ok _ => none
  | .begun d =>
    match (d.compile plan.strict).run.value with
    | .error e => some (.compile e)
    | .ok _ => none
  | .acted (.remove _) _ => none
  | .acted _ (.error fault) => some (.write ⟨plan.output, fault⟩)
  | .acted _ (.ok ()) => none

/-- The first error before anything has been placed. -/
def startFailure? (plan : Plan) : List Deed → Option RunError
  | [] => none
  | deed :: earlier =>
    (startFailure? plan earlier).or
      (if (placed? plan.output earlier).isSome then none else deed.failure? plan)

theorem placed?_begun (output : String) (d : Description) (log : List Deed) :
    placed? output (.begun d :: log) = placed? output log := rfl

theorem initial?_begun (input : String) (d : Description) (log : List Deed) :
    initial? input (.begun d :: log) = initial? input log := rfl

theorem startFailure?_of_harmless {plan : Plan} {deed : Deed} (harmless : deed.failure? plan = none)
    (log : List Deed) : startFailure? plan (deed :: log) = startFailure? plan log := by
  simp [startFailure?, harmless]

theorem startFailure?_of_smooth {plan : Plan} {log : List Deed} (smooth : startFailure? plan log = none)
    (deed : Deed) : startFailure? plan (deed :: log) =
      if (placed? plan.output log).isSome then none else deed.failure? plan := by
  rw [startFailure?, smooth, Option.none_or]

/-- The output holds the document placed last, or what it held at first. -/
def Stage.Holds (plan : Plan) (start : Tree) (x : Stage) : Prop :=
  match placed? plan.output x.log with
  | none => x.tree.heldAt plan.output = start.heldAt plan.output
  | some d => ∃ document, (d.compile plan.strict).run.value = .ok document ∧
    x.tree.heldAt plan.output = some (.file document.toUTF8)

/-! ## The course of a run -/

/-- How far a run has come when the loop is between two steps. -/
inductive Standing (plan : Plan) (log : List Deed) : Phase → List Description → Prop
  | loading {attempts : List Description} (fresh : log = []) (unattempted : attempts = []) :
    Standing plan log .loading attempts
  | delivering {first : Description} {attempts : List Description} (initial : initial? plan.input log = some first)
    (unplaced : placed? plan.output log = none) (smooth : startFailure? plan log = none)
    (unattempted : attempts = []) : Standing plan log (.delivering first) attempts
  | failed {e : RunError} {attempts : List Description} (unplaced : placed? plan.output log = none)
    (failure : startFailure? plan log = some e) (only : attempts <+: (initial? plan.input log).toList) :
    Standing plan log (.failed e) attempts
  | goes {phase : Phase} {attempts : List Description} (goes : phase.Goes)
    (placed : (placed? plan.output log).isSome = true) (smooth : startFailure? plan log = none) :
    Standing plan log phase attempts

structure Settled (plan : Plan) (log : List Deed) (s : State) : Prop where
  samePlan : s.plan = plan
  standing : Standing plan log s.phase s.attempts

/-- A document on its way: what is to become of the loop when it has been placed or not. -/
structure Delivers (plan : Plan) (log : List Deed) (document : String)
    (onward : Except WriteError Unit → Dialogue State) : Prop where
  compiled : ∃ d, begun? log = some d ∧ (d.compile plan.strict).run.value = .ok document
  placed : ∃ s, onward (.ok ()) = .done s ∧ s.plan = plan ∧ s.phase.Goes
  failed : ∀ e, ∃ s, onward (.error e) = .done s ∧ s.plan = plan ∧
    if (placed? plan.output log).isSome then s.phase.Goes
    else s.phase = .failed (.write e) ∧ s.attempts <+: (initial? plan.input log).toList

/-- The points that a run can be at, as its log has it. -/
inductive Course (plan : Plan) (log : List Deed) (tree : Tree) : Dialogue State → Prop
  | rests {s : State} (settled : Settled plan log s) : Course plan log tree (.done s)
  | loading {next : Except FileFault ByteArray → Dialogue State} (fresh : log = [])
    (settles : ∀ contents, ∃ s, next contents = .done s ∧ Settled plan [.loaded contents] s) :
    Course plan log tree (.ask (.read plan.input) next)
  | registering {path : String} {next : Except FileFault Unit → Dialogue State}
    (settles : ∀ answer, ∃ s, next answer = .done s ∧ Settled plan log s) :
    Course plan log tree (.ask (.watch path) next)
  | writing {document : String} {onward : Except WriteError Unit → Dialogue State}
    {next : Except FileFault Unit → Dialogue State} (delivers : Delivers plan log document onward)
    (smooth : startFailure? plan log = none)
    (ok : next (.ok ()) = Dialogue.ofProcedure (.placing plan.output) >>= onward)
    (error : ∀ fault, next (.error fault) = onward (.error ⟨plan.output, fault⟩)) :
    Course plan log tree (.ask (.act (.write (Path.temporary plan.output) document.toUTF8)) next)
  | placing {document : String} {onward : Except WriteError Unit → Dialogue State}
    {next : Except FileFault Unit → Dialogue State} (delivers : Delivers plan log document onward)
    (smooth : startFailure? plan log = none)
    (beside : tree.heldAt (Path.temporary plan.output) = some (.file document.toUTF8))
    (ok : next (.ok ()) = onward (.ok ()))
    (error : ∀ fault, next (.error fault) = Dialogue.ofProcedure (.clearing plan.output fault) >>= onward) :
    Course plan log tree (.ask (.act (.rename (Path.temporary plan.output) plan.output)) next)
  | clearing {document : String} {fault : FileFault} {onward : Except WriteError Unit → Dialogue State}
    {next : Except FileFault Unit → Dialogue State} (delivers : Delivers plan log document onward)
    (failure : startFailure? plan log =
      if (placed? plan.output log).isSome then none else some (.write ⟨plan.output, fault⟩))
    (ends : ∀ answer, next answer = onward (.error ⟨plan.output, fault⟩)) :
    Course plan log tree (.ask (.act (.remove (Path.temporary plan.output))) next)

variable {plan : Plan} {log : List Deed} {tree : Tree}

structure Beside (change : State → State) : Prop where
  plan (s : State) : (change s).plan = s.plan
  phase (s : State) : (change s).phase = s.phase
  attempts (s : State) : (change s).attempts = s.attempts

-- Subscriptions and posted events are changes beside what a course speaks of, so that they may
-- happen at any of its points.
theorem Settled.beside {s : State} (settled : Settled plan log s) {change : State → State}
    (beside : Beside change) :
    Settled plan log (change s) := by
  refine ⟨(beside.plan s).trans settled.samePlan, ?_⟩
  rw [beside.phase, beside.attempts]
  exact settled.standing

theorem Delivers.beside {document : String} {onward : Except WriteError Unit → Dialogue State}
    (delivers : Delivers plan log document onward) {change : State → State} (beside : Beside change) :
    Delivers plan log document fun result => change <$> onward result where
  compiled := delivers.compiled
  placed := by
    obtain ⟨s, leads, samePlan, goes⟩ := delivers.placed
    refine ⟨change s, by rw [leads]; rfl, (beside.plan s).trans samePlan, ?_⟩
    rwa [beside.phase]
  failed e := by
    obtain ⟨s, leads, samePlan, stands⟩ := delivers.failed e
    refine ⟨change s, by rw [leads]; rfl, (beside.plan s).trans samePlan, ?_⟩
    rwa [beside.phase, beside.attempts]

theorem Course.beside {run : Dialogue State} (course : Course plan log tree run) {change : State → State}
    (beside : Beside change) : Course plan log tree (change <$> run) := by
  have settles {log : List Deed} {run : Dialogue State} (settles : ∃ s, run = .done s ∧ Settled plan log s) :
      ∃ s, change <$> run = .done s ∧ Settled plan log s := by
    obtain ⟨s, rfl, settled⟩ := settles
    exact ⟨change s, rfl, settled.beside beside⟩
  cases course with
  | rests settled => exact .rests (settled.beside beside)
  | loading fresh leads => exact .loading fresh fun contents => settles (leads contents)
  | registering leads => exact .registering fun answer => settles (leads answer)
  | writing delivers smooth ok error =>
    refine .writing (delivers.beside beside) smooth ?_ fun fault => ?_
    · exact (congrArg (change <$> ·) ok).trans (map_bind _ _ _)
    · exact congrArg (change <$> ·) (error fault)
  | placing delivers smooth held ok error =>
    refine .placing (delivers.beside beside) smooth held ?_ fun fault => ?_
    · exact congrArg (change <$> ·) ok
    · exact (congrArg (change <$> ·) (error fault)).trans (map_bind _ _ _)
  | clearing delivers failure ends =>
    exact .clearing (delivers.beside beside) failure fun answer => congrArg (change <$> ·) (ends answer)

theorem Course.turn {run : Dialogue State} (course : Course plan log tree run) {other : Tree}
    (spared : ∀ action next, run = .ask (.act action) next →
      other.heldAt (Path.temporary plan.output) = tree.heldAt (Path.temporary plan.output)) :
    Course plan log other run := by
  -- Only a document that is about to be renamed is in the tree already.
  cases course with
  | rests settled => exact .rests settled
  | loading fresh leads => exact .loading fresh leads
  | registering leads => exact .registering leads
  | writing delivers smooth ok error => exact .writing delivers smooth ok error
  | placing delivers smooth held ok error =>
    exact .placing delivers smooth ((spared _ _ rfl).trans held) ok error
  | clearing delivers failure ends => exact .clearing delivers failure ends

/-! ## One step -/

section

variable {output : String} {d : Description} {strict : Bool}

theorem deliver_of_error {e : CompileError} (compiled : (d.compile strict).run.value = .error e) :
    d.deliver Dialogue.access strict output = .done (.error (.compile e)) := by
  rw [Description.deliver, Dialogue.observe_bind, compiled]
  rfl

theorem put_eq (toFile : Path.isStandardOutput output = false) (document : String) :
    Dialogue.access.put output document = Dialogue.ofProcedure (.delivery output document) := by
  unfold Access.put
  rw [toFile]
  refine (congrArg (Dialogue.ofProcedure (.delivery output document) >>= ·) (funext fun result => ?_)).trans
    (bind_pure _)
  cases result <;> rfl

theorem deliver_of_ok (toFile : Path.isStandardOutput output = false) {document : String}
    (compiled : (d.compile strict).run.value = .ok document) :
    d.deliver Dialogue.access strict output =
      Dialogue.ofProcedure (.delivery output document) >>= fun result => .done (result.mapError .write) := by
  rw [Description.deliver, Dialogue.observe_bind, compiled]
  simp only [put_eq toFile]
  refine congrArg (_ >>= ·) (funext fun result => ?_)
  cases result <;> rfl

def State.delivered (s : State) (first : Description) (result : Except WriteError Unit) : State :=
  { s with
    attempts := s.attempts ++ [first]
    phase := match result with
      | .ok () => .registering
      | .error e => .failed (.write e) }

theorem state_deliver_of_ok {s : State} (toFile : Path.isStandardOutput s.plan.output = false) {document : String}
    (compiled : (d.compile s.plan.strict).run.value = .ok document) :
    s.deliver Dialogue.access d =
      Dialogue.ofProcedure (.delivery s.plan.output document) >>= fun result => .done (s.delivered d result) := by
  simp only [State.deliver, State.attempt, deliver_of_ok toFile compiled, bind_assoc]
  refine congrArg (_ >>= ·) (funext fun result => ?_)
  cases result <;> rfl

theorem state_redeliver_of_ok {s : State} (toFile : Path.isStandardOutput s.plan.output = false) {document : String}
    (compiled : (d.compile s.plan.strict).run.value = .ok document) :
    s.redeliver Dialogue.access d = Dialogue.ofProcedure (.delivery s.plan.output document) >>= fun _ =>
      .done { s with phase := .waiting, attempts := s.attempts ++ [d] } := by
  simp only [State.redeliver, State.attempt, deliver_of_ok toFile compiled, bind_assoc]
  refine congrArg (_ >>= ·) (funext fun result => ?_)
  cases result <;> rfl

theorem load_eq (s : State) : s.load Dialogue.access =
    .ask (.read s.plan.input) fun contents => .done { s with
      phase := match (Description.load s.plan.input contents).run.value with
        | .ok first => .delivering first
        | .error e => .failed (.load e) } := by
  simp only [State.load, Dialogue.read_bind, Dialogue.observe_bind]
  refine congrArg (Dialogue.ask (.read s.plan.input)) (funext fun contents => ?_)
  cases (Description.load s.plan.input contents).run.value <;> rfl

theorem start_cases (path : String) :
    (∃ e, Watcher.start Dialogue.access path = .done (.error e)) ∨
    ∃ name next, Watcher.start Dialogue.access path = .ask (.watch (Path.directory path)) next ∧
      next (.ok ()) = .done (.ok name) ∧ ∀ fault, next (.error fault) = .done (.error (.directory fault)) := by
  unfold Watcher.start
  split
  · exact .inl ⟨_, rfl⟩
  · rename_i name _
    dsimp only
    split
    · exact .inl ⟨_, rfl⟩
    · exact .inr ⟨name, _, rfl, rfl, fun _ => rfl⟩

end

theorem Standing.of_goes {phase : Phase} {attempts : List Description}
    (standing : Standing plan log phase attempts) (goes : phase.Goes) (unfailed : ∀ e, phase ≠ .failed e) :
    (placed? plan.output log).isSome = true ∧ startFailure? plan log = none := by
  cases standing with
  | goes _ placed smooth => exact ⟨placed, smooth⟩
  | loading | delivering => exact goes.elim
  | failed => exact absurd rfl (unfailed _)

theorem Phase.Watches.goes {phase : Phase} (watches : phase.Watches) : phase.Goes := by
  cases phase <;> first | exact watches | exact watches.elim

theorem Phase.Watches.ne_failed {phase : Phase} (watches : phase.Watches) (e : RunError) : phase ≠ .failed e := by
  rintro rfl
  exact watches

theorem Course.of_delivery {document : String} {onward : Except WriteError Unit → Dialogue State}
    (delivers : Delivers plan log document onward) (smooth : startFailure? plan log = none) :
    Course plan log tree (Dialogue.ofProcedure (.delivery plan.output document) >>= onward) :=
  .writing delivers smooth rfl fun _ => rfl

theorem Settled.load {s : State} (settled : Settled plan log s) (phase : s.phase = .loading) :
    Course plan log tree (s.load Dialogue.access) := by
  obtain ⟨rfl, standing⟩ := settled
  rw [phase] at standing
  cases standing with
  | goes goes => exact goes.elim
  | loading fresh unattempted =>
    rw [load_eq]
    refine .loading fresh fun contents => ⟨_, rfl, rfl, ?_⟩
    have unplaced : placed? s.plan.output [.loaded contents] = none := rfl
    cases loaded : (Description.load s.plan.input contents).run.value with
    | ok first =>
      have initial : initial? s.plan.input [.loaded contents] = some first := by
        simp [initial?, loaded, Except.toOption]
      have smooth : startFailure? s.plan [.loaded contents] = none := by
        simp [startFailure?, placed?, Deed.failure?, loaded]
      exact .delivering initial unplaced smooth unattempted
    | error e =>
      have failure : startFailure? s.plan [.loaded contents] = some (.load e) := by
        simp [startFailure?, placed?, Deed.failure?, loaded]
      exact .failed unplaced failure (unattempted ▸ List.nil_prefix)

theorem Settled.deliver (toFile : Path.isStandardOutput plan.output = false) {s : State} {first : Description}
    (settled : Settled plan log s) (phase : s.phase = .delivering first) :
    Course plan (.begun first :: log) tree (s.deliver Dialogue.access first) := by
  obtain ⟨rfl, standing⟩ := settled
  rw [phase] at standing
  cases standing with
  | goes goes => exact goes.elim
  | delivering initial unplaced smooth unattempted =>
    have only : s.attempts ++ [first] <+: (initial? s.plan.input (.begun first :: log)).toList := by
      rw [unattempted, initial?_begun, initial]
      exact List.prefix_rfl
    -- A description that does not compile ends the run before anything is written.
    cases compiled : (first.compile s.plan.strict).run.value with
    | error e =>
      have failure : startFailure? s.plan (.begun first :: log) = some (.compile e) := by
        simp [startFailure?, smooth, unplaced, Deed.failure?, compiled]
      have fails : s.deliver Dialogue.access first =
          .done { s with attempts := s.attempts ++ [first], phase := .failed (.compile e) } := by
        simp only [State.deliver, State.attempt, deliver_of_error compiled, Dialogue.done_bind]
        rfl
      rw [fails]
      exact .rests ⟨rfl, .failed unplaced failure only⟩
    | ok document =>
      have still : startFailure? s.plan (.begun first :: log) = none := by
        simp [startFailure?, smooth, unplaced, Deed.failure?, compiled]
      rw [state_deliver_of_ok toFile compiled]
      refine .of_delivery ?_ still
      constructor
      case compiled => exact ⟨first, rfl, compiled⟩
      case placed => exact ⟨_, rfl, rfl, trivial⟩
      case failed =>
        intro e
        refine ⟨_, rfl, rfl, ?_⟩
        rw [placed?_begun, unplaced, if_neg (by decide)]
        exact ⟨rfl, only⟩

theorem Settled.redeliver (toFile : Path.isStandardOutput plan.output = false) {s : State} {latest : Description}
    (settled : Settled plan log s) (phase : s.phase = .draining latest) :
    Course plan (.begun latest :: log) tree (s.redeliver Dialogue.access latest) := by
  obtain ⟨rfl, standing⟩ := settled
  rw [phase] at standing
  obtain ⟨placed, smooth⟩ := standing.of_goes trivial nofun
  have still : startFailure? s.plan (.begun latest :: log) = none := by
    simp [startFailure?, smooth, placed]
  cases compiled : (latest.compile s.plan.strict).run.value with
  | error e =>
    have goes : s.redeliver Dialogue.access latest =
        .done { s with phase := .waiting, attempts := s.attempts ++ [latest] } := by
      simp only [State.redeliver, State.attempt, deliver_of_error compiled, Dialogue.done_bind]
      rfl
    rw [goes]
    exact .rests ⟨rfl, .goes trivial placed still⟩
  | ok document =>
    rw [state_redeliver_of_ok toFile compiled]
    refine .of_delivery ?_ still
    constructor
    case compiled => exact ⟨latest, rfl, compiled⟩
    case placed => exact ⟨_, rfl, rfl, trivial⟩
    case failed =>
      intro e
      refine ⟨_, rfl, rfl, ?_⟩
      rw [placed?_begun, if_pos placed]
      exact trivial

theorem Settled.register {s : State} (settled : Settled plan log s) (phase : s.phase = .registering) :
    Course plan log tree (s.register Dialogue.access) := by
  obtain ⟨rfl, standing⟩ := settled
  rw [phase] at standing
  obtain ⟨placed, smooth⟩ := standing.of_goes trivial nofun
  unfold State.register
  rcases start_cases s.plan.input with ⟨e, failed⟩ | ⟨name, next, asks, ok, error⟩
  · rw [failed]
    exact .rests ⟨rfl, .goes trivial placed smooth⟩
  · rw [asks]
    refine .registering fun answer => ?_
    cases answer with
    | ok _ =>
      let started : State := { s with watched := some name, phase := .subscribing }
      exact ⟨started, by rw [ok]; rfl, rfl, .goes trivial placed smooth⟩
    | error fault =>
      let unwatched : State := { s with phase := .failed (.watch (.directory fault)) }
      exact ⟨unwatched, by rw [error]; rfl, rfl, .goes trivial placed smooth⟩

theorem Settled.act (toFile : Path.isStandardOutput plan.output = false) {s : State} (settled : Settled plan log s)
    {action : Action} {run : Dialogue State} (isOpen : s.step? Dialogue.access action = some run) :
    Course plan (((s.subject? action).map Deed.begun).toList ++ log) tree run := by
  obtain ⟨task, opens, rfl⟩ := State.exists_opens isOpen
  rw [opens.subject?_eq]
  cases task with
  | load =>
    cases opens with
    | load phase => exact settled.load phase
  | deliver first =>
    cases opens with
    | deliver phase => exact settled.deliver toFile phase
  | register =>
    cases opens with
    | register phase => exact settled.register phase
  | redeliver latest =>
    cases opens with
    | redeliver phase => exact settled.redeliver toFile phase
  | stop =>
    have watches := opens.watches_of_stop
    obtain ⟨placed, smooth⟩ := settled.standing.of_goes watches.goes watches.ne_failed
    exact .rests ⟨settled.samePlan, .goes trivial placed smooth⟩
  | move next =>
    obtain ⟨watches, same, goes⟩ := opens.watches_of_move
    obtain ⟨placed, smooth⟩ := settled.standing.of_goes watches.goes watches.ne_failed
    exact .rests ⟨same.trans settled.samePlan, .goes goes.goes placed smooth⟩

theorem Delivers.acted {document : String} {onward : Except WriteError Unit → Dialogue State}
    (delivers : Delivers plan log document onward) {action : FileAction} {result : Except FileFault Unit}
    (unplaced : placed? plan.output (.acted action result :: log) = placed? plan.output log) :
    Delivers plan (.acted action result :: log) document onward where
  compiled := delivers.compiled
  placed := delivers.placed
  failed e := by
    obtain ⟨s, leads, samePlan, stands⟩ := delivers.failed e
    refine ⟨s, leads, samePlan, ?_⟩
    rw [unplaced]
    exact stands

theorem Delivers.rests {document : String} {onward : Except WriteError Unit → Dialogue State} {fault : FileFault}
    (delivers : Delivers plan log document onward)
    (failure : startFailure? plan log =
      if (placed? plan.output log).isSome then none else some (.write ⟨plan.output, fault⟩)) :
    Course plan log tree (onward (.error ⟨plan.output, fault⟩)) := by
  obtain ⟨s, leads, samePlan, stands⟩ := delivers.failed ⟨plan.output, fault⟩
  rw [leads]
  refine .rests ⟨samePlan, ?_⟩
  -- Whether the failure ends the run hangs on an earlier document being in place.
  split at stands
  · rename_i placed
    rw [if_pos placed] at failure
    exact .goes stands placed failure
  · rename_i unplaced
    rw [if_neg unplaced] at failure
    obtain ⟨phase, only⟩ := stands
    rw [phase]
    exact .failed (Option.not_isSome_iff_eq_none.1 unplaced) failure only

theorem Course.perform {action : FileAction} {next : Except FileFault Unit → Dialogue State} {other : Tree}
    (course : Course plan log tree (.ask (.act action) next)) (performed : tree.perform action = .ok other) :
    Course plan (.acted action (.ok ()) :: log) other (next (.ok ())) := by
  cases course with
  | writing delivers smooth ok error =>
    rw [ok]
    refine .placing (delivers.acted rfl) ?_ (Tree.heldAt_of_write performed) rfl fun _ => rfl
    exact (startFailure?_of_harmless rfl log).trans smooth
  | placing delivers smooth held ok error =>
    -- From here on the output counts as placed, so that no later failure ends the run.
    obtain ⟨d, begun, -⟩ := delivers.compiled
    obtain ⟨s, leads, samePlan, goes⟩ := delivers.placed
    rw [ok, leads]
    refine .rests ⟨samePlan, .goes goes ?_ ((startFailure?_of_harmless rfl log).trans smooth)⟩
    rw [placed?, if_pos rfl, begun, Option.isSome_some]
  | clearing delivers failure ends =>
    rw [ends]
    exact (delivers.acted rfl).rests ((startFailure?_of_harmless rfl log).trans failure)

theorem Course.fail {action : FileAction} {next : Except FileFault Unit → Dialogue State}
    (course : Course plan log tree (.ask (.act action) next)) (fault : FileFault) :
    Course plan (.acted action (.error fault) :: log) tree (next (.error fault)) := by
  cases course with
  | writing delivers smooth ok error =>
    rw [error]
    exact (delivers.acted rfl).rests (startFailure?_of_smooth smooth _)
  | placing delivers smooth held ok error =>
    rw [error]
    exact .clearing (delivers.acted rfl) (startFailure?_of_smooth smooth _) fun _ => rfl
  | clearing delivers failure ends =>
    rw [ends]
    exact (delivers.acted rfl).rests ((startFailure?_of_harmless rfl log).trans failure)

theorem Course.writeSome {path : String} {bytes : ByteArray} {next : Except FileFault Unit → Dialogue State}
    (course : Course plan log tree (.ask (.act (.write path bytes)) next)) (other : Tree) :
    Course plan log other (.ask (.act (.write path bytes)) next) := by
  cases course with
  | writing delivers smooth ok error => exact .writing delivers smooth ok error

theorem Course.step (toFile : Path.isStandardOutput plan.output = false) {x y : Stage}
    (course : Course plan x.log x.tree x.run) (step : Step plan x y) : Course plan y.log y.tree y.run := by
  obtain ⟨run, watcher, tree, log⟩ := x
  cases step with
  | act rests isOpen =>
    obtain rfl := rests
    cases course with
    | rests settled => exact settled.act toFile isOpen
  | read asks contents =>
    obtain rfl := asks
    cases course with
    | loading fresh settles =>
      obtain rfl := fresh
      obtain ⟨s, leads, settled⟩ := settles contents
      rw [leads]
      exact .rests settled
  | watch asks answer =>
    obtain rfl := asks
    cases course with
    | registering settles =>
      obtain ⟨s, leads, settled⟩ := settles answer
      rw [leads]
      exact .rests settled
  | print asks answer =>
    obtain rfl := asks
    cases course
  | perform asks performed =>
    obtain rfl := asks
    exact course.perform performed
  | fail asks fault =>
    obtain rfl := asks
    exact course.fail fault
  | writeSome asks count performed =>
    obtain rfl := asks
    exact course.writeSome _
  | notice | reload => exact course
  | update handled => exact course.beside ⟨fun _ => rfl, fun _ => rfl, fun _ => rfl⟩
  | trigger => exact course.beside ⟨fun _ => rfl, fun _ => rfl, fun _ => rfl⟩
  | close => exact course.beside ⟨fun _ => rfl, fun _ => rfl, fun _ => rfl⟩
  | turn spared sparedBeside => exact course.turn sparedBeside

theorem placed?_subject (output : String) (subject : Option Description) (log : List Deed) :
    placed? output ((subject.map Deed.begun).toList ++ log) = placed? output log := by
  cases subject <;> rfl

/-- A step leaves the output and what is known of it alone, or renames a whole document to it. -/
theorem Course.output {x y : Stage} (course : Course plan x.log x.tree x.run) (step : Step plan x y) :
    (placed? plan.output y.log = placed? plan.output x.log ∧
      y.tree.heldAt plan.output = x.tree.heldAt plan.output) ∨
    ∃ d document, begun? x.log = some d ∧ (d.compile plan.strict).run.value = .ok document ∧
      y.log = .acted (.rename (Path.temporary plan.output) plan.output) (.ok ()) :: x.log ∧
      y.tree.heldAt plan.output = some (.file document.toUTF8) := by
  obtain ⟨run, watcher, tree, log⟩ := x
  -- Only a renaming in the course of a delivery touches the output, and then what stands beside it
  -- is the whole document.
  cases step with
  | act => exact .inl ⟨placed?_subject _ _ _, rfl⟩
  | read | watch | print | notice | reload | update | trigger | close => exact .inl ⟨rfl, rfl⟩
  | turn spared => exact .inl ⟨rfl, spared⟩
  | perform asks performed =>
    obtain rfl := asks
    cases course with
    | writing => exact .inl ⟨rfl, Tree.heldAt_of_temporary rfl performed⟩
    | clearing => exact .inl ⟨rfl, Tree.heldAt_of_temporary rfl performed⟩
    | placing delivers _ held =>
      obtain ⟨d, begun, compiled⟩ := delivers.compiled
      exact .inr ⟨d, _, begun, compiled, rfl, Tree.heldAt_of_rename performed held⟩
  | fail asks fault =>
    obtain rfl := asks
    cases course with
    | writing | placing | clearing => exact .inl ⟨rfl, rfl⟩
  | writeSome asks count performed =>
    obtain rfl := asks
    cases course with
    | writing => exact .inl ⟨rfl, Tree.heldAt_of_temporary rfl performed⟩

theorem Stage.Holds.step {start : Tree} {x y : Stage} (holds : x.Holds plan start)
    (course : Course plan x.log x.tree x.run) (step : Step plan x y) : y.Holds plan start := by
  unfold Stage.Holds at holds ⊢
  rcases course.output step with ⟨samePlaced, sameHeld⟩ | ⟨d, document, begun, compiled, logged, held⟩
  · rw [samePlaced, sameHeld]
    exact holds
  · rw [logged, placed?, if_pos rfl, begun]
    exact ⟨document, compiled, held⟩

/-! ## A whole run -/

section

variable {shutdown : Shutdown} {start : Tree} {x : Stage}

theorem Reaches.sound (toFile : Path.isStandardOutput plan.output = false)
    (run : Reaches plan (.outset plan shutdown start) x) : x.Holds plan start ∧ Course plan x.log x.tree x.run := by
  unfold Reaches at run
  -- What the output holds is carried on by the course, which knows what is renamed to it.
  induction run with
  | refl => exact ⟨rfl, .rests ⟨rfl, .loading rfl rfl⟩⟩
  | tail _ step ih => exact ⟨ih.1.step ih.2 step, ih.2.step toFile step⟩

/-- The output of a loop in a workspace, between two moves. -/
theorem Scene.exists_holds (toFile : Path.isStandardOutput plan.output = false) {workspace : Workspace}
    {scene : Scene} (run : Relation.ReflTransGen Scene.Moves ⟨{ plan, shutdown }, workspace⟩ scene) :
    ∃ x : Stage, x.At scene ∧ x.Holds plan workspace.tree := by
  have outset : (Stage.outset plan shutdown workspace.tree).At ⟨{ plan, shutdown }, workspace⟩ := ⟨rfl, rfl, rfl⟩
  obtain ⟨x, reaches, there⟩ := outset.run run
  exact ⟨x, there, (reaches.sound toFile).1⟩

/-- The run is over with an error, and at most the first description has been attempted. -/
def State.Ended (plan : Plan) (log : List Deed) (e : RunError) (s : State) : Prop :=
  s.phase = .failed e ∧ (∀ action, (s.step? Dialogue.access action).isNone) ∧
    s.attempts <+: (initial? plan.input log).toList

theorem State.ended_of_failed {s : State} {e : RunError} (phase : s.phase = .failed e)
    (only : s.attempts <+: (initial? plan.input log).toList) : s.Ended plan log e := by
  refine ⟨phase, fun action => ?_, only⟩
  cases action <;> simp [State.step?, phase]

theorem Settled.ended {s : State} (settled : Settled plan log s) {e : RunError}
    (failure : startFailure? plan log = some e) : placed? plan.output log = none ∧ s.Ended plan log e := by
  obtain ⟨-, standing⟩ := settled
  generalize here : s.phase = phase at standing
  cases standing with
  | loading fresh =>
    rw [fresh] at failure
    cases failure
  | delivering _ _ smooth | goes _ _ smooth =>
    rw [smooth] at failure
    cases failure
  | failed unplaced known only =>
    obtain rfl := Option.some.inj (failure.symm.trans known)
    exact ⟨unplaced, State.ended_of_failed here only⟩

theorem Course.ends {run : Dialogue State} (course : Course plan log tree run) {e : RunError}
    (failure : startFailure? plan log = some e) :
    placed? plan.output log = none ∧ run.Ends (State.Ended plan log e) := by
  cases course with
  | rests settled =>
    obtain ⟨unplaced, ended⟩ := settled.ended failure
    exact ⟨unplaced, .done ended⟩
  | loading fresh =>
    rw [fresh] at failure
    cases failure
  | registering settles =>
    obtain ⟨s, -, settled⟩ := settles (.ok ())
    refine ⟨(settled.ended failure).1, .ask fun answer => ?_⟩
    obtain ⟨s, leads, settled⟩ := settles answer
    rw [leads]
    exact .done (settled.ended failure).2
  | writing _ smooth | placing _ smooth =>
    rw [smooth] at failure
    cases failure
  | clearing delivers failed ends =>
    -- The error is decided; whether the temporary file can be removed makes no difference.
    rw [failure] at failed
    split at failed
    · cases failed
    · rename_i unplaced
      obtain rfl := Option.some.inj failed
      refine ⟨Option.not_isSome_iff_eq_none.1 unplaced, .ask fun answer => ?_⟩
      rw [ends answer]
      obtain ⟨s, leads, -, stands⟩ := delivers.failed ⟨plan.output, _⟩
      rw [if_neg unplaced] at stands
      rw [leads]
      exact .done (State.ended_of_failed stands.1 stands.2)

end

theorem reaches_placing (toFile : Path.isStandardOutput plan.output = false) {start written : Tree}
    {contents : Except FileFault ByteArray} {first : Description} {document : String}
    (loaded : (Description.load plan.input contents).run.value = .ok first)
    (compiled : (first.compile plan.strict).run.value = .ok document)
    (wrote : start.perform (.write (Path.temporary plan.output) document.toUTF8) = .ok written) :
    ∃ onward, Reaches plan (.outset plan {} start)
      ⟨Dialogue.ofProcedure (.placing plan.output) >>= onward, none, written,
        [.acted (.write (Path.temporary plan.output) document.toUTF8) (.ok ()), .begun first,
          .loaded contents]⟩ := by
  let opening : State := { plan }
  let ready : State := { plan, phase := .delivering first }
  let onward (result : Except WriteError Unit) : Dialogue State := .done (ready.delivered first result)
  have canLoad : opening.step? Dialogue.access .load = some (opening.load Dialogue.access) := rfl
  have called : Step plan (.outset plan {} start) _ := .act rfl canLoad
  have answered : Step plan ⟨opening.load Dialogue.access, none, start, []⟩ _ := .read (load_eq opening) contents
  rw [loaded] at answered
  have delivers : ready.deliver Dialogue.access first =
      Dialogue.ofProcedure (.delivery plan.output document) >>= onward :=
    state_deliver_of_ok (s := ready) toFile compiled
  have canDeliver : ready.step? Dialogue.access .deliver = some (ready.deliver Dialogue.access first) := rfl
  have begun : Step plan ⟨.done ready, none, start, [.loaded contents]⟩ _ :=
    .act rfl (canDeliver.trans (congrArg some delivers))
  have beside : Step plan ⟨Dialogue.ofProcedure (.delivery plan.output document) >>= onward, none, start,
    [.begun first, .loaded contents]⟩ _ := .perform rfl wrote
  exact ⟨onward, .head called (.head answered (.head begun (.single beside)))⟩

def occupied : Tree := Workspace.fresh.tree.set ["tmp", "workspace", "envoy.yaml"] (.file "old".toUTF8)

def toOccupied : Plan := { input := "lb.toml", output := "envoy.yaml" }

/-- At every point of a run the output holds the whole document of the description whose document
was renamed to it last, and until there is one what it held before. Nothing but such a renaming
changes it, whatever else succeeds or fails. A run whose first load, compilation or write fails can
only end in that error, with the output as it was and no update delivered. This takes for granted
that nobody else writes the output, and nobody else the temporary file while a file operation of
the loop is due (`Step.turn`); all other places may change at any time. -/
theorem last_good (plan : Plan) (toFile : Path.isStandardOutput plan.output = false) (shutdown : Shutdown)
    (start : Tree) (x : Stage) (run : Reaches plan (.outset plan shutdown start) x) :
    x.Holds plan start ∧
    (∀ y, Step plan x y → y.tree.heldAt plan.output = x.tree.heldAt plan.output ∨
      y.log = .acted (.rename (Path.temporary plan.output) plan.output) (.ok ()) :: x.log) ∧
    ∀ e, startFailure? plan x.log = some e →
      x.tree.heldAt plan.output = start.heldAt plan.output ∧ x.run.Ends (State.Ended plan x.log e) := by
  obtain ⟨holds, course⟩ := run.sound toFile
  refine ⟨holds, fun y step => ?_, fun e failure => ?_⟩
  · rcases course.output step with ⟨-, same⟩ | ⟨_, _, -, -, logged, -⟩
    · exact .inl same
    · exact .inr logged
  · obtain ⟨unplaced, ends⟩ := course.ends failure
    rw [Stage.Holds, unplaced] at holds
    exact ⟨holds, ends⟩

/-- From one point the first document is renamed to the output, or the renaming fails. -/
theorem last_good_occupied : ∃ x y document,
    Reaches toOccupied (.outset toOccupied {} occupied) x ∧
    Reaches toOccupied (.outset toOccupied {} occupied) y ∧
    (({} : Description).compile toOccupied.strict).run.value = .ok document ∧
    x.tree.heldAt "envoy.yaml" = some (.file document.toUTF8) ∧
    y.tree.heldAt "envoy.yaml" = some (.file "old".toUTF8) ∧
    startFailure? toOccupied y.log = some (.write ⟨"envoy.yaml", .busy⟩) ∧
    y.run.Ends (State.Ended toOccupied y.log (.write ⟨"envoy.yaml", .busy⟩)) := by
  have toFile : Path.isStandardOutput toOccupied.output = false := by decide
  have loaded : (Description.load toOccupied.input (.ok "".toUTF8)).run.value = .ok {} := by decide +kernel
  have exists_of_isOk {result : Except CompileError String} (isOk : result.isOk = true) :
      ∃ document, result = .ok document := by
    cases result with
    | error e => cases isOk
    | ok document => exact ⟨document, rfl⟩
  obtain ⟨document, compiled⟩ : ∃ document,
      (({} : Description).compile toOccupied.strict).run.value = .ok document :=
    exists_of_isOk (by decide +kernel)
  let written := occupied.set ["tmp", "workspace", "envoy.yaml.tmp"] (.file document.toUTF8)
  have wrote : occupied.perform (.write (Path.temporary toOccupied.output) document.toUTF8) = .ok written := rfl
  obtain ⟨onward, reaches⟩ := reaches_placing toFile loaded compiled wrote
  have renamed : written.perform (.rename (Path.temporary toOccupied.output) toOccupied.output) =
    .ok ((written.erase ["tmp", "workspace", "envoy.yaml.tmp"]).set ["tmp", "workspace", "envoy.yaml"]
      (.file document.toUTF8)) := rfl
  have placed := reaches.tail (.perform rfl renamed)
  have misplaced := reaches.tail (.fail rfl .busy)
  have smooth : Deed.failure? toOccupied (.loaded (.ok "".toUTF8)) = none := by simp only [Deed.failure?, loaded]
  have begun : Deed.failure? toOccupied (.begun {}) = none := by simp only [Deed.failure?, compiled]
  have failure : startFailure? toOccupied
    [.acted (.rename (Path.temporary toOccupied.output) toOccupied.output) (.error .busy),
      .acted (.write (Path.temporary toOccupied.output) document.toUTF8) (.ok ()), .begun {},
      .loaded (.ok "".toUTF8)] = some (.write ⟨"envoy.yaml", .busy⟩) := by
    simp only [startFailure?, smooth, begun]
    rfl
  obtain ⟨holds, -, -⟩ := last_good toOccupied toFile {} occupied _ placed
  obtain ⟨-, -, fails⟩ := last_good toOccupied toFile {} occupied _ misplaced
  obtain ⟨kept, ends⟩ := fails _ failure
  obtain ⟨placedDocument, same, held⟩ := holds
  obtain rfl : document = placedDocument := Except.ok.inj (compiled.symm.trans same)
  exact ⟨_, _, _, placed, misplaced, compiled, held, kept, failure, ends⟩

end Watch

end ServiceProxy
