import Mathlib.Logic.Relation
import ServiceProxy.Files.Access
import ServiceProxy.Proofs.Files.Siblings

/-! Deliveries that may fail or stop anywhere. Writing may stop after any number of bytes, each
action may fail for any reason, and what comes after a point may never happen. Main statement: in
every succession of deliveries the file at a path holds what it held or the complete document,
and nothing else changes but the temporary file. -/

set_option autoImplicit false

namespace ServiceProxy

/-- A document on its way to a path: the tree at the call and the tree now, the actions that have
come to an end with what they came to, and what is left to do. -/
structure Passage where
  path : String
  document : String
  before : Tree
  tree : Tree
  log : List (FileAction × Except FileFault Unit)
  rest : Procedure (Except WriteError Unit)

namespace Passage

def outset (t : Tree) (path document : String) : Passage :=
  ⟨path, document, t, t, [], .delivery path document⟩

def temporary (x : Passage) : String := Path.temporary x.path

def bytes (x : Passage) : ByteArray := x.document.toUTF8

/-- What can happen next. Only a removal is sure to succeed where there is a file. -/
inductive Step : Passage → Passage → Prop where
  | succeed {x : Passage} {action : FileAction} {next : Except FileFault Unit → Procedure (Except WriteError Unit)}
      {u : Tree} (toDo : x.rest = .act action next) (performed : x.tree.perform action = .ok u) :
      Step x { x with tree := u, log := x.log ++ [(action, .ok ())], rest := next (.ok ()) }
  | fail {x : Passage} {action : FileAction} {next : Except FileFault Unit → Procedure (Except WriteError Unit)}
      (fault : FileFault) (toDo : x.rest = .act action next)
      (fallible : ∀ path u, action = .remove path → x.tree.perform action ≠ .ok u) :
      Step x { x with log := x.log ++ [(action, .error fault)], rest := next (.error fault) }
  /-- The file is open and holds the first bytes. -/
  | writeSome {x : Passage} {path : String} {bytes : ByteArray}
      {next : Except FileFault Unit → Procedure (Except WriteError Unit)} {u : Tree} (count : Nat)
      (toDo : x.rest = .act (.write path bytes) next)
      (performed : x.tree.perform (.write path (bytes.extract 0 count)) = .ok u) :
      Step x { x with tree := u }

/-- The temporary file holds the document and nothing else has changed. -/
structure Written (x : Passage) : Prop where
  differs : x.before.Differs [x.temporary] x.tree
  held : ∃ place, x.before.locate x.temporary = .ok place ∧ x.tree.get? place = some (.file x.bytes)

structure Cleared (x : Passage) : Prop where
  differs : x.before.Differs [x.temporary] x.tree
  vacated : ∃ place, x.before.locate x.temporary = .ok place ∧ x.tree.get? place = none

structure Placed (x : Passage) : Prop where
  differs : x.before.Differs [x.temporary, x.path] x.tree
  target : ∃ place, x.before.locate x.path = .ok place ∧ x.tree.get? place = some (.file x.bytes)
  vacated : ∃ place, x.before.locate x.temporary = .ok place ∧ x.tree.get? place = none

/-- The stages of a delivery and what the tree is like at each. -/
inductive Sound (x : Passage) : Prop where
  | writing (rest : x.rest = .delivery x.path x.document) (log : x.log = [])
      (differs : x.before.Differs [x.temporary] x.tree)
  | unwritten (fault : FileFault) (rest : x.rest = .done (.error ⟨x.path, fault⟩))
      (log : x.log = [(.write x.temporary x.bytes, .error fault)])
      (differs : x.before.Differs [x.temporary] x.tree)
  | written (rest : x.rest = .placing x.path) (written : x.Written)
  | placed (rest : x.rest = .done (.ok ())) (placed : x.Placed)
  | unplaced (fault : FileFault) (rest : x.rest = .clearing x.path fault) (written : x.Written)
  | cleared (fault : FileFault) (rest : x.rest = .done (.error ⟨x.path, fault⟩)) (cleared : x.Cleared)

variable {x y : Passage}

theorem written_of_write {u : Tree} (differs : x.before.Differs [x.temporary] x.tree)
    (wrote : x.tree.perform (.write x.temporary x.bytes) = .ok u)
    (log : List (FileAction × Except FileFault Unit)) (rest : Procedure (Except WriteError Unit)) :
    Written { x with tree := u, log, rest } := by
  refine ⟨differs.trans (Tree.differs_perform wrote), ?_⟩
  obtain ⟨place, leads, -, -, rfl⟩ := Tree.write_eq_ok.1 wrote
  refine ⟨place, differs.alike.locate.1 leads, ?_⟩
  rw [Tree.get?_set, if_pos rfl]
  rfl

theorem placed_of_rename {u : Tree} (written : x.Written)
    (renamed : x.tree.perform (.rename x.temporary x.path) = .ok u)
    (log : List (FileAction × Except FileFault Unit)) (rest : Procedure (Except WriteError Unit)) :
    Placed { x with tree := u, log, rest } := by
  have differs := (written.differs.widen x.path).trans (Tree.differs_perform renamed)
  obtain ⟨held, leads, holding⟩ := written.held
  obtain ⟨old, new, bytes, leaves, arrives, moved, -, rfl⟩ := Tree.exists_of_rename renamed
  have alike := written.differs.alike
  obtain rfl : held = old := Except.ok.inj (leads.symm.trans (alike.locate.1 leaves))
  obtain rfl : x.bytes = bytes := Holding.file.inj (Option.some.inj (holding.symm.trans moved))
  have apart : held ≠ new := fun same => Tree.locate_temporary_ne (alike.locate.1 arrives) (same ▸ leads)
  constructor
  case differs => exact differs
  case target =>
    refine ⟨new, alike.locate.1 arrives, ?_⟩
    rw [Tree.get?_set, if_pos rfl]
    rfl
  case vacated =>
    refine ⟨held, leads, ?_⟩
    rw [Tree.get?_set, if_neg apart, Tree.get?_erase, if_pos rfl]

theorem Written.removed (written : x.Written) : ∃ place, x.before.locate x.temporary = .ok place ∧
    x.tree.perform (.remove x.temporary) = .ok (x.tree.erase place) := by
  obtain ⟨place, leads, holding⟩ := written.held
  exact ⟨place, leads, Tree.remove_of_file (written.differs.alike.locate.2 leads) holding⟩

theorem cleared_of_remove {u : Tree} (written : x.Written)
    (removed : x.tree.perform (.remove x.temporary) = .ok u)
    (log : List (FileAction × Except FileFault Unit)) (rest : Procedure (Except WriteError Unit)) :
    Cleared { x with tree := u, log, rest } := by
  obtain ⟨place, leads, erased⟩ := written.removed
  obtain rfl := Except.ok.inj (erased.symm.trans removed)
  refine ⟨written.differs.trans (Tree.differs_perform removed), place, leads, ?_⟩
  rw [Tree.get?_erase, if_pos rfl]

theorem Sound.step (sound : x.Sound) (step : Step x y) : y.Sound := by
  cases sound with
  | writing rest log differs =>
    cases step with
    | succeed toDo performed =>
      obtain ⟨rfl, rfl⟩ := Procedure.act.inj (rest.symm.trans toDo)
      exact .written rfl (written_of_write differs performed _ _)
    | fail fault toDo fallible =>
      obtain ⟨rfl, rfl⟩ := Procedure.act.inj (rest.symm.trans toDo)
      exact .unwritten fault rfl (by rw [log]; rfl) differs
    | writeSome count toDo performed =>
      obtain ⟨isWrite, -⟩ := Procedure.act.inj (rest.symm.trans toDo)
      obtain ⟨rfl, rfl⟩ := FileAction.write.inj isWrite
      exact .writing rest log (differs.trans (Tree.differs_perform performed))
  | written rest written =>
    cases step with
    | succeed toDo performed =>
      obtain ⟨rfl, rfl⟩ := Procedure.act.inj (rest.symm.trans toDo)
      exact .placed rfl (placed_of_rename written performed _ _)
    | fail fault toDo fallible =>
      obtain ⟨rfl, rfl⟩ := Procedure.act.inj (rest.symm.trans toDo)
      exact .unplaced fault rfl ⟨written.differs, written.held⟩
    | writeSome count toDo performed => cases (Procedure.act.inj (rest.symm.trans toDo)).1
  | unplaced fault rest written =>
    cases step with
    | succeed toDo performed =>
      obtain ⟨rfl, rfl⟩ := Procedure.act.inj (rest.symm.trans toDo)
      exact .cleared fault rfl (cleared_of_remove written performed _ _)
    | fail other toDo fallible =>
      obtain ⟨rfl, rfl⟩ := Procedure.act.inj (rest.symm.trans toDo)
      obtain ⟨place, -, removed⟩ := written.removed
      exact absurd removed (fallible x.temporary _ rfl)
    | writeSome count toDo performed => cases (Procedure.act.inj (rest.symm.trans toDo)).1
  | unwritten fault rest | placed rest | cleared fault rest =>
    -- Nothing is left to do.
    cases step with
    | succeed toDo | fail _ toDo | writeSome _ toDo => cases rest.symm.trans toDo

theorem Sound.spared (sound : x.Sound) (pending : x.rest ≠ .done (.ok ())) :
    x.before.Differs [x.temporary] x.tree := by
  cases sound with
  | writing _ _ differs => exact differs
  | unwritten _ _ _ differs => exact differs
  | written _ written => exact written.differs
  | placed rest => exact absurd rest pending
  | unplaced _ _ written => exact written.differs
  | cleared _ _ cleared => exact cleared.differs

theorem Sound.placed_of_done (sound : x.Sound) (done : x.rest = .done (.ok ())) : x.Placed := by
  cases sound with
  | placed _ placed => exact placed
  | writing rest | unwritten _ rest | written rest | unplaced _ rest | cleared _ rest =>
    cases rest.symm.trans done

theorem Sound.cleared_of_done (sound : x.Sound) {e : WriteError} (done : x.rest = .done (.error e))
    {fault : FileFault} (misplaced : (.rename x.temporary x.path, .error fault) ∈ x.log) : x.Cleared := by
  cases sound with
  | cleared _ _ cleared => exact cleared
  | unwritten _ _ log =>
    rw [log, List.mem_singleton] at misplaced
    cases misplaced
  | writing rest | written rest | placed rest | unplaced _ rest => cases rest.symm.trans done

theorem Sound.differs (sound : x.Sound) : x.before.Differs [x.temporary, x.path] x.tree := by
  -- Before the renaming has succeeded only the temporary file can have been touched.
  by_cases done : x.rest = .done (.ok ())
  · exact (sound.placed_of_done done).differs
  · exact (sound.spared done).widen x.path

/-- What the path leads to is as it was until the document is in its place. -/
theorem Sound.kept (sound : x.Sound) (pending : x.rest ≠ .done (.ok ())) {place : Location}
    (leads : x.before.locate x.path = .ok place) : x.tree.get? place = x.before.get? place := by
  refine (sound.spared pending).kept place fun other member => ?_
  rw [List.mem_singleton.1 member]
  exact Tree.locate_temporary_ne leads

theorem Sound.old_or_new (sound : x.Sound) {place : Location} (leads : x.before.locate x.path = .ok place) :
    x.tree.get? place = x.before.get? place ∨ x.tree.get? place = some (.file x.bytes) := by
  by_cases done : x.rest = .done (.ok ())
  · obtain ⟨target, reaches, held⟩ := (sound.placed_of_done done).target
    obtain rfl := Except.ok.inj (leads.symm.trans reaches)
    exact .inr held
  · exact .inl (sound.kept done leads)

def UnderWay (x : Passage) : Prop :=
  Relation.ReflTransGen Step (outset x.before x.path x.document) x

theorem UnderWay.sound (underWay : x.UnderWay) : x.Sound := by
  unfold UnderWay at underWay
  have called : (outset x.before x.path x.document).Sound := .writing rfl rfl (.refl _ _)
  generalize outset x.before x.path x.document = first at underWay called
  induction underWay with
  | refl => exact called
  | tail _ step ih => exact ih.step step

theorem exists_reaches_follow (x : Passage) :
    ∃ log, Relation.ReflTransGen Step x
      { x with tree := (x.tree.follow x.rest).2, log, rest := .done (x.tree.follow x.rest).1 } := by
  obtain ⟨path, document, before, tree, log, rest⟩ := x
  induction rest generalizing tree log with
  | done result => exact ⟨log, .refl⟩
  | act action next ih =>
    unfold Tree.follow
    cases performed : tree.perform action with
    | ok u =>
      obtain ⟨more, reaches⟩ := ih (.ok ()) u (log ++ [(action, .ok ())])
      exact ⟨more, .head (.succeed rfl performed) reaches⟩
    | error fault =>
      obtain ⟨more, reaches⟩ := ih (.error fault) tree (log ++ [(action, .error fault)])
      refine ⟨more, .head (.fail fault rfl fun path u _ done => ?_) reaches⟩
      cases performed.symm.trans done

theorem exists_underWay_deliver (t : Tree) (path document : String) :
    ∃ log, UnderWay ⟨path, document, t, (t.deliver path document).2, log, .done (t.deliver path document).1⟩ :=
  exists_reaches_follow (outset t path document)

theorem value_put (w : Workspace) {path : String} (toFile : Path.isStandardOutput path = false)
    (document : String) :
    ((Workspace.access.put path document).run w).value =
      ((w.tree.deliver path document).1, { w with tree := (w.tree.deliver path document).2 }) := by
  have delivered : ((Workspace.access.deliver path document).run w).value =
      ((w.tree.deliver path document).1, { w with tree := (w.tree.deliver path document).2 }) := rfl
  unfold Access.put
  rw [toFile]
  simp only [Bool.false_eq_true, if_false, StateT.run_bind, Observed.value_bind, delivered]
  cases (w.tree.deliver path document).1 <;> rfl

end Passage

open Passage

def leftBy (start : Tree) : List Passage → Tree
  | [] => start
  | x :: _ => x.tree

/-- Deliveries to files one after the other, the latest first. Each sets out from what the one
before it left, be it that it returned or that it was cut off. -/
inductive Succession (start : Tree) : List Passage → Prop where
  | nil : Succession start []
  | cons {x : Passage} {earlier : List Passage} (calls : Succession start earlier)
      (toFile : Path.isStandardOutput x.path = false) (setsOut : x.before = leftBy start earlier)
      (underWay : x.UnderWay) : Succession start (x :: earlier)

namespace Succession

variable {start : Tree} {run : List Passage}

theorem sound (calls : Succession start run) : ∀ x ∈ run, x.Sound := by
  induction calls with
  | nil => exact nofun
  | cons _ _ _ underWay ih => exact List.forall_mem_cons.2 ⟨underWay.sound, ih⟩

theorem alike (calls : Succession start run) : start.Alike (leftBy start run) := by
  induction calls with
  | nil => exact .refl start
  | cons _ _ setsOut underWay ih => exact ih.trans (setsOut ▸ underWay.sound.differs.alike)

/-- Over a whole run a location holds what it held at first or one of the documents, unless
temporary files are written there. -/
theorem old_or_document (calls : Succession start run) {place : Location}
    (apart : ∀ x ∈ run, start.locate x.temporary ≠ .ok place) :
    (leftBy start run).get? place = start.get? place ∨
      ∃ x ∈ run, start.locate x.path = .ok place ∧ (leftBy start run).get? place = some (.file x.bytes) := by
  induction calls with
  | nil => exact .inl rfl
  | @cons x earlier calls toFile setsOut underWay ih =>
    -- No delivery moves a directory, so a path leads to the same location in all the trees.
    rw [List.forall_mem_cons] at apart
    have sound := underWay.sound
    have same : ∀ path, x.before.locate path = .ok place ↔ start.locate path = .ok place := fun path =>
      setsOut ▸ calls.alike.locate
    have unchanged : x.tree.get? place = x.before.get? place →
        x.tree.get? place = start.get? place ∨ ∃ y ∈ x :: earlier,
          start.locate y.path = .ok place ∧ x.tree.get? place = some (.file y.bytes) := by
      intro kept
      rw [kept, setsOut]
      exact (ih apart.2).imp_right fun ⟨y, member, held⟩ => ⟨y, List.mem_cons_of_mem _ member, held⟩
    by_cases leads : x.before.locate x.path = .ok place
    · rcases sound.old_or_new leads with kept | new
      · exact unchanged kept
      · exact .inr ⟨x, List.mem_cons_self, (same _).1 leads, new⟩
    · refine unchanged (sound.differs.kept place ?_)
      exact List.forall_mem_cons.2 ⟨fun temporary => apart.1 ((same _).1 temporary),
        List.forall_mem_singleton.2 leads⟩

/-- At every point of every delivery the file at its path is the old one or the complete new one,
and only the temporary file may change beside it. Once the call has returned it is the new one
without a temporary file, or the old one; after a failed renaming there is no temporary file
either. Putting a document anywhere but on standard output is such a delivery. -/
theorem atomic (start : Tree) (run : List Passage) (calls : Succession start run) :
    (∀ x ∈ run,
      (∀ place, x.before.locate x.path = .ok place →
        x.tree.get? place = x.before.get? place ∨ x.tree.get? place = some (.file x.bytes)) ∧
      (∀ place, x.before.locate x.path ≠ .ok place → x.before.locate x.temporary ≠ .ok place →
        x.tree.get? place = x.before.get? place) ∧
      (x.rest = .done (.ok ()) →
        (∃ place, x.before.locate x.path = .ok place ∧ x.tree.get? place = some (.file x.bytes)) ∧
        ∃ place, x.before.locate x.temporary = .ok place ∧ x.tree.get? place = none) ∧
      (∀ e, x.rest = .done (.error e) →
        (∀ place, x.before.locate x.path = .ok place → x.tree.get? place = x.before.get? place) ∧
        ∀ fault, (.rename x.temporary x.path, .error fault) ∈ x.log →
          ∃ place, x.before.locate x.temporary = .ok place ∧ x.tree.get? place = none)) ∧
    (∀ place, (∀ x ∈ run, start.locate x.temporary ≠ .ok place) →
      (leftBy start run).get? place = start.get? place ∨
        ∃ x ∈ run, start.locate x.path = .ok place ∧ (leftBy start run).get? place = some (.file x.bytes)) ∧
    (∀ (w : Workspace) (path document : String), Path.isStandardOutput path = false →
      ∃ result tree log, UnderWay ⟨path, document, w.tree, tree, log, .done result⟩ ∧
        ((Workspace.access.put path document).run w).value = (result, { w with tree })) := by
  refine ⟨fun x member => ?_, fun place apart => calls.old_or_document apart, fun w path document toFile => ?_⟩
  · have sound := calls.sound x member
    refine ⟨fun place => sound.old_or_new, fun place other apart => ?_, fun returned => ?_,
      fun e failed => ⟨fun place leads => ?_, fun fault misplaced => ?_⟩⟩
    · exact sound.differs.kept place (List.forall_mem_cons.2 ⟨apart, List.forall_mem_singleton.2 other⟩)
    · have placed := sound.placed_of_done returned
      exact ⟨placed.target, placed.vacated⟩
    · refine sound.kept (fun placed => ?_) leads
      cases failed.symm.trans placed
    · exact (sound.cleared_of_done failed misplaced).vacated
  · obtain ⟨log, underWay⟩ := exists_underWay_deliver w.tree path document
    exact ⟨_, _, log, underWay, value_put w toFile document⟩

end Succession

def placedFirst : Passage where
  path := "envoy.yaml"
  document := "first"
  before := Workspace.fresh.tree
  tree := Workspace.fresh.tree.set ["tmp", "workspace", "envoy.yaml"] (.file "first".toUTF8)
  log := [(.write (Path.temporary "envoy.yaml") "first".toUTF8, .ok ()),
    (.rename (Path.temporary "envoy.yaml") "envoy.yaml", .ok ())]
  rest := .done (.ok ())

/-- A document that is to replace the first one and is cut off after three bytes. -/
def cutOff : Passage where
  path := "./envoy.yaml"
  document := "second"
  before := placedFirst.tree
  tree := placedFirst.tree.set ["tmp", "workspace", "envoy.yaml.tmp"] (.file ("second".toUTF8.extract 0 3))
  log := []
  rest := .delivery "./envoy.yaml" "second"

/-- A document for the working directory, which cannot be renamed to. -/
def misplaced : Passage where
  path := "."
  document := "third"
  before := cutOff.tree
  tree := (cutOff.tree.set ["tmp", "workspace", ".tmp"] (.file "third".toUTF8)).erase ["tmp", "workspace", ".tmp"]
  log := [(.write (Path.temporary ".") "third".toUTF8, .ok ()), (.rename (Path.temporary ".") ".", .error .busy),
    (.remove (Path.temporary "."), .ok ())]
  rest := .done (.error ⟨".", .busy⟩)

theorem underWay_placedFirst : placedFirst.UnderWay := by
  let written : Passage := { placedFirst with
    tree := Workspace.fresh.tree.set ["tmp", "workspace", "envoy.yaml.tmp"] (.file "first".toUTF8)
    log := [(.write (Path.temporary "envoy.yaml") "first".toUTF8, .ok ())]
    rest := .placing "envoy.yaml" }
  have wrote : Workspace.fresh.tree.perform (.write (Path.temporary "envoy.yaml") "first".toUTF8) =
    .ok written.tree := rfl
  have renamed : written.tree.perform (.rename (Path.temporary "envoy.yaml") "envoy.yaml") =
    .ok placedFirst.tree := rfl
  have begun := @Step.succeed (outset Workspace.fresh.tree "envoy.yaml" "first") _ _ _ rfl wrote
  have ended := @Step.succeed written _ _ _ rfl renamed
  exact .head begun (.single ended)

theorem underWay_cutOff : cutOff.UnderWay := by
  have wrote : placedFirst.tree.perform (.write (Path.temporary "./envoy.yaml") ("second".toUTF8.extract 0 3)) =
    .ok cutOff.tree := rfl
  exact .single (.writeSome 3 rfl wrote)

theorem underWay_misplaced : misplaced.UnderWay := by
  let written : Passage := { misplaced with
    tree := cutOff.tree.set ["tmp", "workspace", ".tmp"] (.file "third".toUTF8)
    log := [(.write (Path.temporary ".") "third".toUTF8, .ok ())]
    rest := .placing "." }
  let unplaced : Passage := { written with
    log := written.log ++ [(.rename (Path.temporary ".") ".", .error .busy)]
    rest := .clearing "." .busy }
  have wrote : cutOff.tree.perform (.write (Path.temporary ".") "third".toUTF8) = .ok written.tree := rfl
  have removed : unplaced.tree.perform (.remove (Path.temporary ".")) = .ok misplaced.tree := rfl
  have begun := @Step.succeed (outset cutOff.tree "." "third") _ _ _ rfl wrote
  have failed := @Step.fail written _ _ .busy rfl nofun
  have ended := @Step.succeed unplaced _ _ _ rfl removed
  exact .head begun (.head failed (.single ended))

def target : Location := ["tmp", "workspace", "envoy.yaml"]

theorem Succession.atomic_cutOff :
    Succession Workspace.fresh.tree [misplaced, cutOff, placedFirst] ∧
    placedFirst.tree.get? target = some (.file "first".toUTF8) ∧
    (cutOff.tree.get? target = some (.file "first".toUTF8) ∨
      cutOff.tree.get? target = some (.file "second".toUTF8)) ∧
    misplaced.tree.get? target = cutOff.tree.get? target ∧
    misplaced.tree.get? ["tmp", "workspace", ".tmp"] = none := by
  have calls : Succession Workspace.fresh.tree [misplaced, cutOff, placedFirst] :=
    .cons (.cons (.cons .nil (by decide) rfl underWay_placedFirst) (by decide) rfl underWay_cutOff)
      (by decide) rfl underWay_misplaced
  obtain ⟨points, -, -⟩ := Succession.atomic Workspace.fresh.tree _ calls
  obtain ⟨-, -, returned, -⟩ := points placedFirst (by simp)
  obtain ⟨oldOrNew, -, -, -⟩ := points cutOff (by simp)
  obtain ⟨-, apart, -, failed⟩ := points misplaced (by simp)
  obtain ⟨⟨place, leads, held⟩, -⟩ := returned rfl
  obtain ⟨beside, leadsBeside, vacated⟩ := (failed _ rfl).2 .busy (by simp [misplaced, Passage.temporary])
  obtain rfl : target = place := Except.ok.inj leads
  obtain rfl : ["tmp", "workspace", ".tmp"] = beside := Except.ok.inj leadsBeside
  have old : cutOff.before.get? target = some (.file "first".toUTF8) := held
  have oldOrSecond := oldOrNew target rfl
  rw [old] at oldOrSecond
  exact ⟨calls, held, oldOrSecond, apart target (by decide) (by decide), vacated⟩

end ServiceProxy
