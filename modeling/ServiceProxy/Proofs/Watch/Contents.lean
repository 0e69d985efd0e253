import ServiceProxy.Proofs.Files.Frames
import ServiceProxy.Proofs.Watch.Steps
import ServiceProxy.Watch.Edit

/-! What the description file holds while a watch loop runs. Unless documents are delivered over
it, a step of the loop leaves the description in it as it is, and a save replaces it. -/

set_option autoImplicit false

namespace ServiceProxy

def Path.written (output : String) : List String :=
  if isStandardOutput output then [] else [temporary output, output]

namespace Workspace

theorem outcome_deliver (w : Workspace) (path document : String) :
    w.outcome (access.deliver path document) =
      ((w.tree.deliver path document).1, { w with tree := (w.tree.deliver path document).2 }) := by
  unfold outcome
  rfl

theorem differs_put (w : Workspace) (output document : String) :
    Tree.Differs (Path.written output) w.tree (w.outcome (access.put output document)).2.tree := by
  unfold Access.put Path.written
  cases Path.isStandardOutput output with
  | true => exact .refl _ w.tree
  | false =>
    have delivered := w.tree.differs_deliver output document
    simp only [Bool.false_eq_true, if_false, outcome_bind, outcome_deliver]
    cases (w.tree.deliver output document).1 <;> exact delivered

theorem differs_deliver (w : Workspace) (d : Description) (strict : Bool) (output : String) :
    Tree.Differs (Path.written output) w.tree (w.outcome (d.deliver access strict output)).2.tree := by
  unfold Description.deliver
  simp only [outcome_bind, outcome_observe]
  cases (d.compile strict).run.value with
  | error e => exact .refl _ w.tree
  | ok document =>
    have put := w.differs_put output document
    simp only [outcome_bind]
    cases (w.outcome (access.put output document)).1 <;> exact put

theorem exists_read_of_current? {w : Workspace} {path : String} {d : Description}
    (current : w.current? path = some d) : ∃ bytes, w.tree.read path = .ok bytes := by
  unfold current? at current
  cases contents : w.tree.read path with
  | ok bytes => exact ⟨bytes, rfl⟩
  | error fault =>
    rw [contents] at current
    cases current

end Workspace

namespace Watch

/-- Documents are delivered to the place that the description is read from. -/
def Plan.Overwrites (plan : Plan) (t : Tree) : Prop :=
  ∃ place, t.locate plan.input = .ok place ∧
    ∃ path ∈ Path.written plan.output, t.locate path = .ok place

theorem Plan.overwrites_iff (plan : Plan) {t u : Tree} (alike : t.Alike u) :
    plan.Overwrites u ↔ plan.Overwrites t := by
  simp only [Overwrites, alike.locate]

/-- A description is in the file that the plan names, out of the way of all deliveries. -/
structure Plan.Finds (plan : Plan) (d : Description) (w : Workspace) : Prop where
  apart : ¬plan.Overwrites w.tree
  current : w.current? plan.input = some d

theorem Plan.Finds.differs {plan : Plan} {d : Description} {w v : Workspace} (finds : plan.Finds d w)
    (differs : w.tree.Differs (Path.written plan.output) v.tree) : plan.Finds d v := by
  refine ⟨fun overwrites => finds.apart ((plan.overwrites_iff differs.alike).1 overwrites), ?_⟩
  obtain ⟨bytes, readable⟩ := Workspace.exists_read_of_current? finds.current
  obtain ⟨place, leads, -, -⟩ := Tree.read_eq_ok.1 readable
  have same : v.tree.read plan.input = w.tree.read plan.input :=
    differs.read leads fun path member there => finds.apart ⟨place, leads, path, member, there⟩
  rw [Workspace.current?, same]
  exact finds.current

def saved (w : Workspace) (input content : String) : Workspace :=
  (w.outcome ((Edit.save content).carryOut input)).2

theorem tree_saved (w : Workspace) (input content : String) :
    (saved w input content).tree = w.tree.attempt (.write input content.toUTF8) := rfl

theorem Plan.overwrites_saved (plan : Plan) (w : Workspace) (input content : String) :
    plan.Overwrites (saved w input content).tree ↔ plan.Overwrites w.tree :=
  plan.overwrites_iff (w.tree.differs_attempt _).alike

theorem Plan.Finds.saved {plan : Plan} {old new : Description} {w : Workspace} {content : String}
    (finds : plan.Finds old w)
    (loads : (Description.load plan.input (.ok content.toUTF8)).run.value = .ok new) :
    plan.Finds new (saved w plan.input content) := by
  refine ⟨fun overwrites => finds.apart ((plan.overwrites_saved w _ content).1 overwrites), ?_⟩
  obtain ⟨bytes, readable⟩ := Workspace.exists_read_of_current? finds.current
  obtain ⟨u, wrote⟩ := Tree.write_of_read readable content.toUTF8
  have performed : w.tree.perform (.write plan.input content.toUTF8) = .ok u := wrote
  rw [Workspace.current?, tree_saved, Tree.attempt, performed]
  change (Description.load plan.input (u.read plan.input)).run.value.toOption = some new
  rw [Tree.read_of_write wrote, loads]
  rfl

namespace Scene.Leads

variable {x y : Scene} {action : Action}

theorem differs (step : x.Leads action y) :
    x.workspace.tree.Differs (Path.written x.state.plan.output) y.workspace.tree := by
  cases step with
  | deliver | deliverFailed | redeliver => exact x.workspace.differs_deliver _ _ _
  | _ => exact .refl _ _

end Scene.Leads

end Watch

end ServiceProxy
