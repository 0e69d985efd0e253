import ServiceProxy.Watch.Loop

/-! Edits of files around a watch loop, in a workspace, and the events that follow from them. -/

set_option autoImplicit false

namespace ServiceProxy.Watch

/-- A save prepares the new content where nothing else lives and puts it in place by a renaming;
a write changes the file itself. -/
inductive Edit where
  | save (content : String)
  | write (content : String)
  | sibling (name content : String)
  | remove
  | touchMode
  deriving DecidableEq, Repr

namespace Edit

def action? (input : String) : Edit → Option FileAction
  | .save content => some (.write input content.toUTF8)
  | .write content => some (.write input content.toUTF8)
  | .sibling name content => some (.write (Path.withFileName input name) content.toUTF8)
  | .remove => some (.remove input)
  | .touchMode => none

def event (input : String) : Edit → FileEvent
  | .save _ => ⟨.name, [input]⟩
  | .write _ => ⟨.content, [input]⟩
  | .sibling name _ => ⟨.create, [Path.withFileName input name]⟩
  | .remove => ⟨.remove, [input]⟩
  | .touchMode => ⟨.metadata, [input]⟩

def carryOut (input : String) (edit : Edit) : Desk Unit :=
  modify fun w => { w with tree := (edit.action? input).elim w.tree w.tree.attempt }

end Edit

namespace State

/-- An edit, its event, and the run left to itself until it has settled. The watcher handles the
event beside the run, and what it observes is no part of what the run observes. -/
def follow (s : State) (edit : Edit) : Desk State := do
  edit.carryOut s.plan.input
  settle Workspace.access (← s.meet Workspace.access.quiet (.event (edit.event s.plan.input)))

def outputText (s : State) : Desk (Option String) := do
  return (textOf (← Workspace.access.read s.plan.output)).toOption

end State

end ServiceProxy.Watch
