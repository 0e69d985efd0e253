import ServiceProxy.Files.Tree

/-! Atomic delivery of documents. The document is written under a temporary name beside its
path and then put in place by one renaming; if that fails the temporary file is removed. -/

set_option autoImplicit false

namespace ServiceProxy

inductive FileAction where
  | write (path : String) (bytes : ByteArray)
  | rename (source target : String)
  | remove (path : String)

/-- Actions one after the other; what an action comes to decides how to go on. -/
inductive Procedure (α : Type) where
  | done (result : α)
  | act (action : FileAction) (next : Except FileFault Unit → Procedure α)

namespace Procedure

/-- Whether or not the temporary file can be removed, the fault that made it useless is reported. -/
def clearing (path : String) (fault : FileFault) : Procedure (Except WriteError Unit) :=
  .act (.remove (Path.temporary path)) fun _ => .done (.error ⟨path, fault⟩)

def placing (path : String) : Procedure (Except WriteError Unit) :=
  .act (.rename (Path.temporary path) path) fun
    | .ok () => .done (.ok ())
    | .error fault => clearing path fault

def delivery (path document : String) : Procedure (Except WriteError Unit) :=
  .act (.write (Path.temporary path) document.toUTF8) fun
    | .ok () => placing path
    | .error fault => .done (.error ⟨path, fault⟩)

end Procedure

namespace Tree

def perform (t : Tree) : FileAction → Except FileFault Tree
  | .write path bytes => t.write path bytes
  | .rename source target => t.rename source target
  | .remove path => t.remove path

/-- An action that fails leaves the tree as it is. -/
def attempt (t : Tree) (action : FileAction) : Tree := (t.perform action).toOption.getD t

def follow {α : Type} (t : Tree) : Procedure α → α × Tree
  | .done result => (result, t)
  | .act action next =>
    match t.perform action with
    | .ok u => u.follow (next (.ok ()))
    | .error fault => t.follow (next (.error fault))

def deliver (t : Tree) (path document : String) : Except WriteError Unit × Tree :=
  t.follow (.delivery path document)

theorem deliver_eq (t : Tree) (path document : String) :
    t.deliver path document =
      match t.perform (.write (Path.temporary path) document.toUTF8) with
      | .error fault => (.error ⟨path, fault⟩, t)
      | .ok written =>
        match written.perform (.rename (Path.temporary path) path) with
        | .ok placed => (.ok (), placed)
        | .error fault => (.error ⟨path, fault⟩, written.attempt (.remove (Path.temporary path))) := by
  unfold deliver Procedure.delivery
  rw [follow]
  cases t.perform (.write (Path.temporary path) document.toUTF8) with
  | error fault => rfl
  | ok written =>
    simp only [Procedure.placing, follow]
    cases written.perform (.rename (Path.temporary path) path) with
    | ok placed => rfl
    | error fault =>
      simp only [Procedure.clearing, follow, attempt]
      cases written.perform (.remove (Path.temporary path)) <;> rfl

end Tree

end ServiceProxy
