import ServiceProxy.Files.Access

/-! Programs as dialogues. A program asks its surroundings for one thing after the other, and any
answer may come. In a workspace the answers are those of its tree. -/

set_option autoImplicit false

namespace ServiceProxy

inductive Request where
  | read (path : String)
  | watch (path : String)
  | act (action : FileAction)
  | print (text : String)

def Request.Answer : Request → Type
  | .read _ => Except FileFault ByteArray
  | .watch _ => Except FileFault Unit
  | .act _ => Except FileFault Unit
  | .print _ => Except FileFault Unit

inductive Dialogue (α : Type) where
  | done (result : α)
  | ask (request : Request) (next : request.Answer → Dialogue α)

namespace Dialogue

variable {α β : Type}

def bind : Dialogue α → (α → Dialogue β) → Dialogue β
  | .done result, f => f result
  | .ask request next, f => .ask request fun answer => (next answer).bind f

instance : Monad Dialogue where
  pure := .done
  bind := .bind

theorem done_bind (a : α) (f : α → Dialogue β) : Dialogue.done a >>= f = f a := rfl

theorem ask_bind (request : Request) (next : request.Answer → Dialogue α) (f : α → Dialogue β) :
    Dialogue.ask request next >>= f = .ask request fun answer => next answer >>= f := rfl

instance : LawfulMonad Dialogue := LawfulMonad.mk' Dialogue
  (fun x => by
    induction x with
    | done a => rfl
    | ask request next ih => exact congrArg (Dialogue.ask request) (funext ih))
  (fun _ _ => rfl)
  (fun x f g => by
    induction x with
    | done a => rfl
    | ask request next ih => exact congrArg (Dialogue.ask request) (funext ih))

def ofProcedure : Procedure α → Dialogue α
  | .done result => .done result
  | .act action next => .ask (.act action) fun answer => ofProcedure (next answer)

/-- A program asks for whatever it needs. Nothing is observed. -/
def access : Access Dialogue where
  read path := .ask (.read path) .done
  canWatch path := .ask (.watch path) .done
  deliver path document := ofProcedure (.delivery path document)
  print text := .ask (.print text) .done
  setLevel _ := return ()
  observe run := return run.value

theorem read_bind (path : String) (f : Except FileFault ByteArray → Dialogue α) :
    access.read path >>= f = .ask (.read path) f := rfl

theorem observe_bind (run : Observed β) (f : β → Dialogue α) : access.observe run >>= f = f run.value := rfl

/-- However it is answered, the dialogue ends with such a result. -/
inductive Ends (P : α → Prop) : Dialogue α → Prop
  | done {result : α} (fits : P result) : Ends P (.done result)
  | ask {request : Request} {next : request.Answer → Dialogue α} (ends : ∀ answer, Ends P (next answer)) :
    Ends P (.ask request next)

def carryOut (w : Workspace) : Dialogue α → α × Workspace
  | .done result => (result, w)
  | .ask (.read path) next => (next (w.tree.read path)).carryOut w
  | .ask (.watch path) next => (next (w.tree.hasEntry path)).carryOut w
  | .ask (.act action) next =>
    match w.tree.perform action with
    | .ok tree => (next (.ok ())).carryOut { w with tree }
    | .error fault => (next (.error fault)).carryOut w
  | .ask (.print text) next => (next (.ok ())).carryOut { w with printed := w.printed ++ text }

theorem carryOut_bind (w : Workspace) (x : Dialogue α) (f : α → Dialogue β) :
    carryOut w (x >>= f) = carryOut (carryOut w x).2 (f (carryOut w x).1) := by
  induction x generalizing w with
  | done a => rfl
  | ask request next ih =>
    rw [ask_bind]
    cases request with
    | read path => exact ih _ _
    | watch path => exact ih _ _
    | act action =>
      simp only [carryOut]
      cases w.tree.perform action with
      | ok tree => exact ih _ _
      | error fault => exact ih _ _
    | print text => exact ih _ _

theorem carryOut_ofProcedure (w : Workspace) (p : Procedure α) :
    carryOut w (ofProcedure p) = ((w.tree.follow p).1, { w with tree := (w.tree.follow p).2 }) := by
  induction p generalizing w with
  | done result => rfl
  | act action next ih =>
    simp only [ofProcedure, carryOut, Tree.follow]
    cases w.tree.perform action with
    | ok tree => exact ih _ _
    | error fault => exact ih _ _

end Dialogue

end ServiceProxy
