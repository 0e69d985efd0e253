import Mathlib.Control.Monad.Basic
import ServiceProxy.Observation

/-! What a fallible observed computation ends with, whatever was observed on the way. -/

set_option autoImplicit false

namespace ServiceProxy

variable {ε ε' α β : Type}

/-- The computation ends without a fault and with this value. -/
def Yields (x : ExceptT ε Observed α) (a : α) : Prop := x.run.value = .ok a

@[simp] theorem yields_pure {a b : α} : Yields (pure a : ExceptT ε Observed α) b ↔ a = b := by
  simp only [Yields, ExceptT.run_pure, Observed.value_pure, Except.ok.injEq]

@[simp] theorem not_yields_throw {e : ε} {a : α} : ¬Yields (throw e : ExceptT ε Observed α) a := by
  intro h
  cases h

theorem value_run_bind (x : ExceptT ε Observed α) (f : α → ExceptT ε Observed β) :
    (x >>= f).run.value = match x.run.value with
      | .ok a => (f a).run.value
      | .error e => .error e := by
  rw [ExceptT.run_bind, Observed.value_bind]
  cases x.run.value <;> rfl

theorem value_run_lift (x : Observed α) : (liftM x : ExceptT ε Observed α).run.value = .ok x.value := rfl

theorem yields_bind {x : ExceptT ε Observed α} {f : α → ExceptT ε Observed β} {b : β} :
    Yields (x >>= f) b ↔ ∃ a, Yields x a ∧ Yields (f a) b := by
  unfold Yields
  rw [value_run_bind]
  cases x.run.value with
  | error e => simp
  | ok a => simp

theorem yields_adapt {x : ExceptT ε Observed α} {f : ε → ε'} {a : α} :
    Yields (x.adapt f) a ↔ Yields x a := by
  have adapted : (x.adapt f).run.value = x.run.value.mapError f := rfl
  unfold Yields
  rw [adapted]
  cases x.run.value with
  | error e => exact iff_of_false nofun nofun
  | ok b =>
    constructor
    · exact fun same => congrArg Except.ok (Except.ok.inj same)
    · exact fun same => congrArg Except.ok (Except.ok.inj same)

theorem value_foldlM (step : β → α → Observed β) (xs : List α) (start : β) :
    (xs.foldlM step start).value = xs.foldl (fun b a => (step b a).value) start := by
  induction xs generalizing start with
  | nil => rfl
  | cons x rest ih => rw [List.foldlM_cons, Observed.value_bind, ih, List.foldl_cons]

end ServiceProxy
