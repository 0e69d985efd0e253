import Mathlib.Data.List.Induction
import ServiceProxy.Delivery
import ServiceProxy.Metrics
import ServiceProxy.Proofs.Compiling

/-! The balance of the metrics. What a compilation records is settled by how it ends, and a
delivery either has its document taken by an archive or records one thing more. Main statement:
over any calls the counters add up, also with the archive, and the gauges show the model that was
built last. -/

set_option autoImplicit false

namespace ServiceProxy

open Routing

namespace Observed

variable {α β : Type}

@[simp] theorem samples_pure (a : α) : (pure a : Observed α).samples = [] := rfl

@[simp] theorem samples_bind (x : Observed α) (f : α → Observed β) :
    (x >>= f).samples = x.samples ++ (f x.value).samples := by
  simp only [samples, seen_bind, List.filterMap_append]

theorem samples_run_bind {ε : Type} (x : ExceptT ε Observed α) (f : α → ExceptT ε Observed β) :
    (x >>= f).run.samples = x.run.samples ++
      match x.run.value with
      | .ok a => (f a).run.samples
      | .error _ => [] := by
  rw [ExceptT.run_bind, samples_bind]
  cases x.run.value <;> rfl

theorem samples_run_lift {ε : Type} (x : Observed α) :
    (liftM x : ExceptT ε Observed α).run.samples = x.samples := by
  have lifted : (liftM x : ExceptT ε Observed α).run = x >>= fun a => pure (.ok a) := rfl
  rw [lifted, samples_bind, samples_pure, List.append_nil]

theorem samples_foldlM {step : β → α → Observed β} (silent : ∀ b a, (step b a).samples = [])
    (xs : List α) (start : β) : (xs.foldlM step start).samples = [] := by
  induction xs generalizing start with
  | nil => rfl
  | cons x rest ih => rw [List.foldlM_cons, samples_bind, silent, ih, List.append_nil]

end Observed

/-! ## What a compilation records -/

namespace Routing

theorem samples_backends (family : Family) (port : ServicePort) (nodes : List Host) :
    (backends family port nodes).samples = [] := by
  induction nodes with
  | nil => rfl
  | cons node rest ih =>
    have first : (backend? family port node).samples = [] := by
      unfold backend?
      cases node.address? family <;> rfl
    unfold backends
    simp only [Observed.samples_bind, first, ih, Observed.samples_pure, List.append_nil]

namespace Model

theorem samples_addBinding (nodes : List Host) (m : Model) (family : Family) (port : ServicePort) :
    (m.addBinding nodes family port).samples = [] := by
  unfold addBinding
  split
  · rw [Observed.samples_bind, samples_backends]
    split <;> rfl
  · rfl

theorem samples_ofDescription (d : Description) : (ofDescription d).samples = [] := by
  unfold ofDescription
  split
  · rfl
  · exact Observed.samples_foldlM (fun m b => m.samples_addBinding d.nodes b.1 b.2.2) _ _

theorem samples_render (m : Model) : m.render.run.samples = [] := by
  unfold render
  cases m.offender? <;> rfl

end Model

end Routing

def Verdict.ofResult : Except CompileError String → Verdict
  | .ok _ => .ok
  | .error (.invalidService _) => .invalid
  | .error (.unrepresentable _) => .renderError

/-- What is recorded for a compilation that ends in some way, given the model that is built
unless the compilation is refused before. -/
def Verdict.samples (built : Model) : Verdict → List Sample
  | .ok => [.model built.size built.endpointCount, .compilation .ok]
  | .invalid => [.compilation .invalid]
  | .renderError =>
    [.model built.size built.endpointCount, .renderFailure, .compilation .renderError]

namespace Description

def verdict (strict : Bool) (d : Description) : Verdict := .ofResult (d.compile strict).run.value

theorem samples_reportProblems (problems : List Problem) : (reportProblems problems).samples = [] := by
  induction problems with
  | nil => rfl
  | cons problem rest ih => rw [reportProblems, Observed.samples_bind, ih]; rfl

theorem samples_compileModel (d : Description) :
    d.compileModel.run.samples =
      (Verdict.ofResult d.compileModel.run.value).samples (Model.ofDescription d).value := by
  have built := Model.samples_ofDescription d
  have rendered := (Model.ofDescription d).value.samples_render
  rw [value_compileModel]
  unfold compileModel
  simp only [Observed.samples_run_bind, Observed.samples_run_lift, value_run_lift, built, rendered]
  cases (Model.ofDescription d).value.render.run.value <;> rfl

theorem samples_compile (strict : Bool) (d : Description) :
    (d.compile strict).run.samples = (d.verdict strict).samples (Model.ofDescription d).value := by
  unfold verdict
  rw [value_compile]
  unfold compile
  cases refused : strict && !d.problems.isEmpty with
  | true =>
    simp only [refused, if_true]
    rfl
  | false =>
    simp only [refused, Bool.false_eq_true, if_false]
    rw [← samples_compileModel, Observed.samples_run_bind, Observed.samples_run_lift,
      samples_reportProblems]
    rfl

end Description

/-! ## Deliveries to an archive -/

/-- Programs that write into an archive, which keeps every document that it takes. -/
abbrev Archiving := StateT (List String) Observed

namespace Archive

def take (document : String) : Except FileFault Unit → Archiving (Except FileFault Unit)
  | .ok () => do
    modify (· ++ [document])
    return .ok ()
  | .error fault => return .error fault

/-- All that is observed is seen, and every attempt to write comes to the same. -/
def access (writing : Except FileFault Unit) : Access Archiving where
  read _ := return .error .missing
  canWatch _ := return .error .missing
  deliver path document := return (← take document writing).mapError (⟨path, ·⟩)
  print document := take document writing
  setLevel _ := return ()
  observe run := StateT.lift run

def kept (document : String) : Except FileFault Unit → List String
  | .ok () => [document]
  | .error _ => []

def ofResult (writing : Except FileFault Unit) : Except CompileError String → List String
  | .ok document => kept document writing
  | .error _ => []

theorem run_observe {α : Type} (writing : Except FileFault Unit) (run : Observed α) (held : List String) :
    ((access writing).observe run).run held = run >>= fun a => pure (a, held) := rfl

theorem run_take (document : String) (writing : Except FileFault Unit) (held : List String) :
    (take document writing).run held = pure (writing, held ++ kept document writing) := by
  cases writing with
  | ok _ => rfl
  | error fault => exact congrArg (fun held => pure (Except.error fault, held)) (List.append_nil held).symm

theorem put_access (writing : Except FileFault Unit) (path document : String) (held : List String) :
    (((access writing).put path document).run held).samples = [] ∧
      (((access writing).put path document).run held).value =
        (writing.mapError (⟨path, ·⟩), held ++ kept document writing) := by
  have taken := run_take document writing held
  unfold Access.put
  split
  · simp only [access, StateT.run_bind, taken, pure_bind]
    exact ⟨rfl, rfl⟩
  · simp only [access, StateT.run_bind, taken, pure_bind]
    cases writing <;> exact ⟨rfl, rfl⟩

theorem ofResult_or_fails (writing : Except FileFault Unit) (result : Except CompileError String) :
    (if Verdict.ofResult result = .ok then 1 else 0) = (ofResult writing result).length +
      if Verdict.ofResult result = .ok && !writing.isOk then 1 else 0 := by
  cases result with
  | error e => cases e <;> rfl
  | ok document => cases writing <;> rfl

end Archive

namespace Description

theorem deliver_archive (d : Description) (strict : Bool) (output : String)
    (writing : Except FileFault Unit) (held : List String) :
    ((d.deliver (Archive.access writing) strict output).run held).samples = (d.compile strict).run.samples ++
        (if d.verdict strict = .ok && !writing.isOk then [.writeFailure] else []) ∧
      ((d.deliver (Archive.access writing) strict output).run held).value.2 =
        held ++ Archive.ofResult writing (d.compile strict).run.value := by
  unfold deliver verdict
  simp only [StateT.run_bind, Archive.run_observe, bind_assoc, pure_bind, Observed.samples_bind, Observed.value_bind]
  cases (d.compile strict).run.value with
  | error e => cases e <;> exact ⟨rfl, (List.append_nil held).symm⟩
  | ok document =>
    obtain ⟨silent, put⟩ := Archive.put_access writing output document held
    simp only [StateT.run_bind, Observed.samples_bind, Observed.value_bind, silent, put]
    cases writing <;> exact ⟨rfl, rfl⟩

end Description

/-! ## Calls -/

/-- A call that compiles a description, and delivers the document or not. A delivery comes with
what the surroundings make of the writing. -/
inductive Call where
  | compile (strict : Bool) (d : Description)
  | deliver (strict : Bool) (d : Description) (output : String) (writing : Except FileFault Unit)

namespace Call

def isDelivery : Call → Bool
  | .compile .. => false
  | .deliver .. => true

def verdict : Call → Verdict
  | .compile strict d => d.verdict strict
  | .deliver strict d _ _ => d.verdict strict

def built : Call → Model
  | .compile _ d => (Model.ofDescription d).value
  | .deliver _ d _ _ => (Model.ofDescription d).value

def run : Call → Archiving Unit
  | .compile strict d => do
    let _ ← (Archive.access (.ok ())).observe (d.compile strict).run
  | .deliver strict d output writing => do
    let _ ← d.deliver (Archive.access writing) strict output

def documents : Call → List String
  | .compile .. => []
  | .deliver strict d _ writing => Archive.ofResult writing (d.compile strict).run.value

def fails : Call → Bool
  | .compile .. => false
  | .deliver strict d _ writing => d.verdict strict = .ok && !writing.isOk

def samples (c : Call) : List Sample :=
  c.verdict.samples c.built ++ if c.fails then [.writeFailure] else []

theorem run_run (c : Call) (held : List String) :
    (c.run.run held).samples = c.samples ∧ (c.run.run held).value.2 = held ++ c.documents := by
  cases c with
  | compile strict d =>
    simp only [run, StateT.run_bind, Archive.run_observe, Observed.samples_bind, d.samples_compile,
      StateT.run_pure, Observed.samples_pure, List.append_nil]
    exact ⟨(List.append_nil _).symm, (List.append_nil held).symm⟩
  | deliver strict d output writing =>
    obtain ⟨recorded, archived⟩ := d.deliver_archive strict output writing held
    simp only [run, StateT.run_bind, Observed.samples_bind, recorded, d.samples_compile]
    exact ⟨List.append_nil _, archived⟩

theorem forM_concat (calls : List Call) (c : Call) (held : List String) :
    (forM (calls ++ [c]) run).run held = (forM calls run).run held >>= fun left => c.run.run left.2 := by
  have last : (forM [c] run : Archiving PUnit) = c.run := by
    rw [List.forM_cons, List.forM_nil, bind_pure_unit]
  rw [List.forM_append, last, StateT.run_bind]

theorem archived_or_fails (c : Call) :
    (if c.isDelivery && c.verdict = .ok then 1 else 0) =
      c.documents.length + if c.fails then 1 else 0 := by
  cases c with
  | compile strict d => rfl
  | deliver strict d output writing =>
    simp only [isDelivery, Bool.true_and, decide_eq_true_eq]
    exact Archive.ofResult_or_fails writing (d.compile strict).run.value

end Call

def Archive.after (calls : List Call) : List String := ((forM calls Call.run).run []).value.2

theorem Archive.after_concat (calls : List Call) (c : Call) :
    after (calls ++ [c]) = after calls ++ c.documents := by
  have last := (c.run_run (after calls)).2
  unfold after at last ⊢
  rw [Call.forM_concat, Observed.value_bind, last]

/-! ## Ledgers -/

namespace Ledger

def after (calls : List Call) : Ledger := Ledger.postAll {} ((forM calls Call.run).run []).samples

/-- The model that was built last, refused descriptions apart. -/
def lastBuilt? (calls : List Call) : Option Model :=
  (calls.reverse.find? fun c => c.verdict ≠ .invalid).map Call.built

theorem lastBuilt?_concat (calls : List Call) (c : Call) :
    lastBuilt? (calls ++ [c]) = if c.verdict = .invalid then lastBuilt? calls else some c.built := by
  rw [lastBuilt?, List.reverse_concat, List.find?_cons]
  by_cases refused : c.verdict = .invalid
  · simp only [refused, ne_eq, not_true_eq_false, decide_false, if_true, lastBuilt?]
  · simp only [refused, ne_eq, not_false_eq_true, decide_true, if_false, Option.map_some]

theorem after_concat (calls : List Call) (c : Call) : after (calls ++ [c]) = {
    ok := (after calls).ok + if c.verdict = .ok then 1 else 0
    invalid := (after calls).invalid + if c.verdict = .invalid then 1 else 0
    renderError := (after calls).renderError + if c.verdict = .renderError then 1 else 0
    renderFailures := (after calls).renderFailures + if c.verdict = .renderError then 1 else 0
    writeFailures := (after calls).writeFailures + if c.fails then 1 else 0
    entries := if c.verdict = .invalid then (after calls).entries else some c.built.size
    endpoints := if c.verdict = .invalid then (after calls).endpoints else some c.built.endpointCount } := by
  have posted : after (calls ++ [c]) = (after calls).postAll c.samples := by
    have last := (c.run_run (Archive.after calls)).1
    unfold Archive.after at last
    unfold after
    rw [Call.forM_concat, Observed.samples_bind, last, postAll, List.foldl_append]
    rfl
  rw [posted, Call.samples]
  cases c.verdict <;> cases c.fails <;> rfl

/-- What holds of the ledger and the archive after some calls, and of the ledger of the deliveries
among them alone. -/
structure Balanced (calls : List Call) : Prop where
  compilations : (after calls).ok + (after calls).invalid + (after calls).renderError = calls.length
  renderings : (after calls).renderFailures = (after calls).renderError
  writings : (after (calls.filter Call.isDelivery)).ok =
    (Archive.after calls).length + (after calls).writeFailures
  entries : (after calls).entries = (lastBuilt? calls).map Model.size
  endpoints : (after calls).endpoints = (lastBuilt? calls).map Model.endpointCount

theorem Balanced.concat {calls : List Call} (balanced : Balanced calls) (c : Call) : Balanced (calls ++ [c]) := by
  constructor
  case compilations =>
    rw [after_concat, List.length_append, List.length_singleton, ← balanced.compilations]
    cases c.verdict <;> simp <;> omega
  case renderings =>
    rw [after_concat, balanced.renderings]
  case writings =>
    -- Only a delivery that ends well is due; its document is in the archive or its writing failed.
    have due : (after ((calls ++ [c]).filter Call.isDelivery)).ok =
        (after (calls.filter Call.isDelivery)).ok + if c.isDelivery && c.verdict = .ok then 1 else 0 := by
      cases delivers : c.isDelivery with
      | true =>
        rw [List.filter_append, List.filter_cons_of_pos delivers, List.filter_nil, after_concat]
        simp
      | false => simp [delivers]
    have failures : (after (calls ++ [c])).writeFailures =
        (after calls).writeFailures + if c.fails then 1 else 0 := by
      rw [after_concat]
    rw [due, c.archived_or_fails, balanced.writings, failures, Archive.after_concat, List.length_append]
    omega
  case entries =>
    rw [after_concat, lastBuilt?_concat, balanced.entries]
    cases c.verdict <;> rfl
  case endpoints =>
    rw [after_concat, lastBuilt?_concat, balanced.endpoints]
    cases c.verdict <;> rfl

/-- Every compilation is counted under the way it ended, render errors twice; the documents that
deliveries came to are in the archive or counted as failures; and the gauges show the model built
for the last description that was not refused. -/
theorem balance (calls : List Call) :
    (after calls).ok + (after calls).invalid + (after calls).renderError = calls.length ∧
    (after calls).renderFailures = (after calls).renderError ∧
    (after (calls.filter Call.isDelivery)).ok =
      (Archive.after calls).length + (after calls).writeFailures ∧
    (after calls).entries = (lastBuilt? calls).map Model.size ∧
    (after calls).endpoints = (lastBuilt? calls).map Model.endpointCount := by
  have balanced : Balanced calls := by
    induction calls using List.reverseRecOn with
    | nil => exact ⟨rfl, rfl, rfl, rfl, rfl⟩
    | append_singleton earlier c ih => exact ih.concat c
  exact ⟨balanced.compilations, balanced.renderings, balanced.writings, balanced.entries,
    balanced.endpoints⟩

def forwarding (families : List Family) (address : String) : Description where
  service := some ⟨[⟨80, 30080, .tcp⟩], families, 32000⟩
  nodes := [⟨"a", some address, none⟩]

/-- A document that is written and one that is not, a repeated family that is refused and then
let through, and an address that cannot be rendered. -/
def mixed : List Call :=
  [.deliver true (forwarding [.ipv4] "10.0.0.1") "envoy.yaml" (.ok ()),
    .deliver true (forwarding [.ipv4] "10.0.0.1") "envoy.yaml" (.error .busy),
    .deliver true (forwarding [.ipv4, .ipv4] "10.0.0.1") "envoy.yaml" (.ok ()),
    .compile false (forwarding [.ipv4, .ipv4] "10.0.0.1"),
    .deliver false (forwarding [.ipv4, .ipv6] "null") "-" (.ok ())]

theorem balance_mixed :
    after mixed = {
      ok := 3
      invalid := 1
      renderError := 1
      renderFailures := 1
      writeFailures := 1
      entries := some 2
      endpoints := some 1 } ∧
    (after (mixed.filter Call.isDelivery)).ok = 2 ∧ (Archive.after mixed).length = 1 := by
  have ledger : after mixed = ⟨3, 1, 1, 1, 1, some 2, some 1⟩ := by decide +kernel
  have delivered : (after (mixed.filter Call.isDelivery)).ok = 2 := by decide +kernel
  obtain ⟨-, -, writings, -, -⟩ := balance mixed
  rw [delivered, ledger] at writings
  exact ⟨ledger, delivered, Nat.succ.inj writings.symm⟩

end Ledger

end ServiceProxy
