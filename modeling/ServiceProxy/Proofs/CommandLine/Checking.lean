import ServiceProxy.CommandLine.Run
import ServiceProxy.Proofs.Strictness
import ServiceProxy.Proofs.Watch.Steps

/-! Checking next to strict compilation. Checking ends where validation ends, compilation goes on
to build, to render and to write. Main statement: with the same settings and the same description
both succeed or none does, and they fail on the same problems. -/

set_option autoImplicit false

namespace ServiceProxy

namespace Workspace

variable {α : Type}

@[simp] theorem outcome_pure (w : Workspace) (a : α) : w.outcome (pure a) = (a, w) := rfl

@[simp] theorem outcome_setLevel (w : Workspace) (name : String) :
    w.outcome (access.setLevel name) = ((), w) := rfl

theorem outcome_print (w : Workspace) (text : String) :
    w.outcome (access.print text) = (.ok (), { w with printed := w.printed ++ text }) := rfl

def configured (w : Workspace) : Option String → Except LoadError Settings
  | none => .ok {}
  | some path => (Settings.load (w.tree.read path)).run.value

def described (w : Workspace) (path : String) : Except LoadError Description :=
  (Description.load path (w.tree.read path)).run.value

end Workspace

namespace Description

/-- What has been loaded renders, so strict compilation can fail on problems only. -/
theorem value_compile_of_described {w : Workspace} {path : String} {d : Description}
    (loaded : w.described path = .ok d) :
    (d.compile true).run.value =
      if d.problems = [] then .ok (Routing.Model.ofDescription d).value.document
      else .error (.invalidService d.problems) := by
  unfold Workspace.described load at loaded
  split at loaded
  · cases loaded
  · have parsed := yields_adapt.1 loaded
    rw [value_compile_strict, value_compileModel_of_wellAddressed (wellAddressed_of_yields_parse parsed)]

end Description

namespace CommandLine

def ending (w : Workspace) (args : List String) : Ending := (w.outcome (run Workspace.access args)).1

theorem outcome_settings (w : Workspace) (i : Invocation) :
    w.outcome (i.settings Workspace.access) = ((w.configured i.config).map i.apply, w) := by
  unfold Invocation.settings Workspace.configured
  cases i.config with
  | none => rfl
  | some path =>
    simp only [Workspace.outcome_bind, Workspace.outcome_read, Workspace.outcome_observe]
    cases (Settings.load (w.tree.read path)).run.value <;> rfl

theorem ending_eq {w : Workspace} {args : List String} {i : Invocation}
    (parsed : Invocation.parse? args = some i) :
    ending w args = match w.configured i.config with
      | .error e => .failure (.load e)
      | .ok s => (w.outcome (i.verb.run Workspace.access (i.apply s))).1 := by
  unfold ending run
  rw [parsed]
  simp only [Workspace.outcome_bind, outcome_settings]
  cases w.configured i.config <;> rfl

theorem outcome_withDescription (w : Workspace) (s : Settings) (use : Description → Desk Ending) :
    w.outcome (withDescription Workspace.access s use) = match w.described s.input with
      | .error e => (.failure (.load e), w)
      | .ok d => w.outcome (use d) := by
  unfold withDescription Workspace.described
  simp only [Workspace.outcome_bind, Workspace.outcome_read, Workspace.outcome_observe]
  cases (Description.load s.input (w.tree.read s.input)).run.value <;> rfl

theorem outcome_runCheck (w : Workspace) (s : Settings) :
    (w.outcome (runCheck Workspace.access s)).1 = match w.described s.input with
      | .error e => .failure (.load e)
      | .ok d =>
        if d.problems = [] then .exit 0 []
        else .exit 1 (d.problems.map fun problem => "error: " ++ problem.text) := by
  unfold runCheck
  rw [outcome_withDescription]
  cases w.described s.input with
  | error e => rfl
  | ok d => cases problems : d.problems <;> simp [problems, Workspace.outcome_print]

theorem outcome_runCompile (w : Workspace) (s : Settings) :
    (w.outcome (runCompile Workspace.access s)).1 = match w.described s.input with
      | .error e => .failure (.load e)
      | .ok d => match (d.compile s.strict).run.value with
        | .error e => .failure (.compile e)
        | .ok document => match (w.outcome (Workspace.access.put s.output document)).1 with
          | .error e => .failure (.write e)
          | .ok () => .exit 0 [] := by
  unfold runCompile
  rw [outcome_withDescription]
  cases w.described s.input with
  | error e => rfl
  | ok d =>
    unfold Description.deliver
    simp only [Workspace.outcome_bind, Workspace.outcome_observe]
    cases (d.compile s.strict).run.value with
    | error e => rfl
    | ok document =>
      simp only [Workspace.outcome_bind]
      cases (w.outcome (Workspace.access.put s.output document)).1 <;> rfl

/-- The document that a compilation with some settings comes to, if it comes to one, can be
written to the output that they name. -/
def Writable (w : Workspace) (s : Settings) : Prop := ∀ d document, w.described s.input = .ok d →
  (d.compile s.strict).run.value = .ok document →
    (w.outcome (Workspace.access.put s.output document)).1 = .ok ()

theorem outcome_runCompile_strict {w : Workspace} {s : Settings} (strict : s.strict = true)
    (writable : Writable w s) :
    (w.outcome (runCompile Workspace.access s)).1 = match w.described s.input with
      | .error e => .failure (.load e)
      | .ok d =>
        if d.problems = [] then .exit 0 []
        else .failure (.compile (.invalidService d.problems)) := by
  rw [outcome_runCompile]
  cases loaded : w.described s.input with
  | error e => rfl
  | ok d =>
    have compiled := Description.value_compile_of_described loaded
    by_cases valid : d.problems = []
    · rw [if_pos valid] at compiled
      have written := writable d _ loaded (strict ▸ compiled)
      simp only [strict, compiled, written, if_pos valid]
    · rw [if_neg valid] at compiled
      simp only [strict, compiled, if_neg valid]

/-- Checking succeeds exactly when strict compilation with the same settings file and the same
description does, if the document can be written. Where checking fails on a description that
loads, it complains of the problems that compilation fails with, in their order. -/
theorem check_predicts_compile (w : Workspace) (checkArgs compileArgs : List String) (i j : Invocation)
    (checking : Invocation.parse? checkArgs = some i ∧ i.verb = .check)
    (compiling : Invocation.parse? compileArgs = some j ∧ j.verb = .compile ∧ j.strict = true)
    (config : i.config = j.config) (input : i.input = j.input)
    (writable : ∀ s, (w.outcome (j.settings Workspace.access)).1 = .ok s → Writable w s) :
    ((ending w checkArgs).code = 0 ↔ (ending w compileArgs).code = 0) ∧
    ∀ s d, (w.outcome (i.settings Workspace.access)).1 = .ok s → w.described s.input = .ok d →
      (ending w checkArgs).code ≠ 0 →
        ending w checkArgs = .exit 1 (d.problems.map fun problem => "error: " ++ problem.text) ∧
        ending w compileArgs = .failure (.compile (.invalidService d.problems)) := by
  rw [ending_eq checking.1, ending_eq compiling.1, outcome_settings, config, checking.2, compiling.2.1]
  rw [outcome_settings] at writable
  cases configured : w.configured j.config with
  -- Settings that do not load end both alike.
  | error e =>
    refine ⟨.rfl, fun s d loaded => ?_⟩
    cases loaded
  | ok base =>
    -- The outputs may differ, but checking does not look at its own.
    have strict : (j.apply base).strict = true := by simp [Invocation.apply, compiling.2.2]
    have same : (j.apply base).input = (i.apply base).input := by simp [Invocation.apply, input]
    have compiled := outcome_runCompile_strict strict (writable _ (by rw [configured]; rfl))
    simp only [Verb.run, outcome_runCheck, compiled, same]
    constructor
    · cases w.described (i.apply base).input with
      | error e => exact .rfl
      | ok d => by_cases valid : d.problems = [] <;> simp [valid, Ending.code]
    · rintro s d settings loaded failed
      obtain rfl : i.apply base = s := Except.ok.inj settings
      rw [loaded] at failed ⊢
      by_cases valid : d.problems = []
      · exact absurd (by simp [valid, Ending.code]) failed
      · simp only [if_neg valid, and_self]

def onePort (target : String) : Workspace where
  tree := Workspace.fresh.tree.plant ["lb.toml"] (.file (
    "[service]\nipFamilies = [\"IPv4\"]\n[[service.ports]]\nlistenPort = 80\ntargetPort = " ++
      target ++ "\n").toUTF8)

def checkOnePort : Invocation := ⟨.check, none, some "lb.toml", none, false⟩

def compileOnePort : Invocation := ⟨.compile, none, some "lb.toml", some "envoy.yaml", true⟩

theorem writable_onePort (target : String) :
    Writable (onePort target) (compileOnePort.apply {}) := fun _ _ _ _ => rfl

theorem check_predicts_compile_onePort :
    let checkArgs := ["check", "-i", "lb.toml"]
    let compileArgs := ["compile", "-o", "envoy.yaml", "--strict", "-i", "lb.toml"]
    (ending (onePort "30000") checkArgs).code = 0 ∧ (ending (onePort "30000") compileArgs).code = 0 ∧
    ending (onePort "0") checkArgs = .exit 1 ["error: ports[0].targetPort must be non-zero"] ∧
    ending (onePort "0") compileArgs = .failure (.compile (.invalidService [.zeroPort .targetPort 0])) := by
  intro checkArgs compileArgs
  have checking : Invocation.parse? checkArgs = some checkOnePort := by decide +kernel
  have compiling : Invocation.parse? compileArgs = some compileOnePort := by decide +kernel
  have predicted (target : String) := check_predicts_compile (onePort target) checkArgs compileArgs
    checkOnePort compileOnePort ⟨checking, rfl⟩ ⟨compiling, rfl, rfl⟩ rfl rfl
    fun _ settings => Except.ok.inj settings ▸ writable_onePort target
  have succeeds : (ending (onePort "30000") checkArgs).code = 0 := by decide +kernel
  have loaded : (onePort "0").described "lb.toml" =
      .ok ⟨some ⟨[⟨80, 0, .tcp⟩], [.ipv4], 0⟩, []⟩ := by decide +kernel
  have fails : (ending (onePort "0") checkArgs).code ≠ 0 := by decide +kernel
  obtain ⟨complaints, refusal⟩ := (predicted "0").2 _ _ rfl loaded fails
  exact ⟨succeeds, (predicted "30000").1.1 succeeds, complaints, refusal⟩

end CommandLine

end ServiceProxy
