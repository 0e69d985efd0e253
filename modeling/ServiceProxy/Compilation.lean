import ServiceProxy.Document.Render
import ServiceProxy.Routing.Build

/-! Compilation of a description to a document. Strict compilation refuses a service with
problems; lenient compilation reports them and goes on. -/

set_option autoImplicit false

namespace ServiceProxy

inductive CompileError where
  | invalidService (problems : List Problem)
  | unrepresentable (offender : Routing.Unrepresentable)
  deriving DecidableEq, Repr

def CompileError.message : CompileError → String
  | .invalidService problems => "invalid service description: " ++ Problem.joined problems
  | .unrepresentable offender => offender.message

namespace Description

def problems (d : Description) : List Problem :=
  match d.service with
  | none => []
  | some service => service.problems

def reportProblems : List Problem → Observed Unit
  | [] => return ()
  | problem :: rest => do
    Observed.emit (.problemFound problem)
    reportProblems rest

def compileModel (d : Description) : ExceptT CompileError Observed String := do
  let model ← Routing.Model.ofDescription d
  Observed.record (.model model.size model.endpointCount)
  match ← model.render.run with
  | .error offender =>
    Observed.record .renderFailure
    Observed.record (.compilation .renderError)
    throw (.unrepresentable offender)
  | .ok document =>
    Observed.emit (.compiled model.size model.endpointCount model.healthCheckPort)
    Observed.record (.compilation .ok)
    return document

def compile (strict : Bool) (d : Description) : ExceptT CompileError Observed String := do
  let problems := d.problems
  if strict && !problems.isEmpty then
    Observed.record (.compilation .invalid)
    throw (.invalidService problems)
  else
    reportProblems problems
    d.compileModel

end Description

end ServiceProxy
