import ServiceProxy.Datum.Decode
import ServiceProxy.Net.SocketAddress

/-! Settings of the program, their defaults, their problems and their shapes. -/

set_option autoImplicit false

namespace ServiceProxy

structure WatchSettings where
  pollSeconds : Nat := 2
  debounceMillis : Nat := 250
  deriving DecidableEq, Repr

inductive LogFormat where
  | pretty
  | compact
  deriving DecidableEq, Repr

def LogFormat.name : LogFormat → String
  | .pretty => "pretty"
  | .compact => "compact"

structure LogSettings where
  level : String := "info"
  format : LogFormat := .pretty
  metricsEnabled : Bool := false
  metricsAddress : String := "127.0.0.1:9902"
  deriving DecidableEq, Repr

structure Settings where
  input : String := "lb.toml"
  output : String := "envoy.yaml"
  strict : Bool := false
  watch : WatchSettings := {}
  log : LogSettings := {}
  deriving DecidableEq, Repr

inductive SettingProblem where
  | pollInterval
  | metricsAddress
  | outputPath
  deriving DecidableEq, Repr

namespace SettingProblem

def setting : SettingProblem → String
  | .pollInterval => "watch.poll_interval_secs"
  | .metricsAddress => "observability.metrics_address"
  | .outputPath => "output.path"

def reason : SettingProblem → String
  | .pollInterval => "must be greater than zero"
  | .metricsAddress => "invalid socket address syntax"
  | .outputPath => "must not be empty"

def text (p : SettingProblem) : String := p.setting ++ ": " ++ p.reason

def joined (problems : List SettingProblem) : String :=
  String.intercalate ", " (problems.map text)

end SettingProblem

namespace Settings

/-- The metrics address only matters when metrics are served. -/
def problems (s : Settings) : List SettingProblem :=
  (if s.watch.pollSeconds = 0 then [.pollInterval] else []) ++
  (if s.log.metricsEnabled && !SocketAddress.isValid s.log.metricsAddress then [.metricsAddress]
    else []) ++
  (if s.output.isEmpty then [.outputPath] else [])

def pathShape (name : String) (default : String) : Shape (Option String) String where
  name := name
  slots := [.of "path" [] false id (fun p _ => some p) (fun _ => Datum.toPath)]
  blank := none
  finish d := return d.getD default

def strictShape : Shape (Option Bool) Bool where
  name := "ValidationConfig"
  slots := [.of "strict" [] false id (fun b _ => some b) (fun _ => Datum.toTruth)]
  blank := none
  finish d := return d.getD false

structure WatchDraft where
  pollSeconds : Option Nat := none
  debounceMillis : Option Nat := none

def watchShape : Shape WatchDraft WatchSettings where
  name := "WatchConfig"
  slots := [
    .of "poll_interval_secs" [] false (·.pollSeconds) (fun n d => { d with pollSeconds := some n })
      (fun _ => Datum.toCount),
    .of "debounce_ms" [] false (·.debounceMillis) (fun n d => { d with debounceMillis := some n })
      (fun _ => Datum.toCount)]
  blank := {}
  finish d :=
    let usual : WatchSettings := {}
    return ⟨d.pollSeconds.getD usual.pollSeconds, d.debounceMillis.getD usual.debounceMillis⟩

structure LogDraft where
  level : Option String := none
  format : Option LogFormat := none
  metricsEnabled : Option Bool := none
  metricsAddress : Option String := none

def logFormats : List (String × LogFormat) := [LogFormat.pretty, .compact].map fun f => (f.name, f)

def logShape : Shape LogDraft LogSettings where
  name := "ObservabilityConfig"
  slots := [
    .of "log_level" [] false (·.level) (fun l d => { d with level := some l }) (fun _ => Datum.toText),
    .of "log_format" [] false (·.format) (fun f d => { d with format := some f })
      (Datum.toVariant logFormats),
    .of "metrics_enabled" [] false (·.metricsEnabled) (fun b d => { d with metricsEnabled := some b })
      (fun _ => Datum.toTruth),
    .of "metrics_address" [] false (·.metricsAddress) (fun a d => { d with metricsAddress := some a })
      (fun _ => Datum.toText)]
  blank := {}
  finish d :=
    let usual : LogSettings := {}
    return ⟨d.level.getD usual.level, d.format.getD usual.format,
      d.metricsEnabled.getD usual.metricsEnabled, d.metricsAddress.getD usual.metricsAddress⟩

structure Draft where
  input : Option String := none
  output : Option String := none
  strict : Option Bool := none
  watch : Option WatchSettings := none
  log : Option LogSettings := none

def shape : Shape Draft Settings :=
  let usual : Settings := {}
  { name := "CompilerConfig"
    slots := [
      .of "input" [] false (·.input) (fun s d => { d with input := some s })
        (pathShape "InputConfig" usual.input).read,
      .of "output" [] false (·.output) (fun s d => { d with output := some s })
        (pathShape "OutputConfig" usual.output).read,
      .of "validation" [] false (·.strict) (fun b d => { d with strict := some b }) strictShape.read,
      .of "watch" [] false (·.watch) (fun w d => { d with watch := some w }) watchShape.read,
      .of "observability" [] false (·.log) (fun l d => { d with log := some l }) logShape.read]
    blank := {}
    finish := fun d =>
      return ⟨d.input.getD usual.input, d.output.getD usual.output, d.strict.getD usual.strict,
        d.watch.getD usual.watch, d.log.getD usual.log⟩ }

end Settings

end ServiceProxy
