import ServiceProxy.CommandLine.Run

/-! The command line program. -/

set_option autoImplicit false

namespace ServiceProxy.CommandLine

def usage : String :=
  "usage: service-proxy [-c FILE] (compile | check | watch) [-c FILE] [-i FILE] [-o FILE] [--strict]"

def faultOf (e : IO.Error) : FileFault :=
  match e with
  | .noFileOrDirectory .. => .missing
  | .resourceBusy .. => .busy
  | other => .other (toString other)

def attempt {α : Type} (act : IO α) : IO (Except FileFault α) := do
  try return .ok (← act) catch e => return .error (faultOf e)

def place (path document : String) : IO Unit := do
  let temporary := Path.temporary path
  IO.FS.writeFile temporary document
  try IO.FS.rename temporary path
  catch e =>
    try IO.FS.removeFile temporary catch _ => pure ()
    throw e

def detailText : Detail → String
  | .text s => s
  | .number n => Decimal.text n

def eventLine (e : Event) : String :=
  e.level.name ++ " " ++ e.message ++
    String.join (e.details.map fun (name, value) => " " ++ name ++ "=" ++ detailText value)

def access (threshold : IO.Ref Nat) : Access IO where
  read path := attempt (IO.FS.readBinFile path)
  canWatch path := do
    return (← attempt (IO.FS.realPath path)).map fun _ => ()
  deliver path document := do
    match ← attempt (place path document) with
    | .ok () => return .ok ()
    | .error fault => return .error ⟨path, fault⟩
  print text := attempt do
    let out ← IO.getStdout
    out.putStr text
    out.flush
  setLevel name := threshold.set (Level.threshold name)
  observe run := do
    let shown ← threshold.get
    for e in run.events do
      if e.level.rank ≤ shown then IO.eprintln (eventLine e)
    return run.value

/-- The run left to itself, with the quiet period spent asleep. -/
partial def settle (a : Access IO) (s : Watch.State) : IO Watch.State := do
  if s.next? = some .elapse then IO.sleep s.plan.debounceMillis.toUInt32
  match s.next?.bind (s.step? a) with
  | none => return s
  | some run => settle a (← run)

partial def poll (a : Access IO) (seconds : Nat) (seen : Except FileFault ByteArray) (s : Watch.State) : IO Unit := do
  IO.sleep (seconds * 1000).toUInt32
  let now ← a.read s.plan.input
  if now.toOption.map ByteArray.data == seen.toOption.map ByteArray.data then poll a seconds seen s
  else
    let s ← s.meet a (.event ⟨.content, [s.plan.input]⟩)
    poll a seconds now (← settle a s)

/-- The exit code of an invocation. A watch loop runs until the process is ended. -/
def perform (args : List String) : IO UInt32 := do
  let a := access (← IO.mkRef (Level.threshold "info"))
  let ending ← run a args
  match ending with
  | .exit 2 _ => IO.eprintln usage
  | .exit _ complaints => for line in complaints do IO.eprintln line
  | .failure e => IO.eprintln e.message
  | .watching pollSeconds s => poll a pollSeconds (← a.read s.plan.input) s
  return ending.code.toUInt32

end ServiceProxy.CommandLine

def main (args : List String) : IO UInt32 := ServiceProxy.CommandLine.perform args
