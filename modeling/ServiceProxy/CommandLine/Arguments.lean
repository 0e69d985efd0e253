/-! The arguments of the command line.

A command takes options, in any order, each at most once. An option that has a value takes it
from the same argument or from the next one, and no value is empty. -/

set_option autoImplicit false

namespace ServiceProxy.CommandLine

inductive Verb where
  | compile
  | check
  | watch
  deriving DecidableEq, Repr

def Verb.ofName? : String → Option Verb
  | "compile" => some .compile
  | "check" => some .check
  | "watch" => some .watch
  | _ => none

inductive Field where
  | config
  | input
  | output
  deriving DecidableEq, Repr

namespace Field

def long : Field → String
  | .config => "config"
  | .input => "input"
  | .output => "output"

def short : Field → Char
  | .config => 'c'
  | .input => 'i'
  | .output => 'o'

end Field

structure Level where
  fields : List Field
  hasStrict : Bool

def Level.top : Level := ⟨[.config], false⟩

def Level.ofVerb : Verb → Level
  | .compile => ⟨[.config, .input, .output], true⟩
  | .check => ⟨[.config, .input], false⟩
  | .watch => ⟨[.config, .input, .output], true⟩

structure Options where
  config : Option String := none
  input : Option String := none
  output : Option String := none
  strict : Bool := false
  deriving DecidableEq, Repr

namespace Options

def get? (o : Options) : Field → Option String
  | .config => o.config
  | .input => o.input
  | .output => o.output

def give? (o : Options) (field : Field) (value : String) : Option Options :=
  if value.isEmpty || (o.get? field).isSome then none
  else
    some (match field with
      | .config => { o with config := some value }
      | .input => { o with input := some value }
      | .output => { o with output := some value })

def giveStrict? (o : Options) : Option Options :=
  if o.strict then none else some { o with strict := true }

end Options

inductive Argument where
  | valued (field : Field) (value : Option String)
  | strict
  | ending
  | plain (text : String)
  deriving DecidableEq, Repr

def longArgument? (level : Level) (body : List Char) : Option Argument :=
  let (name, rest) := body.span (· ≠ '=')
  let value := match rest with
    | [] => none
    | _ :: value => some (String.ofList value)
  match level.fields.find? fun field => field.long.toList = name with
  | some field => some (.valued field value)
  | none =>
    if level.hasStrict && name = "strict".toList && value.isNone then some .strict else none

/-- The value of a short option may follow directly or after an equals sign. -/
def shortArgument? (level : Level) (letter : Char) (rest : List Char) : Option Argument :=
  match level.fields.find? fun field => field.short = letter with
  | none => none
  | some field =>
    match rest with
    | [] => some (.valued field none)
    | '=' :: value => some (.valued field (some (String.ofList value)))
    | value => some (.valued field (some (String.ofList value)))

/-- Nothing stands for an unknown option. A single dash is no option. -/
def argument? (level : Level) (text : String) : Option Argument :=
  match text.toList with
  | ['-', '-'] => some .ending
  | '-' :: '-' :: body => longArgument? level body
  | ['-'] => some (.plain text)
  | '-' :: letter :: rest => shortArgument? level letter rest
  | _ => some (.plain text)

def isValue (text : String) : Bool :=
  match text.toList with
  | ['-'] => true
  | '-' :: _ => false
  | _ => true

/-- The options up to the first argument that is none, and the arguments from there on. Nothing
may follow a double dash. -/
def options? (level : Level) (o : Options) : List String → Option (Options × List String)
  | [] => some (o, [])
  | text :: rest =>
    match argument? level text with
    | none => none
    | some (.plain _) => some (o, text :: rest)
    | some .ending => if rest.isEmpty then some (o, []) else none
    | some .strict => do options? level (← o.giveStrict?) rest
    | some (.valued field (some value)) => do options? level (← o.give? field value) rest
    | some (.valued field none) =>
      match rest with
      | [] => none
      | value :: rest =>
        if isValue value then do options? level (← o.give? field value) rest else none

structure Invocation where
  verb : Verb
  config : Option String
  input : Option String
  output : Option String
  strict : Bool
  deriving DecidableEq, Repr

/-- Options, a verb and the verb's options. The settings file may be named before or after the
verb, and after it counts. -/
def Invocation.parse? (args : List String) : Option Invocation := do
  let (before, rest) ← options? .top {} args
  match rest with
  | [] => none
  | name :: rest =>
    let verb ← Verb.ofName? name
    let (after, rest) ← options? (.ofVerb verb) {} rest
    if rest.isEmpty then
      return ⟨verb, after.config <|> before.config, after.input, after.output, after.strict⟩
    else none

end ServiceProxy.CommandLine
