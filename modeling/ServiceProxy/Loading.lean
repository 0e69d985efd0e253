import ServiceProxy.Description.Parse
import ServiceProxy.Files.Tree
import ServiceProxy.Settings.Basic

/-! Descriptions and settings from files. -/

set_option autoImplicit false

namespace ServiceProxy

inductive LoadError where
  | file (fault : FileFault)
  | text (format : Format) (refusal : Refusal)
  | settings (problems : List SettingProblem)
  deriving DecidableEq, Repr

def Refusal.message : Refusal → String
  | .malformed => "malformed text"
  | .mismatch m => m.message

def LoadError.message : LoadError → String
  | .file fault => "IO error: " ++ fault.message
  | .text _ refusal => "Parse error: " ++ refusal.message
  | .settings problems => "Validation failed: " ++ SettingProblem.joined problems

abbrev Loaded := ExceptT LoadError Observed

def textOf (contents : Except FileFault ByteArray) : Except FileFault String := do
  match String.fromUTF8? (← contents) with
  | some text => .ok text
  | none => .error .notText

namespace Description

/-- The format is announced by the path, whatever the file holds. -/
def load (path : String) (contents : Except FileFault ByteArray) : Loaded Description :=
  match textOf contents with
  | .error fault => throw (.file fault)
  | .ok text => (parse (.ofPath path) text).adapt (.text (.ofPath path))

end Description

namespace Settings

def load (contents : Except FileFault ByteArray) : Loaded Settings :=
  match textOf contents with
  | .error fault => throw (.file fault)
  | .ok text => do
    let settings ← (Toml.parse shape text).adapt (.text .toml)
    if settings.problems.isEmpty then return settings else throw (.settings settings.problems)

end Settings

end ServiceProxy
