/-! Why a file operation fails. -/

set_option autoImplicit false

namespace ServiceProxy

inductive FileFault where
  | missing
  | busy
  | notDirectory
  | isDirectory
  | nameTooLong
  | nulInPath
  | nulInWatch
  | notText
  | other (text : String)
  deriving DecidableEq, Repr

def FileFault.message : FileFault → String
  | .missing => "No such file or directory (os error 2)"
  | .busy => "Device or resource busy (os error 16)"
  | .notDirectory => "Not a directory (os error 20)"
  | .isDirectory => "Is a directory (os error 21)"
  | .nameTooLong => "File name too long (os error 36)"
  | .nulInPath => "file name contained an unexpected NUL byte"
  | .nulInWatch => "data provided contains a nul byte"
  | .notText => "stream did not contain valid UTF-8"
  | .other text => text

structure WriteError where
  path : String
  fault : FileFault
  deriving DecidableEq, Repr

def WriteError.message (e : WriteError) : String :=
  "failed to write " ++ e.path ++ ": " ++ e.fault.message

end ServiceProxy
