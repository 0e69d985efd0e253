import ServiceProxy.Datum.Basic

/-! Paths as text and what their text says: components, the file they name, the directory they
lie in. Repeated slashes and single dots say nothing, a leading single dot apart. -/

set_option autoImplicit false

namespace ServiceProxy

inductive Component where
  | root
  | here
  | up
  | name (n : String)
  deriving DecidableEq, Repr

namespace Path

def pieces (path : String) : List (List Char) := path.toList.splitOn '/'

def isVoid (piece : List Char) : Bool := piece == [] || piece == ['.']

def isAbsolute (path : String) : Bool := path.toList.head? == some '/'

def hasNul (path : String) : Bool := path.toList.contains '\x00'

def component? (piece : List Char) : Option Component :=
  if isVoid piece then none
  else if piece = ['.', '.'] then some .up
  else some (.name (String.ofList piece))

/-- The first piece of an absolute path is its root; a leading single dot counts. -/
def leading (path : String) (first : List Char) : List Component :=
  if isAbsolute path then [.root]
  else if first = ['.'] then [.here]
  else (component? first).toList

def components (path : String) : List Component :=
  match pieces path with
  | [] => []
  | first :: rest => leading path first ++ rest.filterMap component?

def fileName? (path : String) : Option String :=
  match (components path).getLast? with
  | some (.name n) => some n
  | _ => none

/-- What follows the last dot of the file name, unless nothing stands before that dot. -/
def extension? (path : String) : Option String := do
  let name ← fileName? path
  let (after, before) := name.toList.reverse.span (· ≠ '.')
  if before.length ≤ 1 then none else some (String.ofList after.reverse)

def trimVoid (pieces : List (List Char)) : List (List Char) :=
  (pieces.reverse.dropWhile isVoid).reverse

def joinPieces (pieces : List (List Char)) : String := String.ofList (['/'].intercalate pieces)

def parent? (path : String) : Option String :=
  match pieces path with
  | [] => none
  | first :: rest =>
    match trimVoid rest with
    | [] => if first.isEmpty then none else some ""
    | named =>
      let kept := trimVoid named.dropLast
      if isAbsolute path && kept.isEmpty then some "/" else some (joinPieces (first :: kept))

def join (directory name : String) : String :=
  if directory.isEmpty then name
  else if directory.toList.getLast? = some '/' then directory ++ name
  else directory ++ "/" ++ name

/-- The path with its file name changed; a path that names no file gets one. -/
def withFileName (path name : String) : String :=
  if (fileName? path).isSome then join ((parent? path).getD "") name else join path name

def temporary (path : String) : String := withFileName path ((fileName? path).getD "" ++ ".tmp")

/-- The directory that holds the file; a bare name lies in the working directory. -/
def directory (path : String) : String :=
  match parent? path with
  | some parent => if parent.isEmpty then "." else parent
  | none => "."

def isStandardOutput (path : String) : Bool := components path = [.name "-"]

end Path

/-- The format that a file name announces: files with extension `json`, in any case of its
letters, are JSON and all others TOML. -/
def Format.ofPath (path : String) : Format :=
  match Path.extension? path with
  | some ext => if ext.toList.map Char.toLower = "json".toList then .json else .toml
  | none => .toml

end ServiceProxy
