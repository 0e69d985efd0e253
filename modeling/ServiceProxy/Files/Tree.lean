import ServiceProxy.Files.Fault
import ServiceProxy.Files.Path
import ServiceProxy.Text.Utf8

/-! File trees without links. A location is the list of names that leads to it from the root; it
holds a file, a directory or nothing. A path is followed name by name from the root or from the
working directory, and every location it passes through has to be a directory. -/

set_option autoImplicit false

namespace ServiceProxy

abbrev Location := List String

inductive Holding where
  | file (bytes : ByteArray)
  | directory

namespace Holding

def isDirectory : Holding → Bool
  | .file _ => false
  | .directory => true

def text? : Holding → Option String
  | .file bytes => some (Utf8.shown bytes)
  | .directory => none

def sameAs (a b : Holding) : Bool :=
  match a, b with
  | .file x, .file y => x.data == y.data
  | .directory, .directory => true
  | _, _ => false

end Holding

structure Tree where
  base : Location
  holdings : List (Location × Holding)

namespace Tree

def get? (t : Tree) (place : Location) : Option Holding := t.holdings.lookup place

def erase (t : Tree) (place : Location) : Tree :=
  { t with holdings := t.holdings.filter fun entry => entry.1 ≠ place }

def set (t : Tree) (place : Location) (holding : Holding) : Tree :=
  { t with holdings := (place, holding) :: (t.erase place).holdings }

/-- The locations passed through on the way to a location, itself included. -/
def passed (place : Location) : List Location :=
  (List.range (place.length + 1)).map fun n => place.take n

def bare (base : Location) : Tree where
  base := base
  holdings := (passed base).map fun place => (place, .directory)

def plant (t : Tree) (names : List String) (holding : Holding) : Tree :=
  let place := t.base ++ names
  let parents := (passed place.dropLast).filter fun parent => (t.get? parent).isNone
  (parents.foldl (fun t parent => t.set parent .directory) t).set place holding

def below (t : Tree) : List (Location × Holding) :=
  t.holdings.filterMap fun (place, holding) =>
    if t.base.isPrefixOf place && place ≠ t.base then some (place.drop t.base.length, holding)
    else none

/-- The longest name, and the least length of a path that is too long, in bytes. -/
def nameLimit : Nat := 255

def pathLimit : Nat := 4096

/-- One name further. Only the last name of a path may lead to nothing. -/
def step (t : Tree) (place : Location) (name : String) : Except FileFault Location :=
  match t.get? place with
  | none => .error .missing
  -- A file on the way refuses every name, dots too.
  | some (.file _) => .error .notDirectory
  | some .directory =>
    if name = "." then .ok place
    else if name = ".." then .ok place.dropLast
    else if nameLimit < name.utf8ByteSize then .error .nameTooLong
    else .ok (place ++ [name])

def walk (t : Tree) : Location → List String → Except FileFault Location
  | place, [] => .ok place
  | place, name :: rest =>
    match t.step place name with
    | .error fault => .error fault
    | .ok next => t.walk next rest

def names (path : String) : List String :=
  ((Path.pieces path).filter (· ≠ [])).map String.ofList

def locate (t : Tree) (path : String) : Except FileFault Location :=
  if Path.hasNul path then .error .nulInPath
  else if path.isEmpty then .error .missing
  else if pathLimit ≤ path.utf8ByteSize then .error .nameTooLong
  else t.walk (if Path.isAbsolute path then [] else t.base) (names path)

/-- A path that ends in a slash can only mean a directory. -/
def wantsDirectory (path : String) : Bool := path.toList.getLast? == some '/'

def read (t : Tree) (path : String) : Except FileFault ByteArray := do
  let place ← t.locate path
  match t.get? place with
  | none => .error .missing
  | some .directory => .error .isDirectory
  | some (.file bytes) => if wantsDirectory path then .error .notDirectory else .ok bytes

def write (t : Tree) (path : String) (bytes : ByteArray) : Except FileFault Tree := do
  let place ← t.locate path
  match t.get? place with
  | some .directory => .error .isDirectory
  | some (.file _) =>
    if wantsDirectory path then .error .notDirectory else .ok (t.set place (.file bytes))
  | none => if wantsDirectory path then .error .isDirectory else .ok (t.set place (.file bytes))

def endsInName (path : String) : Bool :=
  match (names path).getLast? with
  | some name => name ≠ "." && name ≠ ".."
  | none => false

def rename (t : Tree) (source target : String) : Except FileFault Tree := do
  let old ← t.locate source
  let new ← t.locate target
  match t.get? old with
  | some (.file bytes) =>
    if !endsInName target then .error .busy
    else if wantsDirectory target then .error .notDirectory
    else if (t.get? new).any Holding.isDirectory then .error .isDirectory
    else .ok ((t.erase old).set new (.file bytes))
  | some .directory => .error .isDirectory
  | none => .error .missing

def remove (t : Tree) (path : String) : Except FileFault Tree := do
  let place ← t.locate path
  match t.get? place with
  | some (.file _) => .ok (t.erase place)
  | some .directory => .error .isDirectory
  | none => .error .missing

def absolute (t : Tree) (path : String) : String :=
  if Path.isAbsolute path then path else "/" ++ "/".intercalate t.base ++ "/" ++ path

/-- Whether a path leads to something that a watch can be put on, which takes the path from the
root. -/
def hasEntry (t : Tree) (path : String) : Except FileFault Unit := do
  let place ← t.locate (t.absolute path)
  match t.get? place with
  | none => .error .missing
  | some .directory => .ok ()
  | some (.file _) => if wantsDirectory path then .error .notDirectory else .ok ()

end Tree

end ServiceProxy
