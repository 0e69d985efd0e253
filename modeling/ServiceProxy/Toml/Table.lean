import ServiceProxy.Datum.Basic

/-! Tables under construction.

A table remembers how it came about: an implicit one was only passed through on the way to
another, and a dotted one was passed through by the key of a value. A header may still define
an implicit table that is not dotted, and dotted keys may still extend a dotted one; everything
else is defined once. -/

set_option autoImplicit false

namespace ServiceProxy.Toml

inductive Node where
  | leaf (value : Datum)
  | table (implicit dotted : Bool) (entries : List (String × Node))
  | tables (elements : List (List (String × Node)))

abbrev Entries := List (String × Node)

/-- The entries of a table and how it came about. -/
structure Frame where
  implicit : Bool := false
  dotted : Bool := false
  entries : Entries := []

namespace Frame

def node (f : Frame) : Node := .table f.implicit f.dotted f.entries

def get? (f : Frame) (key : String) : Option Node := f.entries.lookup key

def push (f : Frame) (key : String) (node : Node) : Frame :=
  { f with entries := f.entries ++ [(key, node)] }

def replace (f : Frame) (key : String) (node : Node) : Frame :=
  { f with entries := f.entries.map fun entry => if entry.1 = key then (key, node) else entry }

def erase (f : Frame) (key : String) : Frame :=
  { f with entries := f.entries.filter fun entry => entry.1 ≠ key }

variable {α : Type}

/-- A change to the table that a path leads to. The path passes through the last element of a
list of tables, and makes the tables that it lacks; a dotted path passes through no table that
was defined. -/
def change? (dotted : Bool) (act : Frame → Option (Frame × α)) :
    List String → Frame → Option (Frame × α)
  | [], f => act f
  | key :: path, f =>
    match f.get? key with
    | none => do
      let (inner, a) ← change? dotted act path { implicit := true, dotted }
      return (f.push key inner.node, a)
    | some (.leaf _) => none
    | some (.table implicit wasDotted entries) =>
      if dotted && !implicit then none
      else do
        let (inner, a) ← change? dotted act path ⟨implicit, wasDotted, entries⟩
        return (f.replace key inner.node, a)
    | some (.tables elements) =>
      match elements.getLast? with
      | none => none
      | some last => do
        let (inner, a) ← change? dotted act path { entries := last }
        return (f.replace key (.tables (elements.dropLast ++ [inner.entries])), a)

def define? (f : Frame) (path : List String) (key : String) (value : Datum) : Option Frame := do
  let act (inner : Frame) : Option (Frame × Unit) :=
    -- A dotted key has to end in a dotted table, and a plain key in another.
    if inner.dotted = path.isEmpty then none
    else if (inner.get? key).isSome then none
    else some (inner.push key (.leaf value), ())
  let (f, _) ← f.change? true act path
  return f

/-- The header of a table takes an implicit table out of its place; its entries are kept. -/
def openTable? (f : Frame) (path : List String) (key : String) : Option (Frame × Entries) :=
  f.change? false (fun parent =>
    match parent.get? key with
    | none => some (parent, [])
    | some (.table true false entries) => some (parent.erase key, entries)
    | some _ => none) path

/-- The header of a list element makes the list if there is none. -/
def openElement? (f : Frame) (path : List String) (key : String) : Option Frame := do
  let (f, _) ← f.change? false (fun parent =>
    match parent.get? key with
    | none => some (parent.push key (.tables []), ())
    | some (.tables _) => some (parent, ())
    | some _ => none) path
  return f

def closeTable? (f : Frame) (path : List String) (key : String) (table : Frame) : Option Frame := do
  let (f, _) ← f.change? false (fun parent =>
    match parent.get? key with
    | none => some (parent.push key table.node, ())
    | some _ => none) path
  return f

def closeElement? (f : Frame) (path : List String) (key : String) (table : Frame) : Option Frame := do
  let (f, _) ← f.change? false (fun parent =>
    match parent.get? key with
    | some (.tables elements) => some (parent.replace key (.tables (elements ++ [table.entries])), ())
    | _ => none) path
  return f

end Frame

mutual

def Node.datum : Node → Datum
  | .leaf value => value
  | .table _ _ entries => .record (entriesMembers entries)
  | .tables elements => .tables (elementsItems elements)

def entriesMembers : List (String × Node) → Members
  | [] => .done
  | (key, node) :: rest => .more (some key) node.datum (entriesMembers rest)

def elementsItems : List (List (String × Node)) → Items
  | [] => .done
  | entries :: rest => .more (.record (entriesMembers entries)) (elementsItems rest)

end

/-- A document under construction: the tables that are closed, and the open one with the header
that it will be put under. -/
structure Draft where
  closed : Frame := {}
  current : Frame := {}
  header : Option (Bool × List String × String) := none

namespace Draft

def close? (d : Draft) : Option Frame :=
  match d.header with
  | none => some d.current
  | some (false, path, key) => d.closed.closeTable? path key d.current
  | some (true, path, key) => d.closed.closeElement? path key d.current

def startTable? (d : Draft) (path : List String) (key : String) : Option Draft := do
  let (closed, entries) ← (← d.close?).openTable? path key
  return ⟨closed, { entries }, some (false, path, key)⟩

def startElement? (d : Draft) (path : List String) (key : String) : Option Draft := do
  let closed ← (← d.close?).openElement? path key
  return ⟨closed, {}, some (true, path, key)⟩

def define? (d : Draft) (path : List String) (key : String) (value : Datum) : Option Draft := do
  return { d with current := ← d.current.define? path key value }

end Draft

end ServiceProxy.Toml
