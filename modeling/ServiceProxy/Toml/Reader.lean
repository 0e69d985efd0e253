import ServiceProxy.Toml.Moment
import ServiceProxy.Toml.Numeral
import ServiceProxy.Toml.Table

/-! TOML text as data trees. A text is read to its end before anything in it counts. -/

set_option autoImplicit false

namespace ServiceProxy.Toml

def nestingLimit : Nat := 79

def keyLimit : Nat := 79

def scalar? (cs : List Char) : Option (Datum × List Char) :=
  match cs with
  | 't' :: 'r' :: 'u' :: 'e' :: rest => some (.truth true, rest)
  | 'f' :: 'a' :: 'l' :: 's' :: 'e' :: rest => some (.truth false, rest)
  | '"' :: _ | '\x27' :: _ => do
    let (text, rest) ← string? cs
    return (.text text, rest)
  | cs =>
    -- Dates come first, since they begin as numbers do.
    match moment? cs with
    | some rest => some (.moment, rest)
    | none => number? cs

def splitKey? (segments : List String) : Option (List String × String) :=
  if keyLimit < segments.length then none
  else segments.getLast?.map fun last => (segments.dropLast, last)

def definition? (cs : List Char) : Option (List String × String × List Char) := do
  let (segments, rest) ← key? cs.length cs
  let (path, key) ← splitKey? segments
  match rest with
  | '=' :: rest => return (path, key, skipSpace rest)
  | _ => none

mutual

/-- The value at the start of a text, inside `depth` lists and inline tables. -/
def value? : Nat → Nat → List Char → Option (Datum × List Char)
  | 0, _, _ => none
  | fuel + 1, depth, cs =>
    match cs with
    | '[' :: rest =>
      if depth < nestingLimit then do
        let (items, rest) ← items? fuel (depth + 1) rest
        return (.list items, rest)
      else none
    | '{' :: rest =>
      if depth < nestingLimit then
        match skipSpace rest with
        | '}' :: rest => some (.record .done, rest)
        | rest => do
          let (frame, rest) ← pairs? fuel (depth + 1) {} rest
          return (frame.node.datum, rest)
      else none
    | cs => scalar? cs

def items? : Nat → Nat → List Char → Option (Items × List Char)
  | 0, _, _ => none
  | fuel + 1, depth, cs => do
    match ← skipFiller? false cs with
    | ']' :: rest => return (.done, rest)
    | cs =>
      let (head, rest) ← value? fuel depth cs
      match ← skipFiller? false rest with
      | ',' :: rest =>
        let (tail, rest) ← items? fuel depth rest
        return (.more head tail, rest)
      | ']' :: rest => return (.more head .done, rest)
      | _ => none

def pairs? : Nat → Nat → Frame → List Char → Option (Frame × List Char)
  | 0, _, _, _ => none
  | fuel + 1, depth, frame, cs => do
    let (path, key, rest) ← definition? cs
    let (held, rest) ← value? fuel depth rest
    let frame ← frame.define? path key held
    match skipSpace rest with
    | ',' :: rest => pairs? fuel depth frame (skipSpace rest)
    | '}' :: rest => return (frame, rest)
    | _ => none

end

def header? (cs : List Char) : Option (List String × String × List Char) := do
  let cs := skipSpace cs
  let (segments, rest) ← key? cs.length cs
  let (path, key) ← splitKey? segments
  return (path, key, rest)

/-- One line's worth of a document: a header, a definition or nothing. -/
def statement? (draft : Draft) (cs : List Char) : Option (Draft × List Char) :=
  match cs with
  | '[' :: '[' :: rest => do
    let (path, key, rest) ← header? rest
    match rest with
    | ']' :: ']' :: rest => return (← draft.startElement? path key, rest)
    | _ => none
  | '[' :: rest => do
    let (path, key, rest) ← header? rest
    match rest with
    | ']' :: rest => return (← draft.startTable? path key, rest)
    | _ => none
  | '\n' :: _ | '\r' :: _ | '#' :: _ => some (draft, cs)
  | cs => do
    let (path, key, rest) ← definition? cs
    -- Of two nested calls one reads a character.
    let (held, rest) ← value? (2 * rest.length + 2) 0 rest
    return (← draft.define? path key held, rest)

def statements? : Nat → Draft → List Char → Option Draft
  | 0, _, _ => none
  | fuel + 1, draft, cs =>
    match skipSpace cs with
    | [] => some draft
    | cs => do
      let (draft, rest) ← statement? draft cs
      statements? fuel draft (← afterLine? rest)

def dropMark : List Char → List Char
  | '\ufeff' :: rest => rest
  | cs => cs

def read? (text : String) : Option Datum := do
  let cs := dropMark text.toList
  let draft ← statements? (cs.length + 1) {} cs
  return (← draft.close?).node.datum

end ServiceProxy.Toml
