import ServiceProxy.Datum.Mismatch

/-! Typed reading of data trees.

A shape lists the fields of a kind of record: their names, whether they are required, and how
they are read into a draft. A record gives its fields by name in any order, each at most once,
and may hold members that nobody wants; a list gives them by position. -/

set_option autoImplicit false

namespace ServiceProxy

abbrev Decoded := ExceptT Refusal Observed

namespace Decoded

variable {α : Type}

def malformed : Decoded α := throw .malformed

def mismatch (m : Mismatch) : Decoded α := throw (.mismatch m)

end Decoded

namespace Datum

variable {α : Type}

/-- The value is not of the wanted type; a value that cannot be read at all is malformed. -/
def unexpected (expected : String) (d : Datum) : Decoded α :=
  match d.found? with
  | none => .malformed
  | some found => .mismatch (.wrongType found expected)

def textAs (expected : String) : Datum → Decoded String
  | .text s => return s
  | d => d.unexpected expected

def toText : Datum → Decoded String := textAs "a string"

def toPath : Datum → Decoded String := textAs "path string"

def toTruth : Datum → Decoded Bool
  | .truth b => return b
  | d => d.unexpected "a boolean"

def toNatBelow (bound : Nat) (expected : String) : Datum → Decoded Nat
  | .integer n => if 0 ≤ n ∧ n < bound then return n.toNat else .mismatch (.outOfRange n expected)
  | d => d.unexpected expected

def toPort (d : Datum) : Decoded Port := UInt16.ofNat <$> d.toNatBelow UInt16.size "u16"

def toCount (d : Datum) : Decoded Nat := d.toNatBelow UInt64.size "u64"

def toOption (read : Datum → Decoded α) : Datum → Decoded (Option α)
  | .null => return none
  | d => some <$> read d

end Datum

namespace Items

variable {α : Type}

def toList (read : Datum → Decoded α) : Items → Decoded (List α)
  | .done => return []
  | .broken => .malformed
  | .more head tail => do
    let first ← read head
    let rest ← tail.toList read
    return first :: rest

end Items

namespace Datum

variable {α : Type}

def toList (read : Datum → Decoded α) (d : Datum) : Decoded (List α) :=
  match d.items? with
  | some items => items.toList read
  | none => d.unexpected "a sequence"

def lookupVariant (known : List (String × α)) (name : String) : Decoded α :=
  match known.lookup name with
  | some value => return value
  | none => .mismatch (.unknownVariant name (known.map Prod.fst))

def keyedVariant (known : List (String × α)) : Members → Decoded α
  | .done => .malformed
  | .broken => .malformed
  | .more none _ _ => .malformed
  | .more (some name) value tail => do
    let variant ← lookupVariant known name
    match value with
    | .null => if tail.isDone then return variant else .malformed
    | other => other.unexpected "unit"

def emptyPayload : Datum → Except Mismatch Unit
  | .record members => if members.isDone then .ok () else .error .variantNotEmpty
  | .list items => if items.isDone then .ok () else .error .variantNotEmpty
  | .tables elements => if elements.isDone then .ok () else .error .variantHasElements
  | .integer _ => .error (.variantNotTable "integer")
  | .real _ => .error (.variantNotTable "float")
  | .truth _ => .error (.variantNotTable "boolean")
  | .text _ => .error (.variantNotTable "string")
  | .moment => .error (.variantNotTable "datetime")
  | _ => .error .variantNeither

def tabledVariant (known : List (String × α)) : Members → Decoded α
  | .done => .mismatch .noVariant
  | .broken => .malformed
  | .more none _ .done => .malformed
  | .more (some name) value .done => do
    let variant ← lookupVariant known name
    match emptyPayload value with
    | .ok () => return variant
    | .error m => .mismatch m
  | .more _ _ _ => .mismatch .severalVariants

def toVariant (known : List (String × α)) (format : Format) (d : Datum) : Decoded α :=
  match format, d with
  | _, .text name => lookupVariant known name
  | .json, .record members => keyedVariant known members
  | .json, _ => .malformed
  | .toml, .record members => tabledVariant known members
  | .toml, _ => .mismatch .variantNeither

end Datum

/-- One field of a record that is read into drafts of type `σ`. -/
structure Slot (σ : Type) where
  name : String
  aliases : List String
  required : Bool
  filled : σ → Bool
  fill : Format → Datum → σ → Decoded σ

namespace Slot

variable {σ β : Type}

def answersTo (slot : Slot σ) (key : String) : Bool := slot.name == key || slot.aliases.contains key

def of (name : String) (aliases : List String) (required : Bool) (get : σ → Option β)
    (set : β → σ → σ) (read : Format → Datum → Decoded β) : Slot σ where
  name := name
  aliases := aliases
  required := required
  filled draft := (get draft).isSome
  fill format d draft := return set (← read format d) draft

end Slot

/-- How values of type `α` are written as records or lists. -/
structure Shape (σ α : Type) where
  name : String
  slots : List (Slot σ)
  blank : σ
  finish : σ → Decoded α

namespace Shape

variable {σ α : Type}

/-- Members that answer to no field are skipped, which asks only that they are well-formed. -/
def fillNamed (shape : Shape σ α) (format : Format) : Members → σ → Decoded σ
  | .done, draft => return draft
  | .broken, _ => .malformed
  | .more none _ _, _ => .malformed
  | .more (some key) value tail, draft =>
    match shape.slots.find? fun slot => slot.answersTo key with
    | some slot =>
      if slot.filled draft then .mismatch (.duplicateField slot.name)
      else do
        let draft ← slot.fill format value draft
        shape.fillNamed format tail draft
    | none => if value.sound then shape.fillNamed format tail draft else .malformed

def missing? (shape : Shape σ α) (draft : σ) : Option (Slot σ) :=
  shape.slots.find? fun slot => slot.required && !slot.filled draft

def ofMembers (shape : Shape σ α) (format : Format) (members : Members) : Decoded α := do
  let draft ← shape.fillNamed format members shape.blank
  match shape.missing? draft with
  | some slot => .mismatch (.missingField slot.name)
  | none => shape.finish draft

/-- What follows the last field of a list: nothing, or items that one of the formats skips. -/
def checkSurplus : Format → Items → Decoded Unit
  | _, .done => return ()
  | .toml, .more _ _ => return ()
  | _, _ => .malformed

/-- Fields by position; at the end of the list the remaining ones take their defaults. -/
def fillPlaced (shape : Shape σ α) (format : Format) (index : Nat) :
    List (Slot σ) → Items → σ → Decoded σ
  | [], items, draft => do
    checkSurplus format items
    return draft
  | slot :: slots, .done, draft =>
    if slot.required then .mismatch (.tooShort index shape.name shape.slots.length)
    else shape.fillPlaced format (index + 1) slots .done draft
  | _ :: _, .broken, _ => .malformed
  | slot :: slots, .more head tail, draft => do
    let draft ← slot.fill format head draft
    shape.fillPlaced format (index + 1) slots tail draft

def ofItems (shape : Shape σ α) (format : Format) (items : Items) : Decoded α := do
  let draft ← shape.fillPlaced format 0 shape.slots items shape.blank
  shape.finish draft

def read (shape : Shape σ α) (format : Format) (d : Datum) : Decoded α :=
  match d.items?, d.members? with
  | some items, _ => shape.ofItems format items
  | none, some members => shape.ofMembers format members
  | none, none => d.unexpected ("struct " ++ shape.name)

end Shape

end ServiceProxy
