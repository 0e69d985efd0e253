/-! Data trees: what a description text holds before it is known what is wanted of it.

A tree keeps the order of the text. Where the text stops being well-formed the tree says so in
place: a value can be a `fault`, and a list or record can be `broken` off after some of its
parts. A value can also be `unfit`: well-formed, but of no use where a value is wanted. Reading
a tree in order thus meets problems of form and of content in the order of the text. -/

set_option autoImplicit false

namespace ServiceProxy

inductive Format where
  | json
  | toml
  deriving DecidableEq, Repr

mutual

inductive Datum where
  | null
  | truth (b : Bool)
  | integer (n : Int)
  | real (shown : String)
  | text (s : String)
  | moment
  | list (items : Items)
  /-- A list whose elements stand under headers of their own. -/
  | tables (elements : Items)
  | record (members : Members)
  | unfit
  | fault

inductive Items where
  | done
  | broken
  | more (head : Datum) (tail : Items)

inductive Members where
  | done
  | broken
  /-- A key that is well-formed but stands for no text can name nothing. -/
  | more (key : Option String) (value : Datum) (tail : Members)

end

instance : Inhabited Datum := ⟨.fault⟩

namespace Items

def ofList : List Datum → Items
  | [] => .done
  | d :: ds => .more d (ofList ds)

def isDone : Items → Bool
  | .done => true
  | _ => false

end Items

namespace Members

def ofList : List (String × Datum) → Members
  | [] => .done
  | (key, value) :: rest => .more (some key) value (ofList rest)

def isDone : Members → Bool
  | .done => true
  | _ => false

end Members

namespace Datum

def items? : Datum → Option Items
  | .list items => some items
  | .tables elements => some elements
  | _ => none

/-- The members of a record. A moment in time counts as a record with one reserved member. -/
def members? : Datum → Option Members
  | .record members => some members
  | .moment => some (.more (some "$__toml_private_datetime") (.text "") .done)
  | _ => none

end Datum

mutual

/-- Well-formed to its end, which is all that is asked of a value that nobody wants. -/
def Datum.sound : Datum → Bool
  | .fault => false
  | .list items => items.sound
  | .tables elements => elements.sound
  | .record members => members.sound
  | _ => true

def Items.sound : Items → Bool
  | .done => true
  | .broken => false
  | .more head tail => head.sound && tail.sound

def Members.sound : Members → Bool
  | .done => true
  | .broken => false
  | .more _ value tail => value.sound && tail.sound

end

end ServiceProxy
