import ServiceProxy.Json.Numeral
import ServiceProxy.Text.Hexadecimal

/-! JSON text as data trees. A tree reaches as far as the text is well-formed. -/

set_option autoImplicit false

namespace ServiceProxy.Json

def isSpace (c : Char) : Bool := c = ' ' || c = '\n' || c = '\t' || c = '\r'

def skipSpace (cs : List Char) : List Char := cs.dropWhile isSpace

def unit? (a b c d : Char) : Option Nat := do
  return ((← hexValue? a) * 16 + (← hexValue? b)) * 256 + (← hexValue? c) * 16 + (← hexValue? d)

def isHighSurrogate (u : Nat) : Bool := 0xD800 ≤ u && u < 0xDC00

def isLowSurrogate (u : Nat) : Bool := 0xDC00 ≤ u && u < 0xE000

def paired (high low : Nat) : Char := Char.ofNat (0x10000 + (high - 0xD800) * 0x400 + (low - 0xDC00))

def shortEscape? : Char → Option Char
  | '"' => some '"'
  | '\\' => some '\\'
  | '/' => some '/'
  | 'b' => some '\x08'
  | 'f' => some '\x0c'
  | 'n' => some '\n'
  | 'r' => some '\r'
  | 't' => some '\t'
  | _ => none

/-- The code units of a string and the text after its closing quote. The units come in reverse
on top of those read before. -/
def units? (read : List Nat) : List Char → Option (List Nat × List Char)
  | [] => none
  | '"' :: rest => some (read, rest)
  | '\\' :: 'u' :: a :: b :: c :: d :: rest =>
    match unit? a b c d with
    | none => none
    | some u => units? (u :: read) rest
  | '\\' :: c :: rest =>
    match shortEscape? c with
    | none => none
    | some e => units? (e.toNat :: read) rest
  | c :: rest => if c.toNat < 0x20 then none else units? (c.toNat :: read) rest

/-- The text that code units in reverse stand for, in front of some characters. A surrogate
without its partner stands for none. -/
def joinUnits? (after : List Char) : List Nat → Option (List Char)
  | [] => some after
  | [u] => if isHighSurrogate u || isLowSurrogate u then none else some (Char.ofNat u :: after)
  | u :: v :: rest =>
    if isHighSurrogate u then none
    else if isLowSurrogate u then
      if isHighSurrogate v then joinUnits? (paired v u :: after) rest else none
    else joinUnits? (Char.ofNat u :: after) (v :: rest)

/-- The rest of a string after its opening quote. With a lone surrogate in it a string is
well-formed, but it stands for no text. -/
def string? (cs : List Char) : Option (Option String × List Char) := do
  let (units, rest) ← units? [] cs
  return ((joinUnits? [] units).map String.ofList, rest)

def scalar? : List Char → Option (Datum × List Char)
  | '"' :: rest => do
    let (text, rest) ← string? rest
    return (text.elim .unfit .text, rest)
  | 'n' :: 'u' :: 'l' :: 'l' :: rest => some (.null, rest)
  | 't' :: 'r' :: 'u' :: 'e' :: rest => some (.truth true, rest)
  | 'f' :: 'a' :: 'l' :: 's' :: 'e' :: rest => some (.truth false, rest)
  | cs => do
    let (n, rest) ← Numeral.scan? cs
    return (n.datum, rest)

def key? (cs : List Char) : Option (Option String × List Char) :=
  match skipSpace cs with
  | '"' :: rest => string? rest
  | _ => none

mutual

/-- The value at the start of a text and the text after it. Nothing is left to read after a
fault. -/
def value : Nat → List Char → Datum × List Char
  | 0, _ => (.fault, [])
  | fuel + 1, cs =>
    match skipSpace cs with
    | '[' :: rest =>
      match skipSpace rest with
      | ']' :: rest => (.list .done, rest)
      | rest =>
        let (read, rest) := items fuel rest
        (.list read, rest)
    | '{' :: rest =>
      match skipSpace rest with
      | '}' :: rest => (.record .done, rest)
      | rest =>
        let (read, rest) := members fuel rest
        (.record read, rest)
    | cs => (scalar? cs).getD (.fault, [])

def items : Nat → List Char → Items × List Char
  | 0, _ => (.broken, [])
  | fuel + 1, cs =>
    let (head, rest) := value fuel cs
    match skipSpace rest with
    | ',' :: rest =>
      let (tail, rest) := items fuel rest
      (.more head tail, rest)
    | ']' :: rest => (.more head .done, rest)
    | _ => (.more head .broken, [])

def members : Nat → List Char → Members × List Char
  | 0, _ => (.broken, [])
  | fuel + 1, cs =>
    match key? cs with
    | none => (.broken, [])
    | some (key, rest) =>
      match skipSpace rest with
      | ':' :: rest =>
        let (held, rest) := value fuel rest
        match skipSpace rest with
        | ',' :: rest =>
          let (tail, rest) := members fuel rest
          (.more key held tail, rest)
        | '}' :: rest => (.more key held .done, rest)
        | _ => (.more key held .broken, [])
      | _ => (.more key .fault .broken, [])

end

structure Reading where
  datum : Datum
  isWhole : Bool

/-- A call that reads no character leads to one that does, so two calls for each character
are enough. -/
def read (text : String) : Reading :=
  let cs := text.toList
  let (datum, rest) := value (2 * cs.length + 2) cs
  ⟨datum, (skipSpace rest).isEmpty⟩

end ServiceProxy.Json
