import ServiceProxy.Text.Hexadecimal
import ServiceProxy.Toml.Blank

/-! Strings and keys of TOML text. Each reader takes the text after the opening quotes, and what
has been read of the string in reverse. -/

set_option autoImplicit false

namespace ServiceProxy.Toml

/-- The character with a code point in hexadecimal; surrogates are no characters. -/
def codePoint? (digits : List Char) : Option Char := do
  let n ← baseValue? 16 digits
  if n.isValidChar then return Char.ofNat n else none

def shortEscape? : Char → Option Char
  | '"' => some '"'
  | '\\' => some '\\'
  | 'b' => some '\x08'
  | 'f' => some '\x0c'
  | 'n' => some '\n'
  | 'r' => some '\r'
  | 't' => some '\t'
  | _ => none

def finish (read : List Char) : String := String.ofList read.reverse

def basic? (read : List Char) : List Char → Option (String × List Char)
  | [] => none
  | '"' :: rest => some (finish read, rest)
  | '\\' :: 'u' :: a :: b :: c :: d :: rest =>
    match codePoint? [a, b, c, d] with
    | none => none
    | some x => basic? (x :: read) rest
  | '\\' :: 'U' :: a :: b :: c :: d :: e :: f :: g :: h :: rest =>
    match codePoint? [a, b, c, d, e, f, g, h] with
    | none => none
    | some x => basic? (x :: read) rest
  | '\\' :: c :: rest =>
    match shortEscape? c with
    | none => none
    | some x => basic? (x :: read) rest
  | c :: rest => if isShown c then basic? (c :: read) rest else none

def literal? (read : List Char) : List Char → Option (String × List Char)
  | [] => none
  | '\x27' :: rest => some (finish read, rest)
  | c :: rest => if isShown c then literal? (c :: read) rest else none

/-- Where a string over several lines stands: in its text, after a backslash that has to be
followed by a line end, or in the blank that such a backslash removes. -/
inductive Fold where
  | text
  | seeking
  | trimming
  deriving DecidableEq

/-- A basic string over several lines. Up to two quotes may stand before the closing three. -/
def basicLines? (fold : Fold) (read : List Char) : List Char → Option (String × List Char)
  | [] => none
  | '\n' :: rest =>
    if fold = .text then basicLines? .text ('\n' :: read) rest else basicLines? .trimming read rest
  | '\r' :: '\n' :: rest =>
    if fold = .text then basicLines? .text ('\n' :: read) rest else basicLines? .trimming read rest
  | '"' :: '"' :: '"' :: '"' :: '"' :: rest =>
    if fold = .seeking then none else some (finish ('"' :: '"' :: read), rest)
  | '"' :: '"' :: '"' :: '"' :: rest =>
    if fold = .seeking then none else some (finish ('"' :: read), rest)
  | '"' :: '"' :: '"' :: rest => if fold = .seeking then none else some (finish read, rest)
  | '\\' :: 'u' :: a :: b :: c :: d :: rest =>
    if fold = .seeking then none
    else
      match codePoint? [a, b, c, d] with
      | none => none
      | some x => basicLines? .text (x :: read) rest
  | '\\' :: 'U' :: a :: b :: c :: d :: e :: f :: g :: h :: rest =>
    if fold = .seeking then none
    else
      match codePoint? [a, b, c, d, e, f, g, h] with
      | none => none
      | some x => basicLines? .text (x :: read) rest
  | '\\' :: c :: rest =>
    if fold = .seeking then none
    else if isSpace c then basicLines? .seeking read rest
    else if c = '\n' then basicLines? .trimming read rest
    else if c = '\r' then
      match rest with
      | '\n' :: rest => basicLines? .trimming read rest
      | _ => none
    else
      match shortEscape? c with
      | none => none
      | some x => basicLines? .text (x :: read) rest
  | c :: rest =>
    if fold ≠ .text ∧ isSpace c then basicLines? fold read rest
    else if fold = .seeking then none
    else if isShown c then basicLines? .text (c :: read) rest
    else none

def literalLines? (read : List Char) : List Char → Option (String × List Char)
  | [] => none
  | '\n' :: rest => literalLines? ('\n' :: read) rest
  | '\r' :: '\n' :: rest => literalLines? ('\n' :: read) rest
  | '\x27' :: '\x27' :: '\x27' :: '\x27' :: '\x27' :: rest =>
    some (finish ('\x27' :: '\x27' :: read), rest)
  | '\x27' :: '\x27' :: '\x27' :: '\x27' :: rest => some (finish ('\x27' :: read), rest)
  | '\x27' :: '\x27' :: '\x27' :: rest => some (finish read, rest)
  | c :: rest => if isShown c then literalLines? (c :: read) rest else none

/-- A line end directly after the opening quotes is not part of the string. -/
def dropFirstLineEnd : List Char → List Char
  | '\n' :: rest => rest
  | '\r' :: '\n' :: rest => rest
  | cs => cs

def string? : List Char → Option (String × List Char)
  | '"' :: '"' :: '"' :: rest => basicLines? .text [] (dropFirstLineEnd rest)
  | '"' :: rest => basic? [] rest
  | '\x27' :: '\x27' :: '\x27' :: rest => literalLines? [] (dropFirstLineEnd rest)
  | '\x27' :: rest => literal? [] rest
  | _ => none

def isBare (c : Char) : Bool := c.isAlphanum || c = '_' || c = '-'

def segment? : List Char → Option (String × List Char)
  | '"' :: rest => basic? [] rest
  | '\x27' :: rest => literal? [] rest
  | cs =>
    let (bare, rest) := cs.span isBare
    if bare.isEmpty then none else some (String.ofList bare, rest)

/-- A key of one or more segments between dots, and the text after it and the space behind it. -/
def key? : Nat → List Char → Option (List String × List Char)
  | 0, _ => none
  | fuel + 1, cs => do
    let (segment, rest) ← segment? cs
    match skipSpace rest with
    | '.' :: rest =>
      let (segments, rest) ← key? fuel (skipSpace rest)
      return (segment :: segments, rest)
    | rest => return ([segment], rest)

end ServiceProxy.Toml
