/-! Space, line ends and comments of TOML text. -/

set_option autoImplicit false

namespace ServiceProxy.Toml

def isSpace (c : Char) : Bool := c = ' ' || c = '\t'

def skipSpace (cs : List Char) : List Char := cs.dropWhile isSpace

/-- Characters that strings and comments may hold as they are. -/
def isShown (c : Char) : Bool := c = '\t' || (0x20 ≤ c.toNat && c.toNat ≠ 0x7F)

/-- The text after the line end that closes a comment; the text's end closes it too. -/
def afterComment? : List Char → Option (List Char)
  | [] => some []
  | '\n' :: rest => some rest
  | '\r' :: '\n' :: rest => some rest
  | c :: rest => if isShown c then afterComment? rest else none

def afterLine? (cs : List Char) : Option (List Char) :=
  match skipSpace cs with
  | [] => some []
  | '\n' :: rest => some rest
  | '\r' :: '\n' :: rest => some rest
  | '#' :: rest => afterComment? rest
  | _ => none

def skipFiller? (inComment : Bool) : List Char → Option (List Char)
  | [] => some []
  | '\n' :: rest => skipFiller? false rest
  | '\r' :: '\n' :: rest => skipFiller? false rest
  | c :: rest =>
    if inComment then
      if isShown c then skipFiller? true rest else none
    else if isSpace c then skipFiller? false rest
    else if c = '#' then skipFiller? true rest
    else some (c :: rest)

end ServiceProxy.Toml
