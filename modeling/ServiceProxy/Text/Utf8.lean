/-! UTF-8 text with mistakes in it. Each longest piece that could still have become a character
is shown as one replacement character, and so is each byte that starts none. -/

set_option autoImplicit false

namespace ServiceProxy.Utf8

def replacement : Char := '\ufffd'

/-- The ranges of the bytes that still belong to a character, and its value so far. -/
structure Partial where
  ranges : List (Nat × Nat) := []
  value : Nat := 0

def tail : Nat × Nat := (0x80, 0xBF)

/-- What a byte shows and begins when it stands where a character starts. The second byte is
bounded so that no surrogate, no overlong form and nothing past the last code point begins. -/
def start (b : Nat) : List Char × Partial :=
  if b < 0x80 then ([Char.ofNat b], {})
  else if b < 0xC2 then ([replacement], {})
  else if b < 0xE0 then ([], ⟨[tail], b - 0xC0⟩)
  else if b = 0xE0 then ([], ⟨[(0xA0, 0xBF), tail], 0⟩)
  else if b = 0xED then ([], ⟨[(0x80, 0x9F), tail], 0xD⟩)
  else if b < 0xF0 then ([], ⟨[tail, tail], b - 0xE0⟩)
  else if b = 0xF0 then ([], ⟨[(0x90, 0xBF), tail, tail], 0⟩)
  else if b < 0xF4 then ([], ⟨[tail, tail, tail], b - 0xF0⟩)
  else if b = 0xF4 then ([], ⟨[(0x80, 0x8F), tail, tail], 4⟩)
  else ([replacement], {})

def shownFrom : Partial → List UInt8 → List Char
  | ⟨[], _⟩, [] => []
  | ⟨_ :: _, _⟩, [] => [replacement]
  | ⟨[], _⟩, b :: rest =>
    let (shown, next) := start b.toNat
    shown ++ shownFrom next rest
  | ⟨(first, last) :: ranges, value⟩, b :: rest =>
    if first ≤ b.toNat ∧ b.toNat ≤ last then
      let value := value * 64 + b.toNat % 64
      match ranges with
      | [] => Char.ofNat value :: shownFrom {} rest
      | ranges => shownFrom ⟨ranges, value⟩ rest
    else
      let (shown, next) := start b.toNat
      replacement :: (shown ++ shownFrom next rest)

def shown (bytes : ByteArray) : String := String.ofList (shownFrom {} bytes.toList)

end ServiceProxy.Utf8
