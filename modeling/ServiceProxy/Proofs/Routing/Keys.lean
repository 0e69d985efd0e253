import ServiceProxy.Routing.Key

/-! Reading routing keys from their texts. Main statement: a key is read back from its text, so
distinct keys have distinct texts. -/

set_option autoImplicit false

namespace ServiceProxy

theorem Decimal.isDigit_of_mem_text {n : Nat} {c : Char} (member : c ∈ (Decimal.text n).toList) :
    c.isDigit = true := by
  rw [Decimal.toList_text] at member
  exact Nat.isDigit_of_mem_toDigits (by decide) (by decide) member

theorem Decimal.read?_text (n : Nat) : Decimal.read? (Decimal.text n).toList = some n := by
  have digits : (Decimal.text n).toList.all Char.isDigit = true :=
    List.all_eq_true.2 fun _ member => Decimal.isDigit_of_mem_text member
  have filled : (Decimal.text n).toList ≠ [] := by
    rw [Decimal.toList_text]
    exact Nat.toDigits_ne_nil
  rw [Decimal.read?, if_pos ⟨filled, digits⟩, Decimal.toList_text, Decimal.value_toDigits]

def Decimal.readPort? (digits : List Char) : Option Port := do
  let n ← Decimal.read? digits
  if n < UInt16.size then some (UInt16.ofNat n) else none

@[simp] theorem Decimal.readPort?_port (p : Port) :
    Decimal.readPort? (Decimal.port p).toList = some p := by
  have bounded : p.toNat < UInt16.size := p.toNat_lt
  rw [readPort?, Decimal.port, Decimal.read?_text]
  simp [bounded]

def Protocol.ofName? (name : String) : Option Protocol :=
  [Protocol.tcp, .udp, .sctp].find? fun p => p.name = name

@[simp] theorem Protocol.ofName?_name (p : Protocol) : Protocol.ofName? p.name = some p := by
  cases p <;> rfl

namespace Routing.Key

def read? (text : String) : Option Key :=
  match text.toList.splitOn '_' with
  | [family, port, protocol] => do
    return ⟨← Family.ofLabel? (String.ofList family), ← Decimal.readPort? port,
      ← Protocol.ofName? (String.ofList protocol)⟩
  | _ => none

theorem splitOn_text (k : Key) :
    k.text.toList.splitOn '_' =
      [k.family.name.toList, (Decimal.port k.port).toList, k.protocol.name.toList] := by
  -- Names hold letters and digits, and ports digits, so the underscores are the separators.
  have family : '_' ∉ k.family.name.toList := by cases k.family <;> decide
  have protocol : '_' ∉ k.protocol.name.toList := by cases k.protocol <;> decide
  have port : '_' ∉ (Decimal.port k.port).toList := by
    intro member
    have digit := Decimal.isDigit_of_mem_text member
    simp at digit
  have joined : k.text.toList =
      k.family.name.toList ++ '_' :: ((Decimal.port k.port).toList ++ '_' :: k.protocol.name.toList) := by
    simp [text]
  rw [joined, List.splitOn_append_cons_self_of_not_mem family,
    List.splitOn_append_cons_self_of_not_mem port, List.splitOn_eq_singleton protocol]

@[simp] theorem read?_text (k : Key) : read? k.text = some k := by
  simp [read?, splitOn_text]

theorem text_injective {k l : Key} (same : k.text = l.text) : k = l := by
  have read := congrArg read? same
  rw [read?_text, read?_text] at read
  exact Option.some.inj read

end Routing.Key

end ServiceProxy
