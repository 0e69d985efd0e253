import ServiceProxy.Proofs.Text.Lines

/-! Reading a text line by line. A reader checks fixed lines, takes fields from lines with a
known lead, and repeats blocks for as long as the next line opens one. Main statement: blocks
that are read back one by one are read back together. -/

set_option autoImplicit false

namespace ServiceProxy.Document

/-- Readers take lines from the front of those that are left. -/
abbrev LineReader := StateT (List String) Option

namespace LineReader

variable {α : Type}

def line : LineReader String := do
  match ← get with
  | [] => failure
  | next :: rest =>
    set rest
    return next

def field (lead : String) (read : String → Option α) : LineReader α := do
  let text ← line
  liftM ((after? lead text).bind read)

def fixed : List String → LineReader Unit
  | [] => return ()
  | expected :: rest => do
    if (← line) = expected then fixed rest else failure

def blocks (opens : String → Bool) (block : LineReader α) : Nat → LineReader (List α)
  | 0 => return []
  | limit + 1 => do
    if (← get).head?.any opens then
      let first ← block
      let others ← blocks opens block limit
      return first :: others
    else return []

/-- A block takes at least one line, so the number of lines bounds the number of blocks. -/
def allBlocks (opens : String → Bool) (block : LineReader α) : LineReader (List α) := do
  blocks opens block (← get).length

@[simp] theorem run_line (next : String) (rest : List String) :
    line.run (next :: rest) = some (next, rest) := rfl

@[simp] theorem run_field (lead : String) (read : String → Option α) (text : String)
    (rest : List String) :
    (field lead read).run ((lead ++ text) :: rest) = (read text).map (·, rest) := by
  simp only [field, StateT.run_bind, run_line, Option.bind_eq_bind, Option.bind_some, after?_append]
  cases read text <;> rfl

@[simp] theorem run_fixed_nil (rest : List String) : (fixed []).run rest = some ((), rest) := rfl

@[simp] theorem run_fixed_cons (line : String) (expected rest : List String) :
    (fixed (line :: expected)).run (line :: rest) = (fixed expected).run rest := by
  simp only [fixed, StateT.run_bind, run_line, Option.bind_eq_bind, Option.bind_some, if_true]

@[simp] theorem run_fixed (expected rest : List String) :
    (fixed expected).run (expected ++ rest) = some ((), rest) := by
  induction expected with
  | nil => rfl
  | cons first others ih => rw [List.cons_append, run_fixed_cons, ih]

/-- A block is told by its first line, and reads back wherever another block or the end of the
blocks is behind it. -/
structure Delimits (opens : String → Bool) (block : LineReader α) (written : α → List String)
    (behind : List String → Prop) : Prop where
  opening (x : α) : (written x).head?.any opens = true
  reads (x : α) (rest : List String) : behind rest → block.run (written x ++ rest) = some (x, rest)
  next (x : α) (rest : List String) : behind (written x ++ rest)

section

variable {opens : String → Bool} {block : LineReader α} {written : α → List String}
  {behind : List String → Prop}

theorem Delimits.exists_line (delimits : Delimits opens block written behind) (x : α) :
    ∃ first others, written x = first :: others ∧ opens first = true := by
  have opening := delimits.opening x
  cases lines : written x with
  | nil => simp [lines] at opening
  | cons first others => exact ⟨first, others, rfl, by simpa [lines] using opening⟩

theorem Delimits.length_le (delimits : Delimits opens block written behind) (xs : List α) :
    xs.length ≤ (xs.flatMap written).length := by
  induction xs with
  | nil => exact Nat.zero_le _
  | cons x others ih =>
    obtain ⟨first, more, lines, -⟩ := delimits.exists_line x
    rw [List.flatMap_cons, List.length_append, lines, List.length_cons, List.length_cons]
    omega

theorem Delimits.opened (delimits : Delimits opens block written behind) (x : α) (rest : List String) :
    (written x ++ rest).head?.any opens = true := by
  obtain ⟨first, others, lines, opened⟩ := delimits.exists_line x
  simpa [lines] using opened

theorem Delimits.follow (delimits : Delimits opens block written behind) {rest : List String}
    (last : behind rest) (others : List α) : behind (others.flatMap written ++ rest) := by
  cases others with
  | nil => exact last
  | cons next more =>
    rw [List.flatMap_cons, List.append_assoc]
    exact delimits.next next _

theorem Delimits.run_blocks (delimits : Delimits opens block written behind) {rest : List String}
    (last : behind rest) (closed : rest.head?.any opens = false) (xs : List α) {limit : Nat}
    (enough : xs.length ≤ limit) :
    (blocks opens block limit).run (xs.flatMap written ++ rest) = some (xs, rest) := by
  induction xs generalizing limit with
  | nil =>
    cases limit with
    | zero => rfl
    | succ limit => simp [blocks, closed]
  | cons x others ih =>
    obtain ⟨limit, rfl⟩ : ∃ n, limit = n + 1 := ⟨limit - 1, by simp at enough; omega⟩
    have opened := delimits.opened x (others.flatMap written ++ rest)
    have first := delimits.reads x _ (delimits.follow last others)
    have others := @ih limit (by simpa using enough)
    rw [List.flatMap_cons, List.append_assoc]
    unfold blocks
    rw [StateT.run_bind, StateT.run_get, Option.pure_def, Option.bind_eq_bind, Option.bind_some,
      if_pos opened]
    simp [first, others]

theorem Delimits.run_allBlocks (delimits : Delimits opens block written behind) {rest : List String}
    (last : behind rest) (closed : rest.head?.any opens = false) (xs : List α) :
    (allBlocks opens block).run (xs.flatMap written ++ rest) = some (xs, rest) := by
  have enough := delimits.length_le xs
  unfold allBlocks
  rw [StateT.run_bind, StateT.run_get, Option.pure_def, Option.bind_eq_bind, Option.bind_some]
  exact delimits.run_blocks last closed xs (by rw [List.length_append]; omega)

end

end LineReader

end ServiceProxy.Document
