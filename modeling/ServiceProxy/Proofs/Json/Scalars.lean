import ServiceProxy.Proofs.Json.Spelling

/-! How far the reader looks in strings and numbers. Main statement: a value that is neither a
list nor a record stands at the front of the text, and is read from there whatever comes after
it, as long as that does not go on with a number. -/

set_option autoImplicit false

namespace ServiceProxy.Json

variable {cs rest more : List Char}

/-! ## Strings -/

/-- The units of a string are the same whatever comes after its closing quote. -/
theorem exists_units {read us : List Nat} (found : units? read cs = some (us, rest)) :
    ∃ w, cs = w ++ rest ∧ ∀ more, units? read (w ++ more) = some (us, more) := by
  -- What was read follows the recursion; only a letter that is no escape by itself asks why no
  -- other case can take it, whatever comes after.
  fun_induction units? read cs with
  | case1 => cases found
  | case2 =>
    cases found
    exact ⟨['"'], rfl, fun more => by rw [List.singleton_append, units?]⟩
  | case3 => cases found
  | case4 read a b c d tail u unit ih =>
    obtain ⟨w, rfl, back⟩ := ih found
    refine ⟨'\\' :: 'u' :: a :: b :: c :: d :: w, rfl, fun more => ?_⟩
    simp only [List.cons_append, units?, unit, back]
  | case5 => cases found
  | case6 read c tail notUnit e short ih =>
    obtain ⟨w, rfl, back⟩ := ih found
    refine ⟨'\\' :: c :: w, rfl, fun more => ?_⟩
    have notU : c ≠ 'u' := by
      rintro rfl
      cases short
    rw [List.cons_append, List.cons_append, units?]
    · simp only [short, back]
    · exact fun _ _ _ _ _ isUnit _ => notU isUnit
  | case7 => cases found
  | case8 read c tail notQuote notUnit notShort shown ih =>
    obtain ⟨w, rfl, back⟩ := ih found
    refine ⟨c :: w, rfl, fun more => ?_⟩
    have notBackslash : c ≠ '\\' := by
      rintro rfl
      cases w with
      | nil => cases back []
      | cons letter w => exact notShort letter _ rfl rfl
    rw [List.cons_append, units?, if_neg shown, back]
    · exact notQuote
    · exact fun _ _ _ _ _ isBackslash => absurd isBackslash notBackslash
    · exact fun _ _ isBackslash => absurd isBackslash notBackslash

theorem exists_string {t : Option String} (found : string? cs = some (t, rest)) :
    ∃ w, cs = w ++ rest ∧ ∀ more, string? (w ++ more) = some (t, more) := by
  unfold string? at found
  cases units : units? [] cs with
  | none => simp [units] at found
  | some read =>
    obtain ⟨us, tail⟩ := read
    obtain ⟨w, rfl, back⟩ := exists_units units
    simp only [units, Option.bind_eq_bind, Option.bind_some, Option.pure_def, Option.some.injEq,
      Prod.mk.injEq] at found
    obtain ⟨rfl, rfl⟩ := found
    refine ⟨w, rfl, fun more => ?_⟩
    simp [string?, back]

/-! ## Numbers -/

def inFrontOf {α : Type} (more : List Char) (read : α × List Char) : α × List Char := (read.1, read.2 ++ more)

theorem Closed.not_number {c : Char} (closed : Closed (c :: rest)) :
    c.isDigit = false ∧ c ∉ ['+', '-', '.', 'e', 'E'] := by
  have mark := closed.head
  simp only [List.mem_cons, List.not_mem_nil, or_false] at mark
  rcases mark with rfl | rfl | rfl | rfl | rfl | rfl | rfl <;> decide

theorem Closed.append_ne (closed : Closed more) {mark : Char} (isMark : mark ∈ ['+', '-', '.', 'e', 'E'])
    (other : ∀ tail, cs ≠ mark :: tail) (tail : List Char) : cs ++ more ≠ mark :: tail := by
  cases cs with
  | nil =>
    rintro rfl
    exact closed.not_number.2 isMark
  | cons c cs =>
    intro same
    exact other cs (by rw [(List.cons.inj same).1])

theorem span_append (closed : Closed more) (cs : List Char) :
    (cs ++ more).span Char.isDigit = inFrontOf more (cs.span Char.isDigit) := by
  rw [List.span_eq_takeWhile_dropWhile, List.span_eq_takeWhile_dropWhile, inFrontOf]
  induction cs with
  | nil =>
    cases more with
    | nil => rfl
    | cons c more => simp [closed.not_number]
  | cons c cs ih =>
    obtain ⟨taken, left⟩ := Prod.mk.inj ih
    rw [List.cons_append, List.takeWhile_cons, List.takeWhile_cons, List.dropWhile_cons, List.dropWhile_cons,
      taken, left]
    split <;> rfl

namespace Numeral

theorem fractionAfter?_append (closed : Closed more) (cs : List Char) :
    fractionAfter? (cs ++ more) = (fractionAfter? cs).map (inFrontOf more) := by
  simp only [fractionAfter?, span_append closed, inFrontOf]
  split <;> rfl

theorem powerAfter?_plus (cs : List Char) :
    powerAfter? ('+' :: cs) = (fractionAfter? cs).map fun read => ((Decimal.value read.1 : Int), read.2) := by
  simp only [powerAfter?, fractionAfter?]
  split <;> rfl

theorem powerAfter?_minus (cs : List Char) :
    powerAfter? ('-' :: cs) = (fractionAfter? cs).map fun read => (-(Decimal.value read.1 : Int), read.2) := by
  simp only [powerAfter?, fractionAfter?]
  split <;> rfl

theorem powerAfter?_unsigned (plus : ∀ tail, cs ≠ '+' :: tail) (minus : ∀ tail, cs ≠ '-' :: tail) :
    powerAfter? cs = (fractionAfter? cs).map fun read => ((Decimal.value read.1 : Int), read.2) := by
  unfold powerAfter?
  split
  rename_i sign
  split at sign
  · exact absurd rfl (plus _)
  · exact absurd rfl (minus _)
  · obtain ⟨rfl, rfl⟩ := Prod.mk.inj sign
    simp only [fractionAfter?]
    split <;> rfl

theorem powerAfter?_append (closed : Closed more) (cs : List Char) :
    powerAfter? (cs ++ more) = (powerAfter? cs).map (inFrontOf more) := by
  by_cases plus : ∃ tail, cs = '+' :: tail
  · obtain ⟨tail, rfl⟩ := plus
    rw [List.cons_append, powerAfter?_plus, powerAfter?_plus, fractionAfter?_append closed]
    cases fractionAfter? tail <;> rfl
  by_cases minus : ∃ tail, cs = '-' :: tail
  · obtain ⟨tail, rfl⟩ := minus
    rw [List.cons_append, powerAfter?_minus, powerAfter?_minus, fractionAfter?_append closed]
    cases fractionAfter? tail <;> rfl
  · rw [not_exists] at plus minus
    rw [powerAfter?_unsigned plus minus, powerAfter?_unsigned (closed.append_ne (by decide) plus)
      (closed.append_ne (by decide) minus), fractionAfter?_append closed]
    cases fractionAfter? cs <;> rfl

theorem scanPower?_append (closed : Closed more) (n : Numeral) (cs : List Char) :
    scanPower? n (cs ++ more) = (scanPower? n cs).map (inFrontOf more) := by
  by_cases small : ∃ tail, cs = 'e' :: tail
  · obtain ⟨tail, rfl⟩ := small
    simp only [List.cons_append, scanPower?, powerAfter?_append closed]
    cases powerAfter? tail <;> rfl
  by_cases large : ∃ tail, cs = 'E' :: tail
  · obtain ⟨tail, rfl⟩ := large
    simp only [List.cons_append, scanPower?, powerAfter?_append closed]
    cases powerAfter? tail <;> rfl
  · rw [not_exists] at small large
    have whole {cs : List Char} (small : ∀ tail, cs ≠ 'e' :: tail) (large : ∀ tail, cs ≠ 'E' :: tail) :
        scanPower? n cs = some (n, cs) := by
      rw [scanPower?]
      · exact small
      · exact large
    rw [whole small large, whole (closed.append_ne (by decide) small) (closed.append_ne (by decide) large)]
    rfl

theorem scanFraction?_append (closed : Closed more) (n : Numeral) (cs : List Char) :
    scanFraction? n (cs ++ more) = (scanFraction? n cs).map (inFrontOf more) := by
  by_cases point : ∃ tail, cs = '.' :: tail
  · obtain ⟨tail, rfl⟩ := point
    simp only [List.cons_append, scanFraction?, fractionAfter?_append closed]
    cases fractionAfter? tail with
    | none => rfl
    | some read => exact scanPower?_append closed _ read.2
  · rw [not_exists] at point
    rw [scanFraction?, scanFraction?, scanPower?_append closed]
    · exact point
    · exact closed.append_ne (by decide) point

def unsigned? (negative : Bool) (cs : List Char) : Option (Numeral × List Char) :=
  let (whole, rest) := cs.span Char.isDigit
  match whole with
  | [] => none
  | '0' :: _ :: _ => none
  | _ => scanFraction? { negative, whole } rest

theorem scan?_minus (cs : List Char) : scan? ('-' :: cs) = unsigned? true cs := rfl

theorem scan?_unsigned (minus : ∀ tail, cs ≠ '-' :: tail) : scan? cs = unsigned? false cs := by
  unfold scan?
  split
  rename_i sign
  split at sign
  · exact absurd rfl (minus _)
  · obtain ⟨rfl, rfl⟩ := Prod.mk.inj sign
    rfl

theorem unsigned?_append (closed : Closed more) (negative : Bool) (cs : List Char) :
    unsigned? negative (cs ++ more) = (unsigned? negative cs).map (inFrontOf more) := by
  simp only [unsigned?, span_append closed, inFrontOf]
  split
  · rfl
  · rfl
  · exact scanFraction?_append closed _ _

theorem scan?_append (closed : Closed more) (cs : List Char) :
    scan? (cs ++ more) = (scan? cs).map (inFrontOf more) := by
  by_cases minus : ∃ tail, cs = '-' :: tail
  · obtain ⟨tail, rfl⟩ := minus
    rw [List.cons_append, scan?_minus, scan?_minus, unsigned?_append closed]
  · rw [not_exists] at minus
    rw [scan?_unsigned minus, scan?_unsigned (closed.append_ne (by decide) minus), unsigned?_append closed]

theorem suffix_of_fractionAfter? {read : List Char × List Char} (found : fractionAfter? cs = some read) :
    read.2 <:+ cs := by
  simp only [fractionAfter?, List.span_eq_takeWhile_dropWhile] at found
  split at found
  · cases found
  · obtain rfl := Option.some.inj found
    exact List.dropWhile_suffix _

theorem suffix_of_powerAfter? {read : Int × List Char} (found : powerAfter? cs = some read) : read.2 <:+ cs := by
  by_cases plus : ∃ tail, cs = '+' :: tail
  · obtain ⟨tail, rfl⟩ := plus
    rw [powerAfter?_plus, Option.map_eq_some_iff] at found
    obtain ⟨digits, fraction, rfl⟩ := found
    exact (suffix_of_fractionAfter? fraction).trans (List.suffix_cons _ _)
  by_cases minus : ∃ tail, cs = '-' :: tail
  · obtain ⟨tail, rfl⟩ := minus
    rw [powerAfter?_minus, Option.map_eq_some_iff] at found
    obtain ⟨digits, fraction, rfl⟩ := found
    exact (suffix_of_fractionAfter? fraction).trans (List.suffix_cons _ _)
  · rw [not_exists] at plus minus
    rw [powerAfter?_unsigned plus minus, Option.map_eq_some_iff] at found
    obtain ⟨digits, fraction, rfl⟩ := found
    exact suffix_of_fractionAfter? fraction

theorem suffix_of_scanPower? {n : Numeral} {read : Numeral × List Char} (found : scanPower? n cs = some read) :
    read.2 <:+ cs := by
  have marked {e : Char} {tail : List Char} (found : (powerAfter? tail).map (fun power =>
      (({ n with power := some power.1 } : Numeral), power.2)) = some read) : read.2 <:+ e :: tail := by
    obtain ⟨power, after, rfl⟩ := Option.map_eq_some_iff.1 found
    exact (suffix_of_powerAfter? after).trans (List.suffix_cons _ _)
  unfold scanPower? at found
  split at found
  · refine marked (Eq.trans ?_ found)
    cases powerAfter? _ <;> rfl
  · refine marked (Eq.trans ?_ found)
    cases powerAfter? _ <;> rfl
  · obtain rfl := Option.some.inj found
    exact List.suffix_rfl

theorem suffix_of_scanFraction? {n : Numeral} {read : Numeral × List Char}
    (found : scanFraction? n cs = some read) : read.2 <:+ cs := by
  unfold scanFraction? at found
  split at found
  · rename_i tail
    cases fraction : fractionAfter? tail with
    | none => simp [fraction] at found
    | some digits =>
      rw [fraction] at found
      exact (suffix_of_scanPower? found).trans ((suffix_of_fractionAfter? fraction).trans (List.suffix_cons _ _))
  · exact suffix_of_scanPower? found

theorem suffix_of_unsigned? {negative : Bool} {read : Numeral × List Char}
    (found : unsigned? negative cs = some read) : read.2 <:+ cs := by
  simp only [unsigned?, List.span_eq_takeWhile_dropWhile] at found
  split at found
  · cases found
  · cases found
  · exact (suffix_of_scanFraction? found).trans (List.dropWhile_suffix _)

theorem suffix_of_scan? {read : Numeral × List Char} (found : scan? cs = some read) : read.2 <:+ cs := by
  by_cases minus : ∃ tail, cs = '-' :: tail
  · obtain ⟨tail, rfl⟩ := minus
    exact (suffix_of_unsigned? (scan?_minus tail ▸ found)).trans (List.suffix_cons _ _)
  · rw [not_exists] at minus
    exact suffix_of_unsigned? (scan?_unsigned minus ▸ found)

theorem exists_number {n : Numeral} (found : scan? cs = some (n, rest)) (closed : Closed rest) :
    ∃ w, cs = w ++ rest ∧ ∀ more, Closed more → scan? (w ++ more) = some (n, more) := by
  obtain ⟨w, rfl⟩ := suffix_of_scan? found
  refine ⟨w, rfl, fun more closed' => ?_⟩
  rw [scan?_append closed, Option.map_eq_some_iff] at found
  obtain ⟨⟨m, after⟩, alone, same⟩ := found
  -- Nothing of the number is left, as what closes it stays as it is.
  obtain ⟨rfl, left⟩ := Prod.mk.inj same
  obtain rfl : after = [] := List.append_left_eq_self.1 left
  rw [scan?_append closed', alone, Option.map_some, inFrontOf, List.nil_append]

theorem exists_of_scan? {read : Numeral × List Char} (found : scan? cs = some read) :
    ∃ c tail, cs = c :: tail ∧ c ∉ [' ', '\n', '\t', '\r', '[', ']', '{', '}', '"', 'n', 't', 'f'] := by
  cases cs with
  | nil => cases found
  | cons c tail =>
    refine ⟨c, tail, rfl, fun other => ?_⟩
    simp only [List.mem_cons, List.not_mem_nil, or_false] at other
    rcases other with rfl | rfl | rfl | rfl | rfl | rfl | rfl | rfl | rfl | rfl | rfl | rfl <;>
      simp [scan?, List.span_eq_takeWhile_dropWhile] at found

end Numeral

theorem scalar?_of_scan? {read : Numeral × List Char} (found : Numeral.scan? cs = some read) :
    scalar? cs = some (read.1.datum, read.2) := by
  obtain ⟨c, tail, rfl, other⟩ := Numeral.exists_of_scan? found
  have starts {mark : Char} (isMark : mark ∈ ['"', 'n', 't', 'f']) {tail' : List Char} :
      c :: tail ≠ mark :: tail' := by
    intro same
    rw [(List.cons.inj same).1] at other
    exact other (List.mem_append_right [' ', '\n', '\t', '\r', '[', ']', '{', '}'] isMark)
  rw [scalar?, found]
  · rfl
  · exact fun _ => starts (by decide)
  · exact fun _ => starts (by decide)
  · exact fun _ => starts (by decide)
  · exact fun _ => starts (by decide)

theorem exists_scalar {d : Datum} (found : scalar? cs = some (d, rest)) (closed : Closed rest) :
    ∃ w, cs = w ++ rest ∧ ∀ more, Closed more → scalar? (w ++ more) = some (d, more) := by
  unfold scalar? at found
  split at found
  · rename_i tail
    cases text : string? tail with
    | none => simp [text] at found
    | some read =>
      obtain ⟨t, after⟩ := read
      simp only [text, Option.bind_eq_bind, Option.bind_some, Option.pure_def, Option.some.injEq,
        Prod.mk.injEq] at found
      obtain ⟨rfl, rfl⟩ := found
      obtain ⟨w, rfl, back⟩ := exists_string text
      exact ⟨'"' :: w, rfl, fun more _ => by simp [scalar?, back]⟩
  · cases found
    exact ⟨['n', 'u', 'l', 'l'], rfl, fun _ _ => rfl⟩
  · cases found
    exact ⟨['t', 'r', 'u', 'e'], rfl, fun _ _ => rfl⟩
  · cases found
    exact ⟨['f', 'a', 'l', 's', 'e'], rfl, fun _ _ => rfl⟩
  · cases number : Numeral.scan? cs with
    | none => simp [number] at found
    | some read =>
      simp only [number, Option.bind_eq_bind, Option.bind_some, Option.pure_def, Option.some.injEq,
        Prod.mk.injEq] at found
      obtain ⟨rfl, rfl⟩ := found
      obtain ⟨w, rfl, back⟩ := Numeral.exists_number number closed
      exact ⟨w, rfl, fun more closed' => scalar?_of_scan? (back more closed')⟩

end ServiceProxy.Json
