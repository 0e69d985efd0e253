import ServiceProxy.Proofs.Document.Acceptance
import ServiceProxy.Proofs.Routing.Enumeration

/-! Which address rendering names. The rule for plain scalars is spelt out on its own here. Main
statement: rendering fails exactly for models with an address that breaks the rule for its role,
and then names the first one in ascending order of the entries' key texts. -/

set_option autoImplicit false

namespace ServiceProxy

namespace Scalar

def whiteSpaces : List Nat :=
  [0x9, 0xA, 0xB, 0xC, 0xD, 0x20, 0x85, 0xA0, 0x1680, 0x2000, 0x2001, 0x2002, 0x2003, 0x2004, 0x2005,
    0x2006, 0x2007, 0x2008, 0x2009, 0x200A, 0x2028, 0x2029, 0x202F, 0x205F, 0x3000]

/-- A character that stands in no plain scalar. -/
inductive Unfit (c : Char) : Prop
  | white (listed : c.toNat ∈ whiteSpaces)
  | control (range : c.toNat < 0x20 ∨ 0x7F ≤ c.toNat ∧ c.toNat < 0xA0)
  | indicator (listed : c ∈ ['#', ',', '{', '}', '[', ']', '"', '\x27'])

def SameLetters (s t : String) : Prop := s.toList.map Char.toLower = t.toList.map Char.toLower

/-- How a text breaks the rule for plain scalars. -/
inductive Violates (text : String) : Prop
  | nothing (isEmpty : text = "")
  | character {c : Char} (member : c ∈ text.toList) (unfit : Unfit c)
  | leader {c : Char} (first : text.toList.head? = some c)
      (listed : c ∈ ['-', '?', '*', '&', '!', '|', '>', '%', '@', '\x60'])
  | word {w : String} (same : SameLetters text w)
      (listed : w ∈ ["~", "null", "true", "false", "yes", "no", "on", "off"])

theorem isBlank_iff {c : Char} : isBlank c = true ↔ c.toNat ∈ whiteSpaces := by
  simp only [isBlank, whiteSpaces, Bool.or_eq_true, Bool.and_eq_true, decide_eq_true_eq, beq_iff_eq,
    List.mem_cons, List.not_mem_nil, or_false]
  omega

theorem isForbidden_iff {c : Char} : isForbidden c = true ↔ Unfit c := by
  simp only [isForbidden, Bool.or_eq_true, isBlank_iff, List.contains_iff_mem]
  constructor
  · rintro ((white | control) | indicator)
    · exact .white white
    · refine .control ?_
      simp only [isControl, Bool.or_eq_true, Bool.and_eq_true, decide_eq_true_eq] at control
      omega
    · exact .indicator indicator
  · rintro (white | control | indicator)
    · exact .inl (.inl white)
    · refine .inl (.inr ?_)
      simp only [isControl, Bool.or_eq_true, Bool.and_eq_true, decide_eq_true_eq]
      omega
    · exact .inr indicator

theorem mem_reserved_iff {text : String} :
    text.toList.map Char.toLower ∈ reserved ↔
      ∃ w ∈ ["~", "null", "true", "false", "yes", "no", "on", "off"], SameLetters text w := by
  have lower : reserved = ["~", "null", "true", "false", "yes", "no", "on", "off"].map
      fun w : String => w.toList.map Char.toLower := by decide
  rw [lower, List.mem_map]
  simp only [SameLetters, eq_comm]

theorem isPlain_eq_false_iff {text : String} : isPlain text = false ↔ Violates text := by
  have words := @mem_reserved_iff text
  unfold isPlain
  cases chars : text.toList with
  | nil => exact iff_of_true rfl (.nothing (String.toList_eq_nil_iff.1 chars))
  | cons c cs =>
    rw [chars] at words
    simp only [isPlainChars, Bool.and_eq_false_iff, Bool.not_eq_false', List.any_eq_true,
      List.contains_iff_mem, isForbidden_iff, words]
    constructor
    · rintro ((⟨d, member, unfit⟩ | listed) | ⟨w, listed, same⟩)
      · exact .character (chars ▸ member) unfit
      · exact .leader (by rw [chars]; rfl) listed
      · exact .word same listed
    · rintro (isEmpty | ⟨member, unfit⟩ | ⟨first, listed⟩ | ⟨same, listed⟩)
      · rw [isEmpty] at chars
        cases chars
      · exact .inl (.inl ⟨_, chars ▸ member, unfit⟩)
      · rw [chars] at first
        cases first
        exact .inl (.inr listed)
      · exact .inr ⟨_, listed, same⟩

end Scalar

namespace Routing

open Text

/-- A listener may in addition bind the IPv6 wildcard in its quotes; a backend may not. -/
def AddressRole.Refuses : AddressRole → String → Prop
  | .listener, address => address ≠ "\"::\"" ∧ Scalar.Violates address
  | .backend, address => Scalar.Violates address

theorem AddressRole.accepts_eq_false_iff {role : AddressRole} {address : String} :
    role.accepts address = false ↔ role.Refuses address := by
  cases role with
  | backend => exact Scalar.isPlain_eq_false_iff
  | listener =>
    simp only [accepts, Scalar.isListener, Bool.or_eq_false_iff, beq_eq_false_iff_ne,
      Scalar.isPlain_eq_false_iff, Refuses, Family.wildcard]

theorem AddressRole.accepts_iff {role : AddressRole} {address : String} :
    role.accepts address = true ↔ ¬role.Refuses address := by
  rw [← Bool.not_eq_false, accepts_eq_false_iff]

namespace Entry

structure Clean (e : Entry) : Prop where
  listener : ¬AddressRole.listener.Refuses e.listener.address
  cluster : ∀ b ∈ e.cluster, ¬AddressRole.backend.Refuses b.address

/-- The first address of an entry that is refused: the listener's, or else the first one of the
cluster. -/
inductive FirstRefused (e : Entry) : Unrepresentable → Prop
  | listener (refused : AddressRole.listener.Refuses e.listener.address) :
      FirstRefused e ⟨.listener, e.listener.address⟩
  | backend {before after : List Endpoint} {b : Endpoint}
      (clean : ¬AddressRole.listener.Refuses e.listener.address) (split : e.cluster = before ++ b :: after)
      (earlier : ∀ c ∈ before, ¬AddressRole.backend.Refuses c.address)
      (refused : AddressRole.backend.Refuses b.address) : FirstRefused e ⟨.backend, b.address⟩

def offender? (e : Entry) : Option Unrepresentable :=
  e.addresses.find? fun u => !u.role.accepts u.address

variable {e : Entry} {u : Unrepresentable}

theorem offender?_eq_none_iff : e.offender? = none ↔ e.Clean := by
  simp only [offender?, addresses, List.find?_eq_none, Bool.not_eq_true', List.forall_mem_cons,
    List.forall_mem_map, AddressRole.accepts_eq_false_iff]
  exact ⟨fun ⟨listener, cluster⟩ => ⟨listener, cluster⟩, fun clean => ⟨clean.listener, clean.cluster⟩⟩

theorem accepted_iff : e.Accepted ↔ e.Clean := by
  rw [← offender?_eq_none_iff, offender?, List.find?_eq_none]
  simp only [Accepted, Bool.not_eq_true', Bool.not_eq_false]

theorem offender?_eq_some_iff : e.offender? = some u ↔ e.FirstRefused u := by
  -- The listener's address stands first in the list, so it decides before the cluster does.
  unfold offender? addresses
  rw [List.find?_cons]
  cases accepted : AddressRole.listener.accepts e.listener.address with
  | false =>
    have refused := AddressRole.accepts_eq_false_iff.1 accepted
    simp only [Bool.not_false, Option.some.injEq]
    constructor
    · rintro rfl
      exact .listener refused
    · rintro (_ | clean)
      · rfl
      · exact absurd refused clean
  | true =>
    have clean := AddressRole.accepts_iff.1 accepted
    simp only [Bool.not_true, List.find?_map, Option.map_eq_some_iff, List.find?_eq_some_iff_append,
      Function.comp_def, Bool.not_eq_true', Bool.not_eq_false', AddressRole.accepts_eq_false_iff,
      AddressRole.accepts_iff]
    constructor
    · rintro ⟨b, ⟨rejected, before, after, split, earlier⟩, rfl⟩
      exact .backend clean split earlier rejected
    · rintro (rejected | ⟨-, split, earlier, rejected⟩)
      · exact absurd rejected clean
      · exact ⟨_, ⟨rejected, _, _, split, earlier⟩, rfl⟩

end Entry

namespace Model

variable {m : Model} {u : Unrepresentable}

theorem offender?_eq (m : Model) : m.offender? = m.sortedEntries.findSome? fun a => a.2.offender? := by
  unfold offender? Entry.offender?
  rw [List.find?_flatMap]

theorem mem_front_iff {before after : List (String × Entry)} {a : String × Entry}
    (split : m.sortedEntries = before ++ a :: after) (c : String × Entry) :
    c ∈ before ↔ c ∈ m.sortedEntries ∧ bytes c.1 < bytes a.1 := by
  have ascending := m.sortedEntries_ascending
  rw [split, List.pairwise_append, List.pairwise_cons] at ascending
  obtain ⟨-, ⟨behind, -⟩, front⟩ := ascending
  rw [split, List.mem_append, List.mem_cons]
  constructor
  · intro member
    exact ⟨.inl member, front c member a List.mem_cons_self⟩
  · rintro ⟨member | rfl | member, smaller⟩
    · exact member
    · exact absurd smaller (List.lt_irrefl _)
    · exact absurd smaller (List.lt_asymm (behind c member))

theorem mem_sortedEntries {a : String × Entry} :
    a ∈ m.sortedEntries ↔ ∃ b ∈ m.entries, (b.1.text, b.2) = a := by
  rw [m.perm_sortedEntries.mem_iff, List.mem_map]

theorem offender?_eq_some_iff :
    m.offender? = some u ↔ ∃ b ∈ m.entries, b.2.FirstRefused u ∧
      ∀ c ∈ m.entries, bytes c.1.text < bytes b.1.text → c.2.Clean := by
  rw [offender?_eq, List.findSome?_eq_some_iff]
  constructor
  · rintro ⟨before, a, after, split, found, clean⟩
    have member : a ∈ m.sortedEntries := split ▸ List.mem_append_right _ List.mem_cons_self
    obtain ⟨b, isEntry, rfl⟩ := mem_sortedEntries.1 member
    refine ⟨b, isEntry, Entry.offender?_eq_some_iff.1 found, fun c other smaller => ?_⟩
    have before := (mem_front_iff split _).2 ⟨mem_sortedEntries.2 ⟨c, other, rfl⟩, smaller⟩
    exact Entry.offender?_eq_none_iff.1 (clean _ before)
  · rintro ⟨b, isEntry, refused, clean⟩
    obtain ⟨before, after, split⟩ := List.append_of_mem (mem_sortedEntries.2 ⟨b, isEntry, rfl⟩)
    refine ⟨before, _, after, split, Entry.offender?_eq_some_iff.2 refused, fun a front => ?_⟩
    obtain ⟨member, smaller⟩ := (mem_front_iff split a).1 front
    obtain ⟨c, other, rfl⟩ := mem_sortedEntries.1 member
    exact Entry.offender?_eq_none_iff.2 (clean c other smaller)

/-- Rendering gives a document exactly if no address is refused. Otherwise it fails with the role
and the text of the first refused one: no entry with a smaller key text has any, and in its own
entry it is the listener's or, after an accepted listener, the first of the cluster. It fails in
no other way. -/
theorem render_names_first_refused (m : Model) :
    ((∃ document, m.render.run.value = .ok document) ↔ ∀ b ∈ m.entries, b.2.Clean) ∧
    ∀ u, m.render.run.value = .error u ↔
      ∃ b ∈ m.entries, b.2.FirstRefused u ∧
        ∀ c ∈ m.entries, bytes c.1.text < bytes b.1.text → c.2.Clean := by
  refine ⟨?_, fun u => ?_⟩
  · simp only [← Entry.accepted_iff, ← offender?_eq_none_iff, render_value]
    cases m.offender? <;> simp
  · rw [← offender?_eq_some_iff, render_value]
    cases m.offender? <;> simp

/-- The quoted wildcard may be bound but not be forwarded to. -/
example : (ofHistory 32000
    [(⟨.ipv4, 80, .tcp⟩, ⟨⟨"0.0.0.0", 80, .tcp⟩, [⟨"NULL", 1, .tcp⟩]⟩),
     (⟨.ipv4, 8080, .tcp⟩, ⟨⟨"\"::\"", 8080, .tcp⟩, [⟨"a", 2, .tcp⟩, ⟨"\"::\"", 3, .tcp⟩]⟩)]).offender? =
      some ⟨.backend, "\"::\""⟩ := by decide

end Model

end Routing

end ServiceProxy
