import ServiceProxy.Document.Render
import ServiceProxy.Proofs.Routing.Sorting
import ServiceProxy.Proofs.Text.Lines

/-! Which models render. Rendering succeeds exactly when every address is accepted in its role,
and an accepted address stays within one line. -/

set_option autoImplicit false

namespace ServiceProxy

namespace Scalar

theorem isForbidden_of_isPlain {text : String} (plain : isPlain text = true) {c : Char}
    (member : c ∈ text.toList) : isForbidden c = false := by
  unfold isPlain at plain
  cases chars : text.toList with
  | nil => rw [chars] at member; cases member
  | cons first rest =>
    rw [chars] at plain member
    simp only [isPlainChars, Bool.and_eq_true, Bool.not_eq_true'] at plain
    exact Bool.eq_false_iff.2 (List.any_eq_false.1 plain.1.1 c member)

theorem oneLine_of_isPlain {text : String} (plain : isPlain text = true) : Document.OneLine text := by
  intro member
  have allowed := isForbidden_of_isPlain plain member
  revert allowed
  decide

end Scalar

namespace Routing

theorem oneLine_of_accepts {role : AddressRole} {address : String}
    (accepted : role.accepts address = true) : Document.OneLine address := by
  cases role with
  | backend => exact Scalar.oneLine_of_isPlain accepted
  | listener =>
    rcases Bool.or_eq_true_iff.1 accepted with wildcard | plain
    · rw [beq_iff_eq.1 wildcard]
      decide
    · exact Scalar.oneLine_of_isPlain plain

def Entry.Accepted (e : Entry) : Prop := ∀ u ∈ e.addresses, u.role.accepts u.address = true

instance (e : Entry) : Decidable e.Accepted :=
  inferInstanceAs (Decidable (∀ u ∈ e.addresses, u.role.accepts u.address = true))

theorem Entry.Accepted.listener {e : Entry} (accepted : e.Accepted) :
    AddressRole.listener.accepts e.listener.address = true :=
  accepted ⟨.listener, e.listener.address⟩ List.mem_cons_self

theorem Entry.Accepted.backend {e : Entry} (accepted : e.Accepted) {b : Endpoint}
    (member : b ∈ e.cluster) : AddressRole.backend.accepts b.address = true :=
  accepted ⟨.backend, b.address⟩ (List.mem_cons_of_mem _ (List.mem_map.2 ⟨b, member, rfl⟩))

namespace Model

theorem render_value (m : Model) :
    m.render.run.value = match m.offender? with
      | some offender => .error offender
      | none => .ok m.document := by
  unfold render
  cases m.offender? <;> rfl

theorem offender?_eq_none_iff {m : Model} : m.offender? = none ↔ ∀ b ∈ m.entries, b.2.Accepted := by
  rw [offender?, List.find?_eq_none, sortedEntries_eq, List.flatMap_map]
  simp only [List.mem_flatMap, Bool.not_eq_true', Bool.not_eq_false]
  constructor
  · intro none b member u address
    exact none u ⟨b, m.perm_sorted.mem_iff.2 member, address⟩
  · rintro accepted u ⟨b, member, address⟩
    exact accepted b (m.perm_sorted.mem_iff.1 member) u address

theorem render_eq_ok_iff {m : Model} {text : String} :
    m.render.run.value = .ok text ↔ (∀ b ∈ m.entries, b.2.Accepted) ∧ text = m.document := by
  rw [render_value, ← offender?_eq_none_iff]
  cases m.offender? <;> simp [eq_comm]

end Model

end Routing

end ServiceProxy
