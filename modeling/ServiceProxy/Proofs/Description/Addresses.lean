import ServiceProxy.Description.Parse
import ServiceProxy.Proofs.Datum.Reading
import ServiceProxy.Proofs.Description.Selection

/-! Where the addresses of hosts come from. However a host is declared, every address that it is
left with is an IP literal of the family it is kept under. -/

set_option autoImplicit false

namespace ServiceProxy

namespace Host

def WellAddressed (h : Host) : Prop := ∀ family address, h.address? family = some address →
  Literal.family? address = some family

end Host

namespace HostDeclaration

/-- A labelled address is checked, and a reported one counts for the family that it is kept under. -/
theorem wellAddressed_of_yields_resolve {d : HostDeclaration} {host : Host} (resolved : Yields d.resolve host) :
    host.WellAddressed := by
  have sound := not_refused_of_overlay resolved
  intro family address held
  have chosen := (chooses_of_resolve resolved).2 family
  generalize host.address? family = found at held chosen
  cases chosen with
  | @listed label address member spelt =>
    cases held
    have unrefused : ¬Refused label address := sound (label, address) member
    exact family?_of_not_refused unrefused spelt
  | unlisted =>
    obtain ⟨reported, first, rfl⟩ := Option.map_eq_some_iff.1 held
    have counts := List.find?_some first
    exact (of_decide_eq_true counts).2

end HostDeclaration

theorem wellAddressed_of_yields_read {format : Format} {d : Datum} {host : Host}
    (read : Yields (Host.shape.read format d) host) : host.WellAddressed := by
  -- Nothing is asked of the draft: its addresses are checked when it is finished.
  have keeps : Host.shape.Keeps fun _ => True := ⟨trivial, fun _ _ _ _ _ _ _ _ => trivial⟩
  obtain ⟨draft, -, finished⟩ := keeps.read read
  exact HostDeclaration.wellAddressed_of_yields_resolve (yields_adapt.1 finished)

namespace Description

theorem keeps_wellAddressed : Description.shape.Keeps fun draft =>
    ∀ hosts, draft.nodes = some hosts → ∀ host ∈ hosts, host.WellAddressed where
  blank := by
    intro hosts held
    cases held
  fill slot format d draft filled member kept done := by
    simp only [Description.shape, List.mem_cons, List.not_mem_nil, or_false] at member
    rcases member with rfl | rfl
    · -- The service leaves the hosts alone.
      obtain ⟨service, -, rfl⟩ := Slot.yields_fill.1 done
      exact kept
    · obtain ⟨read, isRead, rfl⟩ := Slot.yields_fill.1 done
      intro hosts held host isHost
      obtain ⟨item, isItem⟩ := Datum.yields_toList isRead host (Option.some.inj held ▸ isHost)
      exact wellAddressed_of_yields_read isItem

theorem wellAddressed_of_yields_shape {format : Format} {d : Datum} {description : Description}
    (read : Yields (Description.shape.read format d) description) :
    ∀ host ∈ description.nodes, host.WellAddressed := by
  obtain ⟨draft, kept, finished⟩ := keeps_wellAddressed.read read
  rw [← yields_pure.1 finished]
  intro host member
  cases nodes : draft.nodes with
  | none =>
    rw [nodes] at member
    cases member
  | some hosts =>
    rw [nodes] at member
    exact kept hosts nodes host member

theorem wellAddressed_of_yields_parse {format : Format} {text : String} {description : Description}
    (parsed : Yields (parse format text) description) : ∀ host ∈ description.nodes, host.WellAddressed := by
  cases format with
  | json =>
    obtain ⟨result, read, whole⟩ := yields_bind.1 parsed
    have same : result = description := by
      split at whole
      · exact yields_pure.1 whole
      · exact absurd whole not_yields_malformed
    exact same ▸ wellAddressed_of_yields_shape read
  | toml =>
    change Yields (Toml.parse shape text) description at parsed
    unfold Toml.parse at parsed
    split at parsed
    · exact absurd parsed not_yields_malformed
    · exact wellAddressed_of_yields_shape parsed

end Description

end ServiceProxy
