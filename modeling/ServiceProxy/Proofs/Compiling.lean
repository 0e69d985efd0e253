import ServiceProxy.Compilation
import ServiceProxy.Proofs.Description.Addresses
import ServiceProxy.Proofs.Document.Acceptance
import ServiceProxy.Proofs.Net.Literals
import ServiceProxy.Proofs.Routing.Building

/-! What compilations end with. A description that was read from a text always compiles: its
addresses are literals, literals are plain scalars, and listeners bind wildcards. -/

set_option autoImplicit false

namespace ServiceProxy

namespace Routing.Model

theorem accepts_wildcard (family : Family) : AddressRole.listener.accepts family.wildcard = true := by
  cases family <;> decide

theorem accepted_ofDescription {d : Description} (addressed : ∀ host ∈ d.nodes, host.WellAddressed) :
    ∀ b ∈ (ofDescription d).value.entries, b.2.Accepted := by
  obtain ⟨_ | service, nodes⟩ := d
  · intro b member
    cases member
  · rintro ⟨key, entry⟩ member
    refine List.forall_mem_cons.2 ⟨?_, fun u isBackend => ?_⟩
    · rw [(entry_of_mem member).1]
      exact accepts_wildcard key.family
    · obtain ⟨backend, reached, rfl⟩ := List.mem_map.1 isBackend
      obtain ⟨host, isHost, found⟩ := (exists_mem_cluster_iff member).1 ⟨backend, reached, rfl⟩
      exact Literal.isPlain_of_family? (addressed host isHost key.family backend.address found)

end Routing.Model

namespace Description

open Routing

theorem value_compileModel (d : Description) :
    d.compileModel.run.value = match (Model.ofDescription d).value.render.run.value with
      | .error offender => .error (.unrepresentable offender)
      | .ok document => .ok document := by
  unfold compileModel
  simp only [value_run_bind, value_run_lift]
  cases (Model.ofDescription d).value.render.run.value <;> rfl

theorem value_compile (strict : Bool) (d : Description) :
    (d.compile strict).run.value =
      if strict && !d.problems.isEmpty then .error (.invalidService d.problems)
      else d.compileModel.run.value := by
  unfold compile
  cases refused : strict && !d.problems.isEmpty with
  | true =>
    simp only [refused, if_true]
    rfl
  | false =>
    simp only [refused]
    rfl

theorem value_compileModel_of_wellAddressed {d : Description}
    (addressed : ∀ host ∈ d.nodes, host.WellAddressed) :
    d.compileModel.run.value = .ok (Model.ofDescription d).value.document := by
  have rendered := Model.render_eq_ok_iff.2 ⟨Model.accepted_ofDescription addressed, rfl⟩
  rw [value_compileModel, rendered]

/-- A description that was read from a text holds literals only, and compiles. -/
theorem compile_of_parse (format : Format) (text : String) (d : Description)
    (parsed : (parse format text).run.value = .ok d) :
    (∀ host ∈ d.nodes, ∀ family address, host.address? family = some address →
      Literal.family? address = some family) ∧
    (∃ document, (d.compile false).run.value = .ok document ∧
      ((d.compile true).run.value = .ok document ∨
        (d.compile true).run.value = .error (.invalidService d.problems))) ∧
    ∀ strict offender, (d.compile strict).run.value ≠ .error (.unrepresentable offender) := by
  have addressed := wellAddressed_of_yields_parse parsed
  have compiled := value_compileModel_of_wellAddressed addressed
  refine ⟨addressed, ⟨(Model.ofDescription d).value.document, ?_, ?_⟩, fun strict offender => ?_⟩
  · rw [value_compile, Bool.false_and, compiled]
    rfl
  · rw [value_compile, compiled]
    split
    · exact .inr rfl
    · exact .inl rfl
  · rw [value_compile, compiled]
    split
    · simp
    · simp

def twicePorts : String :=
  "[service]\nipFamilies = [\"IPv4\", \"IPv6\"]\n" ++
  "[[service.ports]]\nlistenPort = 80\nnodePort = 30000\n" ++
  "[[service.ports]]\nlistenPort = 80\ntargetPort = 30001\n" ++
  "[[nodes]]\nname = \"a\"\naddresses.ipv6 = \"fd00::1\"\n" ++
  "[[nodes.nodeAddresses]]\ntype = \"InternalIP\"\naddress = \"10.0.0.1\"\n"

def twiceDescription : Description where
  service := some ⟨[⟨80, 30000, .tcp⟩, ⟨80, 30001, .tcp⟩], [.ipv4, .ipv6], 0⟩
  nodes := [⟨"a", some "10.0.0.1", some "fd00::1"⟩]

theorem compile_of_parse_twice :
    (parse .toml twicePorts).run.value = .ok twiceDescription ∧
    (∀ host ∈ twiceDescription.nodes, ∀ family address, host.address? family = some address →
      Literal.family? address = some family) ∧
    (∃ document, (twiceDescription.compile false).run.value = .ok document ∧
      ((twiceDescription.compile true).run.value = .ok document ∨
        (twiceDescription.compile true).run.value = .error (.invalidService twiceDescription.problems))) ∧
    ∀ strict offender, (twiceDescription.compile strict).run.value ≠ .error (.unrepresentable offender) := by
  have parsed : (parse .toml twicePorts).run.value = .ok twiceDescription := by decide +kernel
  exact ⟨parsed, compile_of_parse .toml twicePorts twiceDescription parsed⟩

end Description

end ServiceProxy
