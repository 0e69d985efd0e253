import ServiceProxy.Proofs.Compiling
import ServiceProxy.Proofs.Document.Names
import ServiceProxy.Proofs.Routing.Collisions

/-! Strict compilation next to lenient compilation. Main statement: the two differ on services
with problems only, where strict compilation reports the problems. A document that strict
compilation lets through has a listener and a cluster for every proxied port in every family. -/

set_option autoImplicit false

namespace ServiceProxy

open Document Routing

namespace Routing.Model

theorem length_sorted (m : Model) : m.sorted.length = m.size := m.perm_sorted.length_eq

/-- Without problems no key is repeated, so no entry is lost. -/
theorem size_of_problems_eq_nil {s : Service} (valid : s.problems = []) (nodes : List Host) :
    (ofDescription ⟨some s, nodes⟩).value.size =
      s.families.length * s.ports.countP fun port => port.protocol.proxyable := by
  obtain ⟨overwritten, count⟩ := collisions_ofDescription s nodes
  rw [overwritten, valid] at count
  exact (Nat.zero_add _).symm.trans count

section

variable {m : Model} (accepted : ∀ b ∈ m.entries, b.2.Accepted)

include accepted

theorem length_listeners_document : (listeners m.document).length = m.size := by
  rw [listeners_document accepted, List.length_map, listenersOf, List.length_map, length_sorted]

theorem length_clusters_document : (clusters m.document).length = m.size := by
  rw [clusters_document accepted, List.length_map, clustersOf, List.length_map, length_sorted]

theorem nodup_listeners_document : ((listeners m.document).map Item.name).Nodup := by
  rw [map_name_listeners, listenerNames_document accepted]
  exact m.nodup_keyTexts

end

end Routing.Model

namespace Description

theorem problems_ne_nil_iff {d : Description} :
    d.problems ≠ [] ↔ ∃ service, d.service = some service ∧ service.problems ≠ [] := by
  obtain ⟨_ | service, nodes⟩ := d <;> simp [problems]

theorem value_compile_lenient (d : Description) :
    (d.compile false).run.value = d.compileModel.run.value := by
  rw [value_compile, Bool.false_and]
  rfl

theorem value_compile_strict (d : Description) :
    (d.compile true).run.value =
      if d.problems = [] then d.compileModel.run.value else .error (.invalidService d.problems) := by
  rw [value_compile, Bool.true_and]
  cases d.problems <;> rfl

theorem compileModel_ne_invalidService (d : Description) (problems : List Problem) :
    d.compileModel.run.value ≠ .error (.invalidService problems) := by
  rw [value_compileModel]
  cases (Model.ofDescription d).value.render.run.value <;> simp

theorem compileModel_eq_ok_iff {d : Description} {text : String} :
    d.compileModel.run.value = .ok text ↔ (Model.ofDescription d).value.render.run.value = .ok text := by
  rw [value_compileModel]
  cases (Model.ofDescription d).value.render.run.value <;> simp

theorem compile_strict_eq_ok_iff {d : Description} {text : String} :
    (d.compile true).run.value = .ok text ↔ d.problems = [] ∧
      (∀ b ∈ (Model.ofDescription d).value.entries, b.2.Accepted) ∧
        text = (Model.ofDescription d).value.document := by
  rw [value_compile_strict]
  split
  · rename_i valid
    rw [compileModel_eq_ok_iff, Model.render_eq_ok_iff, and_iff_right valid]
  · rename_i invalid
    simp [invalid]

theorem compile_strict_eq_invalidService_iff {d : Description} {errors : List Problem} :
    (d.compile true).run.value = .error (.invalidService errors) ↔
      ∃ service, d.service = some service ∧ service.problems = errors ∧ errors ≠ [] := by
  rw [value_compile_strict]
  split
  · rename_i valid
    refine iff_of_false (compileModel_ne_invalidService d errors) ?_
    rintro ⟨service, held, rfl, invalid⟩
    exact problems_ne_nil_iff.2 ⟨service, held, invalid⟩ valid
  · rename_i invalid
    obtain ⟨service, held, -⟩ := problems_ne_nil_iff.1 invalid
    have problems : d.problems = service.problems := by rw [Description.problems, held]
    rw [problems] at invalid ⊢
    simp only [held, Except.error.injEq, CompileError.invalidService.injEq, Option.some.injEq,
      exists_eq_left']
    exact ⟨fun same => ⟨same, same ▸ invalid⟩, And.left⟩

theorem blocks_of_compile_strict {nodes : List Host} {service : Service} {text : String}
    (compiled : (compile true ⟨some service, nodes⟩).run.value = .ok text) :
    (listeners text).length =
        service.families.length * (service.ports.countP fun port => port.protocol.proxyable) ∧
      ((listeners text).map Item.name).Nodup ∧ (clusters text).length = (listeners text).length := by
  obtain ⟨valid, accepted, rfl⟩ := compile_strict_eq_ok_iff.1 compiled
  have size := Model.size_of_problems_eq_nil valid nodes
  rw [Model.length_listeners_document accepted, Model.length_clusters_document accepted]
  exact ⟨size, Model.nodup_listeners_document accepted, rfl⟩

/-- Strict compilation fails on the problems of a service and does what lenient compilation does
otherwise, which never reports problems. With a service, its documents have a listener and a
cluster for every proxied port in every family. -/
theorem compile_strict_lenient (d : Description) :
    (∀ errors, (d.compile true).run.value = .error (.invalidService errors) ↔
      ∃ service, d.service = some service ∧ service.problems = errors ∧ errors ≠ []) ∧
    ((¬∃ service, d.service = some service ∧ service.problems ≠ []) →
      (d.compile true).run.value = (d.compile false).run.value) ∧
    (∀ errors, (d.compile false).run.value ≠ .error (.invalidService errors)) ∧
    ∀ service text, d.service = some service → (d.compile true).run.value = .ok text →
      (listeners text).length = service.families.length *
        (service.ports.countP fun port => port.protocol = .tcp ∨ port.protocol = .udp) ∧
      ((listeners text).map Item.name).Nodup ∧ (clusters text).length = (listeners text).length := by
  refine ⟨fun errors => compile_strict_eq_invalidService_iff, fun valid => ?_, fun errors => ?_, ?_⟩
  · have none : d.problems = [] := not_ne_iff.1 fun invalid => valid (problems_ne_nil_iff.1 invalid)
    rw [value_compile_strict, if_pos none, value_compile_lenient]
  · rw [value_compile_lenient]
    exact compileModel_ne_invalidService d errors
  · obtain ⟨_, nodes⟩ := d
    rintro service text rfl compiled
    simp only [← proxyable_iff, Bool.decide_eq_true]
    exact blocks_of_compile_strict compiled

def dualStack : Description where
  service := some ⟨[⟨80, 30080, .tcp⟩, ⟨53, 30053, .udp⟩, ⟨9999, 31999, .sctp⟩], [.ipv4, .ipv6], 32000⟩
  nodes := [⟨"a", some "10.0.0.1", some "fd00::1"⟩]

def repeated : Description where
  service := some ⟨[⟨80, 30080, .tcp⟩, ⟨80, 30081, .tcp⟩], [.ipv4], 32000⟩

theorem problems_dualStack : dualStack.problems = [] := by decide +kernel

theorem compile_dualStack :
    (dualStack.compile true).run.value = .ok (Model.ofDescription dualStack).value.document := by
  have accepted : ∀ b ∈ (Model.ofDescription dualStack).value.entries, b.2.Accepted := by decide +kernel
  exact compile_strict_eq_ok_iff.2 ⟨problems_dualStack, accepted, rfl⟩

theorem compile_strict_lenient_dualStack :
    (repeated.compile true).run.value = .error (.invalidService [.duplicateKey ⟨.ipv4, 80, .tcp⟩ 1]) ∧
    (dualStack.compile true).run.value = .ok (Model.ofDescription dualStack).value.document ∧
    (dualStack.compile true).run.value = (dualStack.compile false).run.value ∧
    (listeners (Model.ofDescription dualStack).value.document).length = 4 ∧
    ((listeners (Model.ofDescription dualStack).value.document).map Item.name).Nodup ∧
    (clusters (Model.ofDescription dualStack).value.document).length = 4 := by
  obtain ⟨-, same, -, blocks⟩ := compile_strict_lenient dualStack
  have valid : ¬∃ service, dualStack.service = some service ∧ service.problems ≠ [] :=
    fun invalid => problems_ne_nil_iff.2 invalid problems_dualStack
  obtain ⟨count, names, alike⟩ := blocks _ _ rfl compile_dualStack
  have refused := ((compile_strict_lenient repeated).1 [.duplicateKey ⟨.ipv4, 80, .tcp⟩ 1]).2
    ⟨_, rfl, by decide +kernel, by decide⟩
  exact ⟨refused, compile_dualStack, same valid, count, names, alike.trans count⟩

end Description

end ServiceProxy
