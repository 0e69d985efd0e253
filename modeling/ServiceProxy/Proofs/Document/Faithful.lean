import ServiceProxy.Proofs.Document.Reading

/-! Documents carry their models. Nothing of a model is lost in its document, and no two models
share a document unless they bind the same and check the same port. -/

set_option autoImplicit false

namespace ServiceProxy.Routing.Model

open Document

def HasBackend (m : Model) : Prop := ∃ b ∈ m.entries, b.2.cluster ≠ []

theorem document_eq (m : Model) : m.document = unlines (bindingLines m.healthCheckPort m.sorted) := by
  rw [document, sortedEntries_eq, bindingLines]

theorem linesOf_document {m : Model} (accepted : ∀ b ∈ m.entries, b.2.Accepted) :
    linesOf m.document = bindingLines m.healthCheckPort m.sorted := by
  rw [document_eq]
  exact linesOf_unlines (oneLine_bindingLines _ fun b member => accepted b (m.perm_sorted.mem_iff.1 member))

theorem decode?_document {m : Model} (accepted : ∀ b ∈ m.entries, b.2.Accepted) :
    decode? m.document = some (m.sorted, checkedPort? m.healthCheckPort m.sorted) := by
  rw [document_eq]
  exact decode?_unlines _ fun b member => accepted b (m.perm_sorted.mem_iff.1 member)

theorem checkedPort?_eq_some {m : Model} (backend : m.HasBackend) :
    checkedPort? m.healthCheckPort m.sorted = some m.healthCheckPort := by
  obtain ⟨b, member, filled⟩ := backend
  exact if_neg fun none => filled (none b (m.perm_sorted.mem_iff.2 member))

theorem cluster_eq_nil {m : Model} (none : ¬m.HasBackend) : ∀ b ∈ m.sorted, b.2.cluster = [] := by
  intro b member
  by_cases empty : b.2.cluster = []
  · exact empty
  · exact absurd ⟨b, m.perm_sorted.mem_iff.1 member, empty⟩ none

/-- The port that checks go to is written with backends only. -/
theorem bindingLines_congr {bindings : List (Key × Entry)}
    (empty : ∀ b ∈ bindings, b.2.cluster = []) (p q : Port) :
    bindingLines p bindings = bindingLines q bindings := by
  have clusters : clustersOf p bindings = clustersOf q bindings :=
    List.map_congr_left fun b member => by rw [empty b member]; rfl
  rw [bindingLines_eq, bindingLines_eq, clusters]

theorem sorted_eq_of_document_eq {m n : Model} (hm : ∀ b ∈ m.entries, b.2.Accepted)
    (hn : ∀ b ∈ n.entries, b.2.Accepted) (same : m.document = n.document) :
    m.sorted = n.sorted ∧
      checkedPort? m.healthCheckPort m.sorted = checkedPort? n.healthCheckPort n.sorted := by
  have decoded := congrArg decode? same
  rw [decode?_document hm, decode?_document hn] at decoded
  exact Prod.mk.inj (Option.some.inj decoded)

theorem hasBackend_of_perm {m n : Model} (perm : m.entries.Perm n.entries) (backend : m.HasBackend) :
    n.HasBackend := by
  obtain ⟨b, member, filled⟩ := backend
  exact ⟨b, perm.mem_iff.1 member, filled⟩

theorem document_eq_iff {m n : Model} (hm : ∀ b ∈ m.entries, b.2.Accepted)
    (hn : ∀ b ∈ n.entries, b.2.Accepted) :
    m.document = n.document ↔ (∀ key, m.find? key = n.find? key) ∧
      ((¬m.HasBackend ∧ ¬n.HasBackend) ∨ m.healthCheckPort = n.healthCheckPort) := by
  constructor
  · intro same
    obtain ⟨sorted, checked⟩ := sorted_eq_of_document_eq hm hn same
    have perm : m.entries.Perm n.entries :=
      m.perm_sorted.symm.trans ((List.Perm.of_eq sorted).trans n.perm_sorted)
    refine ⟨find?_of_perm perm, ?_⟩
    -- A port can be told from the document only where a backend shows it.
    by_cases backend : m.HasBackend
    · rw [checkedPort?_eq_some backend, checkedPort?_eq_some (hasBackend_of_perm perm backend)] at checked
      exact .inr (Option.some.inj checked)
    · exact .inl ⟨backend, fun other => backend (hasBackend_of_perm perm.symm other)⟩
  · rintro ⟨found, port⟩
    have sorted := sorted_eq_of_perm (perm_of_find? found)
    rw [document_eq, document_eq, ← sorted]
    rcases port with ⟨none, -⟩ | same
    · rw [bindingLines_congr (cluster_eq_nil none)]
    · rw [same]

/-- A rendered document holds all bindings of its model, in ascending order of their key texts,
and the port that backends are checked on. Models share a document only if they agree on what
it holds. -/
theorem decode?_render (m : Model) (text : String) (rendered : m.render.run.value = .ok text) :
    (∃ bindings port, decode? text = some (bindings, port) ∧ bindings.Perm m.entries ∧
      (bindings.Pairwise fun a b => a.1.text < b.1.text) ∧
      (m.HasBackend → port = some m.healthCheckPort)) ∧
    ∀ (other : Model) (otherText : String), other.render.run.value = .ok otherText →
      (text = otherText ↔ (∀ key, m.find? key = other.find? key) ∧
        ((¬m.HasBackend ∧ ¬other.HasBackend) ∨ m.healthCheckPort = other.healthCheckPort)) := by
  obtain ⟨accepted, rfl⟩ := render_eq_ok_iff.1 rendered
  refine ⟨⟨m.sorted, _, decode?_document accepted, m.perm_sorted, m.sorted_ascending,
    checkedPort?_eq_some⟩, ?_⟩
  intro other otherText otherRendered
  obtain ⟨otherAccepted, rfl⟩ := render_eq_ok_iff.1 otherRendered
  exact document_eq_iff accepted otherAccepted

def guarded (healthCheckPort : Port) : Model :=
  (empty healthCheckPort).insert ⟨.ipv6, 53, .sctp⟩ ⟨⟨"\"::\"", 53, .sctp⟩, [⟨"fd00::1", 30053, .sctp⟩]⟩

theorem decode?_render_guarded :
    (guarded 32000).render.run.value = .ok (guarded 32000).document ∧
    (∃ bindings port, decode? (guarded 32000).document = some (bindings, port) ∧
      bindings.Perm (guarded 32000).entries ∧ port = some 32000) ∧
    (guarded 32000).document ≠ (guarded 32001).document := by
  have accepted : ∀ p, ∀ b ∈ (guarded p).entries, b.2.Accepted := fun p b member => by
    rw [List.mem_singleton.1 member]
    decide
  have rendered : ∀ p, (guarded p).render.run.value = .ok (guarded p).document := fun p =>
    render_eq_ok_iff.2 ⟨accepted p, rfl⟩
  have backend : (guarded 32000).HasBackend := ⟨_, List.mem_singleton.2 rfl, by decide⟩
  obtain ⟨⟨bindings, port, decoded, perm, -, checked⟩, differ⟩ :=
    decode?_render (guarded 32000) _ (rendered 32000)
  refine ⟨rendered 32000, ⟨bindings, port, decoded, perm, checked backend⟩, fun same => ?_⟩
  rcases ((differ (guarded 32001) _ (rendered 32001)).1 same).2 with ⟨none, -⟩ | ports
  · exact none backend
  · revert ports
    decide

end ServiceProxy.Routing.Model
