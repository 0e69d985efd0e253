import ServiceProxy.Proofs.Description.Problems

/-! Whom a report of a repeated key blames. Validation goes through the ports once for each family,
so a port may repeat its own key. Main statement: every report has an earlier port to blame exactly
if no family is listed twice or no port is proxied. -/

set_option autoImplicit false

namespace ServiceProxy.Service

variable {s : Service}

/-- A port before the reported one has the reported key in the same family. -/
def Blames (s : Service) (key : Routing.Key) (index : Nat) : Prop :=
  ∃ earlier < index, ∃ p q, s.ports[earlier]? = some p ∧ s.ports[index]? = some q ∧
    (p.protocol = .tcp ∨ p.protocol = .udp) ∧ p.listen = q.listen ∧ p.protocol = q.protocol ∧
    ∃ family ∈ s.families, key = p.key family ∧ key = q.key family

theorem duplicateKey_mem_problems_iff {key : Routing.Key} {index : Nat} :
    .duplicateKey key index ∈ s.problems ↔ ∃ p : s.Place, p.Repeats ∧ p.key = key ∧ p.index = index := by
  classical
  rw [problems_eq, List.mem_append, List.mem_append]
  constructor
  · rintro ((noFamilies | zero) | repeated)
    · split at noFamilies <;> simp at noFamilies
    · simp at zero
    · obtain ⟨p, member, report⟩ := List.mem_map.1 repeated
      obtain ⟨sameKey, sameIndex⟩ := Problem.duplicateKey.inj report
      exact ⟨p, mem_filter_repeats.1 member, sameKey, sameIndex⟩
  · rintro ⟨p, repeats, rfl, rfl⟩
    exact .inr (List.mem_map.2 ⟨p, mem_filter_repeats.2 repeats, rfl⟩)

theorem Place.port_eq (p : s.Place) : s.ports[p.index.val]? = some p.port :=
  List.getElem?_eq_getElem p.index.isLt

/-- With every family listed once, an earlier place with the same family has an earlier port. -/
theorem Place.Repeats.blames {p : s.Place} (repeats : p.Repeats) (once : s.families.Nodup) :
    s.Blames p.key p.index := by
  obtain ⟨proxied, q, before, family, listen, protocol⟩ := repeats
  have sameFamily : q.family = p.family := Fin.ext ((once.getElem_inj_iff).1 family)
  have earlier : q.index < p.index := by
    rcases before with first | ⟨-, earlier⟩
    · exact absurd (sameFamily ▸ first) (lt_irrefl _)
    · exact earlier
  refine ⟨q.index, earlier, q.port, p.port, q.port_eq, p.port_eq, protocol.symm ▸ proxied, listen, protocol,
    s.families[p.family], List.getElem_mem _, ?_, rfl⟩
  rw [key, ServicePort.key, ServicePort.key, listen, protocol]

/-- Where a family is listed again, the first port that is proxied repeats its own key. -/
theorem exists_repeats_of_listed_twice (twice : ¬s.families.Nodup)
    (proxies : ∃ port ∈ s.ports, port.protocol.proxyable = true) :
    ∃ p : s.Place, p.Repeats ∧
      ∀ earlier < p.index.val, ∀ q, s.ports[earlier]? = some q → q.protocol.proxyable = false := by
  rw [List.Nodup, List.pairwise_iff_getElem] at twice
  push Not at twice
  obtain ⟨first, second, firstInside, secondInside, before, same⟩ := twice
  obtain ⟨port, found⟩ := Option.isSome_iff_exists.1 (List.find?_isSome.2 proxies)
  obtain ⟨proxied, index, inside, rfl, none⟩ := List.find?_eq_some_iff_getElem.1 found
  refine ⟨⟨⟨second, secondInside⟩, ⟨index, inside⟩⟩, ⟨Routing.proxyable_iff.1 proxied, ?_⟩, ?_⟩
  · exact ⟨⟨⟨first, firstInside⟩, ⟨index, inside⟩⟩, .inl before, same, rfl, rfl⟩
  · intro earlier isEarlier q held
    obtain ⟨bound, rfl⟩ := List.getElem?_eq_some_iff.1 held
    simpa using none earlier isEarlier

/-- Every report of a repeated key has an earlier port to blame exactly if the service lists no
family twice or has no port that is proxied. -/
theorem reports_blame_iff (s : Service) :
    (∀ key index, .duplicateKey key index ∈ s.problems → s.Blames key index) ↔
      s.families.Nodup ∨ ∀ port ∈ s.ports, port.protocol ≠ .tcp ∧ port.protocol ≠ .udp := by
  constructor
  · intro blames
    refine or_iff_not_imp_left.2 fun twice => ?_
    by_contra proxies
    have proxies : ∃ port ∈ s.ports, port.protocol.proxyable = true := by
      simpa [Routing.proxyable_iff, not_and_or, or_iff_not_imp_left] using proxies
    obtain ⟨p, repeats, first⟩ := exists_repeats_of_listed_twice twice proxies
    obtain ⟨earlier, before, q, _, held, -, proxied, -⟩ :=
      blames p.key p.index (duplicateKey_mem_problems_iff.2 ⟨p, repeats, rfl, rfl⟩)
    exact absurd (Routing.proxyable_iff.2 proxied) (Bool.eq_false_iff.1 (first earlier before q held))
  · rintro condition key index reported
    obtain ⟨p, repeats, rfl, rfl⟩ := duplicateKey_mem_problems_iff.1 reported
    rcases condition with once | unproxied
    · exact repeats.blames once
    · have other := unproxied p.port (List.getElem_mem p.index.isLt)
      exact absurd repeats.1 (not_or.2 other)

/-- A family listed twice has the only port of a service reported as used by an earlier one. -/
theorem baseless_report :
    Problem.duplicateKey ⟨.ipv4, 80, .tcp⟩ 0 ∈
      (Service.mk [⟨80, 30000, .tcp⟩] [.ipv4, .ipv4] 32000).problems ∧
    ¬(Service.mk [⟨80, 30000, .tcp⟩] [.ipv4, .ipv4] 32000).Blames ⟨.ipv4, 80, .tcp⟩ 0 :=
  ⟨by decide, fun ⟨earlier, before, _⟩ => Nat.not_lt_zero earlier before⟩

end ServiceProxy.Service
