import ServiceProxy.Description.Host
import ServiceProxy.Proofs.Outcome
import ServiceProxy.Proofs.Text.ByteOrder

/-! Which addresses a declared host is left with. Reported addresses and labelled ones are kept by
opposite policies: of the reported ones the first of a family stays, and a labelled one replaces
what is there. Main statement: a declaration is refused for the first entry in label order that is
at fault; otherwise each family has the address under the last label that spells it, or else the
first internal literal of the family. -/

set_option autoImplicit false

namespace ServiceProxy

namespace Family

/-- The label is the name of the family up to the case of ASCII letters. -/
def SpeltBy (family : Family) (label : String) : Prop :=
  label.toList.map Char.toLower = family.name.toList.map Char.toLower

theorem ofLabel?_eq_some_iff {label : String} {family : Family} :
    ofLabel? label = some family ↔ family.SpeltBy label := by
  rw [SpeltBy, ofLabel?]
  generalize label.toList.map Char.toLower = spelling
  have four : ipv4.name.toList.map Char.toLower = "ipv4".toList := by decide
  have six : ipv6.name.toList.map Char.toLower = "ipv6".toList := by decide
  have apart : "ipv4".toList ≠ "ipv6".toList := by decide
  cases family with
  | ipv4 =>
    rw [four]
    split
    · rename_i isFour
      exact iff_of_true rfl isFour
    · rename_i notFour
      split
      · exact iff_of_false nofun notFour
      · exact iff_of_false nofun notFour
  | ipv6 =>
    rw [six]
    split
    · rename_i isFour
      exact iff_of_false nofun fun isSix => apart (isFour.symm.trans isSix)
    · split
      · rename_i isSix
        exact iff_of_true rfl isSix
      · rename_i notSix
        exact iff_of_false nofun notSix

theorem ofLabel?_eq_none_iff {label : String} :
    ofLabel? label = none ↔ ∀ family : Family, ¬family.SpeltBy label := by
  simp only [Option.eq_none_iff_forall_ne_some, ne_eq, ofLabel?_eq_some_iff]

theorem SpeltBy.unique {family other : Family} {label : String} (spelt : family.SpeltBy label)
    (alsoSpelt : other.SpeltBy label) : family = other :=
  Option.some.inj ((ofLabel?_eq_some_iff.2 spelt).symm.trans (ofLabel?_eq_some_iff.2 alsoSpelt))

end Family

/-- Why an entry is refused. A cause is looked for only if those before it are absent. -/
inductive AddressFault.Arises (label address : String) : AddressFault → Prop where
  | unknownFamily (unspelt : ∀ family : Family, ¬family.SpeltBy label) :
    Arises label address (.unknownFamily label)
  | notLiteral {listed : Family} (spelt : listed.SpeltBy label)
    (unparsed : Literal.family? address = none) : Arises label address (.notLiteral address)
  | otherFamily {listed actual : Family} (spelt : listed.SpeltBy label)
    (parsed : Literal.family? address = some actual) (different : actual ≠ listed) :
    Arises label address (.otherFamily address listed actual)

namespace HostDeclaration

def Refused (label address : String) : Prop :=
  (∀ family : Family, ¬family.SpeltBy label) ∨ Literal.family? address = none ∨
    ∃ listed actual : Family, listed.SpeltBy label ∧ Literal.family? address = some actual ∧ actual ≠ listed

theorem checkListed_eq_error_iff {label address : String} {fault : AddressFault} :
    checkListed label address = .error fault ↔ fault.Arises label address := by
  constructor
  · intro checked
    unfold checkListed at checked
    cases named : Family.ofLabel? label with
    | none =>
      rw [named] at checked
      exact Except.error.inj checked ▸ .unknownFamily (Family.ofLabel?_eq_none_iff.1 named)
    | some listed =>
      have spelt := Family.ofLabel?_eq_some_iff.1 named
      rw [named] at checked
      cases parsed : Literal.family? address with
      | none =>
        rw [parsed] at checked
        exact Except.error.inj checked ▸ .notLiteral spelt parsed
      | some actual =>
        rw [parsed] at checked
        dsimp only at checked
        split at checked
        · cases checked
        · rename_i different
          exact Except.error.inj checked ▸ .otherFamily spelt parsed different
  · intro arises
    unfold checkListed
    cases arises with
    | unknownFamily unspelt => rw [Family.ofLabel?_eq_none_iff.2 unspelt]
    | notLiteral spelt unparsed => rw [Family.ofLabel?_eq_some_iff.2 spelt, unparsed]
    | otherFamily spelt parsed different =>
      rw [Family.ofLabel?_eq_some_iff.2 spelt, parsed]
      exact if_neg different

theorem refused_iff {label address : String} :
    Refused label address ↔ ∃ fault, checkListed label address = .error fault := by
  simp only [checkListed_eq_error_iff]
  constructor
  · intro refused
    cases named : Family.ofLabel? label with
    | none => exact ⟨_, .unknownFamily (Family.ofLabel?_eq_none_iff.1 named)⟩
    | some listed =>
      have spelt := Family.ofLabel?_eq_some_iff.1 named
      rcases refused with unspelt | unparsed | ⟨other, actual, alsoSpelt, parsed, different⟩
      · exact absurd spelt (unspelt listed)
      · exact ⟨_, .notLiteral spelt unparsed⟩
      · exact ⟨_, .otherFamily alsoSpelt parsed different⟩
  · rintro ⟨fault, arises⟩
    cases arises with
    | unknownFamily unspelt => exact .inl unspelt
    | notLiteral spelt unparsed => exact .inr (.inl unparsed)
    | otherFamily spelt parsed different => exact .inr (.inr ⟨_, _, spelt, parsed, different⟩)

theorem not_refused_of_checkListed {label address : String} {family : Family}
    (checked : checkListed label address = .ok family) : ¬Refused label address := by
  intro refused
  obtain ⟨fault, failed⟩ := refused_iff.1 refused
  cases checked.symm.trans failed

theorem family?_of_not_refused {label address : String} {family : Family} (sound : ¬Refused label address)
    (spelt : family.SpeltBy label) : Literal.family? address = some family := by
  cases parsed : Literal.family? address with
  | none => exact absurd (.inr (.inl parsed)) sound
  | some actual =>
    refine congrArg some (Classical.byContradiction fun different => sound ?_)
    exact .inr (.inr ⟨family, actual, spelt, parsed, different⟩)

theorem speltBy_of_checkListed {label address : String} {family : Family}
    (checked : checkListed label address = .ok family) : family.SpeltBy label := by
  unfold checkListed at checked
  split at checked
  · cases checked
  · rename_i listed named
    split at checked
    · cases checked
    · split at checked
      · exact Except.ok.inj checked ▸ Family.ofLabel?_eq_some_iff.1 named
      · cases checked

/-! ## Labelled addresses -/

theorem overlay_eq_error_iff {h : Host} {pairs : List (String × String)} {fault : AddressFault} :
    overlay h pairs = .error fault ↔ ∃ earlier label address later,
      pairs = earlier ++ (label, address) :: later ∧ fault.Arises label address ∧
        ∀ entry ∈ earlier, ¬Refused entry.1 entry.2 := by
  induction pairs generalizing h with
  | nil =>
    refine iff_of_false (fun overlaid => by cases overlaid) ?_
    rintro ⟨earlier, label, address, later, split, -⟩
    exact List.append_ne_nil_of_right_ne_nil _ (List.cons_ne_nil _ _) split.symm
  | cons pair rest ih =>
    obtain ⟨label, address⟩ := pair
    unfold overlay
    cases checked : checkListed label address with
    | error found =>
      have refused : Refused label address := refused_iff.2 ⟨found, checked⟩
      constructor
      · intro same
        exact ⟨[], label, address, rest, rfl, Except.error.inj same ▸ checkListed_eq_error_iff.1 checked,
          List.forall_mem_nil _⟩
      · -- A fault further on would come after the pair at the head, which is refused already.
        rintro ⟨earlier, other, value, later, split, arises, sound⟩
        cases earlier with
        | nil =>
          cases split
          exact congrArg Except.error (Except.error.inj (checked.symm.trans (checkListed_eq_error_iff.2 arises)))
        | cons first earlier =>
          cases split
          exact absurd refused (sound _ List.mem_cons_self)
    | ok family =>
      refine ih.trans ⟨?_, ?_⟩
      · rintro ⟨earlier, other, value, later, rfl, arises, sound⟩
        exact ⟨(label, address) :: earlier, other, value, later, rfl, arises,
          List.forall_mem_cons.2 ⟨not_refused_of_checkListed checked, sound⟩⟩
      · rintro ⟨earlier, other, value, later, split, arises, sound⟩
        cases earlier with
        | nil =>
          cases split
          cases checked.symm.trans (checkListed_eq_error_iff.2 arises)
        | cons first earlier =>
          cases split
          exact ⟨earlier, other, value, later, rfl, arises, (List.forall_mem_cons.1 sound).2⟩

/-- The address under the last label that spells the family, or else one from elsewhere. -/
inductive Chooses (pairs : List (String × String)) (elsewhere : Option String) (family : Family) :
    Option String → Prop where
  | listed {label address : String} (member : (label, address) ∈ pairs) (spelt : family.SpeltBy label)
    (last : ∀ entry ∈ pairs, family.SpeltBy entry.1 → ¬Text.bytes label < Text.bytes entry.1) :
    Chooses pairs elsewhere family (some address)
  | unlisted (unspelt : ∀ entry ∈ pairs, ¬family.SpeltBy entry.1) : Chooses pairs elsewhere family elsewhere

namespace Chooses

variable {pairs : List (String × String)} {elsewhere first second : Option String} {family : Family}

theorem unique (ascending : Ascending pairs) (chosen : Chooses pairs elsewhere family first)
    (alsoChosen : Chooses pairs elsewhere family second) : first = second := by
  cases chosen with
  | unlisted unspelt =>
    cases alsoChosen with
    | unlisted => rfl
    | listed member spelt => exact absurd spelt (unspelt _ member)
  | listed member spelt last =>
    cases alsoChosen with
    | unlisted unspelt => exact absurd spelt (unspelt _ member)
    | listed alsoMember alsoSpelt alsoLast =>
      have notAfter := last _ alsoMember alsoSpelt
      have notBefore := alsoLast _ member spelt
      rw [Text.bytes_lt_iff] at notAfter notBefore
      have same := String.le_antisymm (String.not_lt.1 notBefore) (String.not_lt.1 notAfter)
      exact congrArg some (congrArg Prod.snd (ascending.eq_of_label_eq member alsoMember same))

theorem cons {label address : String} {listed : Family} (spelt : listed.SpeltBy label)
    (before : ∀ entry ∈ pairs, label < entry.1)
    (chosen : Chooses pairs (if family = listed then some address else elsewhere) family first) :
    Chooses ((label, address) :: pairs) elsewhere family first := by
  cases chosen with
  | @listed other value member alsoSpelt last =>
    refine .listed (List.mem_cons_of_mem _ member) alsoSpelt (List.forall_mem_cons.2 ⟨fun _ less => ?_, last⟩)
    exact String.lt_irrefl _ (String.lt_trans ((Text.bytes_lt_iff _ _).1 less) (before _ member))
  | unlisted unspelt =>
    split
    · rename_i same
      subst same
      refine .listed List.mem_cons_self spelt (List.forall_mem_cons.2 ⟨fun _ => List.lt_irrefl _, ?_⟩)
      exact fun entry member alsoSpelt => absurd alsoSpelt (unspelt entry member)
    · rename_i different
      exact .unlisted (List.forall_mem_cons.2 ⟨fun alsoSpelt => different (alsoSpelt.unique spelt), unspelt⟩)

end Chooses

theorem chooses_of_overlay {h host : Host} {pairs : List (String × String)} (ascending : Ascending pairs)
    (overlaid : overlay h pairs = .ok host) :
    host.name = h.name ∧ ∀ family, Chooses pairs (h.address? family) family (host.address? family) := by
  induction pairs generalizing h with
  | nil =>
    obtain rfl := Except.ok.inj overlaid
    exact ⟨rfl, fun family => .unlisted (List.forall_mem_nil _)⟩
  | cons pair rest ih =>
    obtain ⟨label, address⟩ := pair
    obtain ⟨before, ordered⟩ := List.pairwise_cons.1 ascending
    unfold overlay at overlaid
    split at overlaid
    · cases overlaid
    · rename_i listed checked
      obtain ⟨named, chosen⟩ := ih ordered overlaid
      refine ⟨named.trans (h.name_setAddress listed address), fun family => ?_⟩
      have rest := chosen family
      rw [Host.address?_setAddress] at rest
      exact rest.cons (speltBy_of_checkListed checked) before

theorem not_refused_of_overlay {h host : Host} {pairs : List (String × String)}
    (overlaid : overlay h pairs = .ok host) : ∀ entry ∈ pairs, ¬Refused entry.1 entry.2 := by
  induction pairs generalizing h with
  | nil => exact List.forall_mem_nil _
  | cons pair rest ih =>
    unfold overlay at overlaid
    split at overlaid
    · cases overlaid
    · rename_i checked
      exact List.forall_mem_cons.2 ⟨not_refused_of_checkListed checked, ih overlaid⟩

end HostDeclaration

/-! ## Reported addresses -/

namespace NodeAddress

def CountsFor (family : Family) (reported : NodeAddress) : Prop :=
  reported.kind = .internal ∧ Literal.family? reported.address = some family

instance (family : Family) (reported : NodeAddress) : Decidable (reported.CountsFor family) :=
  inferInstanceAs (Decidable (_ ∧ _))

def Unparsable (reported : NodeAddress) : Prop :=
  reported.kind = .internal ∧ Literal.family? reported.address = none

instance (reported : NodeAddress) : Decidable reported.Unparsable := inferInstanceAs (Decidable (_ ∧ _))

theorem CountsFor.unique {family other : Family} {reported : NodeAddress} (counts : reported.CountsFor family)
    (alsoCounts : reported.CountsFor other) : family = other :=
  Option.some.inj (counts.2.symm.trans alsoCounts.2)

theorem CountsFor.not_unparsable {family : Family} {reported : NodeAddress} (counts : reported.CountsFor family) :
    ¬reported.Unparsable := by
  rintro ⟨-, unparsed⟩
  cases counts.2.symm.trans unparsed

end NodeAddress

namespace Host

theorem ext {h g : Host} (name : h.name = g.name) (addresses : ∀ family, h.address? family = g.address? family) :
    h = g := by
  cases h
  cases g
  exact (Host.mk.injEq ..).mpr ⟨name, addresses .ipv4, addresses .ipv6⟩

theorem consider_cases (h : Host) (reported : NodeAddress) :
    reported.Unparsable ∧ h.consider reported = ⟨h, [.event (.addressSkipped h.name reported.address)]⟩ ∨
      (∃ family, reported.CountsFor family ∧ h.consider reported =
        pure (if (h.address? family).isSome then h else h.setAddress family reported.address)) ∨
      reported.kind ≠ .internal ∧ h.consider reported = pure h := by
  obtain ⟨kind, address⟩ := reported
  unfold consider
  cases kind with
  | external => exact .inr (.inr ⟨nofun, rfl⟩)
  | hostname => exact .inr (.inr ⟨nofun, rfl⟩)
  | internal =>
    cases parsed : Literal.family? address with
    | none => exact .inl ⟨⟨rfl, parsed⟩, rfl⟩
    | some family =>
      exact .inr (.inl ⟨family, ⟨rfl, parsed⟩, (apply_ite pure _ _ _).symm⟩)

theorem name_consider (h : Host) (reported : NodeAddress) : (h.consider reported).value.name = h.name := by
  rcases h.consider_cases reported with ⟨-, considered⟩ | ⟨family, -, considered⟩ | ⟨-, considered⟩
  · rw [considered]
  · rw [considered, Observed.value_pure]
    split
    · rfl
    · exact h.name_setAddress family reported.address
  · rw [considered, Observed.value_pure]

theorem address?_consider (h : Host) (reported : NodeAddress) (family : Family) :
    (h.consider reported).value.address? family =
      (h.address? family).or (if reported.CountsFor family then some reported.address else none) := by
  rcases h.consider_cases reported with
    ⟨unparsable, considered⟩ | ⟨actual, counts, considered⟩ | ⟨external, considered⟩
  · rw [considered, if_neg fun counts => counts.not_unparsable unparsable, Option.or_none]
  · rw [considered, Observed.value_pure]
    by_cases same : family = actual
    · subst same
      rw [if_pos counts]
      cases held : h.address? family with
      | some address => exact held
      | none => exact (h.address?_setAddress family family reported.address).trans (if_pos rfl)
    · have uncounted : ¬reported.CountsFor family := fun alsoCounts => same (alsoCounts.unique counts)
      rw [if_neg uncounted, Option.or_none]
      split
      · rfl
      · exact (h.address?_setAddress actual family reported.address).trans (if_neg same)
  · rw [considered, Observed.value_pure, if_neg fun counts => external counts.1, Option.or_none]

theorem seen_consider (h : Host) (reported : NodeAddress) :
    (h.consider reported).seen =
      if reported.Unparsable then [.event (.addressSkipped h.name reported.address)] else [] := by
  rcases h.consider_cases reported with
    ⟨unparsable, considered⟩ | ⟨actual, counts, considered⟩ | ⟨external, considered⟩
  · rw [considered, if_pos unparsable]
  · rw [considered, Observed.seen_pure, if_neg counts.not_unparsable]
  · rw [considered, Observed.seen_pure, if_neg fun unparsable => external unparsable.1]

theorem foldlM_consider (h : Host) (reported : List NodeAddress) :
    (reported.foldlM consider h).value.name = h.name ∧
      (∀ family, (reported.foldlM consider h).value.address? family =
        (h.address? family).or ((reported.find? (·.CountsFor family)).map NodeAddress.address)) ∧
      (reported.foldlM consider h).seen =
        (reported.filter (·.Unparsable)).map fun r => .event (.addressSkipped h.name r.address) := by
  induction reported generalizing h with
  | nil => exact ⟨rfl, fun family => Option.or_none.symm, rfl⟩
  | cons first rest ih =>
    obtain ⟨name, chosen, seen⟩ := ih (h.consider first).value
    rw [List.foldlM_cons, Observed.value_bind, Observed.seen_bind]
    refine ⟨name.trans (h.name_consider first), fun family => ?_, ?_⟩
    · rw [chosen, address?_consider, Option.or_assoc, List.find?_cons]
      by_cases counts : first.CountsFor family
      · simp [counts]
      · simp [counts]
    · rw [seen, seen_consider, name_consider, List.filter_cons]
      by_cases unparsable : first.Unparsable
      · simp [unparsable]
      · simp [unparsable]

end Host

namespace HostDeclaration

def reported? (d : HostDeclaration) (family : Family) : Option String :=
  (d.nodeAddresses.find? (·.CountsFor family)).map NodeAddress.address

theorem run_resolve (d : HostDeclaration) : d.resolve.run = do
    let host ← Host.ofNodeAddresses d.name d.nodeAddresses
    return overlay host d.addresses.pairs := by
  rw [resolve]
  exact ExceptT.run_bind_lift (Host.ofNodeAddresses d.name d.nodeAddresses) fun host =>
    ExceptT.mk (pure (overlay host d.addresses.pairs))

theorem value_resolve (d : HostDeclaration) : d.resolve.run.value =
    overlay (Host.ofNodeAddresses d.name d.nodeAddresses).value d.addresses.pairs := by
  rw [run_resolve, Observed.value_bind, Observed.value_pure]

theorem seen_resolve (d : HostDeclaration) :
    d.resolve.run.seen =
      (d.nodeAddresses.filter (·.Unparsable)).map fun r => .event (.addressSkipped d.name r.address) := by
  rw [run_resolve, Observed.seen_bind, Observed.seen_pure, List.append_nil]
  exact (Host.foldlM_consider { name := d.name } d.nodeAddresses).2.2

theorem address?_ofNodeAddresses (d : HostDeclaration) (family : Family) :
    (Host.ofNodeAddresses d.name d.nodeAddresses).value.address? family = d.reported? family := by
  have unset : Host.address? { name := d.name } family = none := by cases family <;> rfl
  rw [Host.ofNodeAddresses, (Host.foldlM_consider { name := d.name } d.nodeAddresses).2.1, unset, Option.none_or]
  rfl

theorem resolve_eq_error_iff {d : HostDeclaration} {fault : AddressFault} :
    d.resolve.run.value = .error fault ↔
      ∃ label address, (label, address) ∈ d.addresses.pairs ∧ fault.Arises label address ∧
        ∀ entry ∈ d.addresses.pairs, Text.bytes entry.1 < Text.bytes label → ¬Refused entry.1 entry.2 := by
  simp only [value_resolve, overlay_eq_error_iff, Text.bytes_lt_iff]
  have ascending := d.addresses.ascending
  constructor
  · rintro ⟨earlier, label, address, later, split, arises, sound⟩
    rw [split] at ascending ⊢
    refine ⟨label, address, List.mem_append_right _ List.mem_cons_self, arises, fun entry member before => ?_⟩
    exact sound entry ((ascending.mem_earlier_iff member).2 before)
  · rintro ⟨label, address, member, arises, sound⟩
    obtain ⟨earlier, later, split⟩ := List.append_of_mem member
    rw [split] at ascending sound ⊢
    refine ⟨earlier, label, address, later, rfl, arises, fun entry isEarlier => ?_⟩
    have member := List.mem_append_left ((label, address) :: later) isEarlier
    exact sound entry member ((ascending.mem_earlier_iff member).1 isEarlier)

theorem resolve_fails_iff {d : HostDeclaration} : (∃ fault, d.resolve.run.value = .error fault) ↔
    ∃ entry ∈ d.addresses.pairs, Refused entry.1 entry.2 := by
  constructor
  · rintro ⟨fault, failed⟩
    obtain ⟨label, address, member, arises, -⟩ := resolve_eq_error_iff.1 failed
    exact ⟨(label, address), member, refused_iff.2 ⟨fault, checkListed_eq_error_iff.2 arises⟩⟩
  · rintro ⟨entry, member, refused⟩
    cases resolved : d.resolve.run.value with
    | error fault => exact ⟨fault, rfl⟩
    | ok host => exact absurd refused (not_refused_of_overlay resolved entry member)

theorem chooses_of_resolve {d : HostDeclaration} {host : Host} (resolved : d.resolve.run.value = .ok host) :
    host.name = d.name ∧
      ∀ family, Chooses d.addresses.pairs (d.reported? family) family (host.address? family) := by
  obtain ⟨named, chosen⟩ := chooses_of_overlay d.addresses.ascending resolved
  refine ⟨named.trans (Host.foldlM_consider { name := d.name } d.nodeAddresses).1, fun family => ?_⟩
  rw [← d.address?_ofNodeAddresses family]
  exact chosen family

theorem resolve_eq_ok_iff {d : HostDeclaration} {host : Host} : d.resolve.run.value = .ok host ↔
    (∀ entry ∈ d.addresses.pairs, ¬Refused entry.1 entry.2) ∧ host.name = d.name ∧
      ∀ family, Chooses d.addresses.pairs (d.reported? family) family (host.address? family) := by
  constructor
  · intro resolved
    exact ⟨not_refused_of_overlay resolved, chooses_of_resolve resolved⟩
  · rintro ⟨sound, named, chosen⟩
    cases resolved : d.resolve.run.value with
    | error fault =>
      obtain ⟨entry, member, refused⟩ := resolve_fails_iff.1 ⟨fault, resolved⟩
      exact absurd refused (sound entry member)
    | ok other =>
      obtain ⟨otherNamed, otherChosen⟩ := chooses_of_resolve resolved
      refine congrArg Except.ok (Host.ext (otherNamed.trans named.symm) fun family => ?_)
      exact (otherChosen family).unique d.addresses.ascending (chosen family)

/-- A declaration is refused if an entry is at fault, and then for the first cause of the first
such entry in byte order of the labels. Otherwise the host has for each family the address under
the last label that spells it, or else the first internal literal that is reported. In both cases
there is one warning for each internal address that is no literal, in the order of the list. -/
theorem resolve_exact (d : HostDeclaration) :
    ((∃ fault, d.resolve.run.value = .error fault) ↔ ∃ entry ∈ d.addresses.pairs, Refused entry.1 entry.2) ∧
      (∀ fault, d.resolve.run.value = .error fault ↔
        ∃ label address, (label, address) ∈ d.addresses.pairs ∧ fault.Arises label address ∧
          ∀ entry ∈ d.addresses.pairs, Text.bytes entry.1 < Text.bytes label → ¬Refused entry.1 entry.2) ∧
      (∀ host, d.resolve.run.value = .ok host ↔
        (∀ entry ∈ d.addresses.pairs, ¬Refused entry.1 entry.2) ∧ host.name = d.name ∧
          ∀ family, Chooses d.addresses.pairs (d.reported? family) family (host.address? family)) ∧
      d.resolve.run.seen =
        (d.nodeAddresses.filter (·.Unparsable)).map fun r => .event (.addressSkipped d.name r.address) :=
  ⟨resolve_fails_iff, fun _ => resolve_eq_error_iff, fun _ => resolve_eq_ok_iff, d.seen_resolve⟩

/-- Two spellings of one family, of which the later label counts, and a family that is only reported. -/
example :
    (HostDeclaration.mk "node" ((Listing.empty.insert "ipv4" "10.0.0.2").insert "IPV4" "10.0.0.1")
      [⟨.internal, "fe80::1"⟩, ⟨.internal, "10.0.0.9"⟩, ⟨.internal, "node.local"⟩,
        ⟨.internal, "fe80::2"⟩]).resolve.run =
    ⟨.ok ⟨"node", some "10.0.0.2", some "fe80::1"⟩, [.event (.addressSkipped "node" "node.local")]⟩ := by
  decide +kernel

end HostDeclaration

end ServiceProxy
