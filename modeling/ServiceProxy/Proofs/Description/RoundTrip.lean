import ServiceProxy.Proofs.Description.Addresses
import ServiceProxy.Proofs.Json.Writing

/-! Descriptions as data trees and as compact JSON text. Main statement: a description whose
addresses are literals of their families is what every JSON text of its tree is parsed to. -/

set_option autoImplicit false

namespace ServiceProxy

/-! ## Written descriptions -/

def ServicePort.datum (p : ServicePort) : Datum := .record (.ofList [
  ("listenPort", .integer p.listen.toNat),
  ("targetPort", .integer p.target.toNat),
  ("protocol", .text p.protocol.name)])

def ServicePort.json (p : ServicePort) : List Char := Json.object [
  ("listenPort", Json.number p.listen.toNat),
  ("targetPort", Json.number p.target.toNat),
  ("protocol", Json.quoted p.protocol.name)]

def Service.datum (s : Service) : Datum := .record (.ofList [
  ("ports", .list (.ofList (s.ports.map ServicePort.datum))),
  ("ipFamilies", .list (.ofList (s.families.map fun f => .text f.name))),
  ("healthCheckPort", .integer s.healthCheckPort.toNat)])

def Service.json (s : Service) : List Char := Json.object [
  ("ports", Json.array (s.ports.map ServicePort.json)),
  ("ipFamilies", Json.array (s.families.map fun f => Json.quoted f.name)),
  ("healthCheckPort", Json.number s.healthCheckPort.toNat)]

def Host.labelled (h : Host) : List (String × String) :=
  [Family.ipv4, .ipv6].filterMap fun f => (h.address? f).map fun address => (f.name, address)

def Host.datum (h : Host) : Datum := .record (.ofList [
  ("name", .text h.name),
  ("addresses", .record (.ofList (h.labelled.map fun pair => (pair.1, .text pair.2))))])

def Host.json (h : Host) : List Char := Json.object [
  ("name", Json.quoted h.name),
  ("addresses", Json.object (h.labelled.map fun pair => (pair.1, Json.quoted pair.2)))]

namespace Description

def datum (d : Description) : Datum := .record (.ofList [
  ("service", d.service.elim .null Service.datum),
  ("nodes", .list (.ofList (d.nodes.map Host.datum)))])

def json (d : Description) : String := String.ofList (Json.object [
  ("service", d.service.elim "null".toList Service.json),
  ("nodes", Json.array (d.nodes.map Host.json))])

end Description

section

open Json

theorem spells_port (p : Port) : Spells (.integer p.toNat) (number p.toNat) :=
  spells_number (Nat.lt_trans p.toNat_lt (by decide))

theorem ServicePort.spells_json (p : ServicePort) : Spells p.datum p.json :=
  spells_object (.cons (spells_port p.listen) (.cons (spells_port p.target)
    (.cons (spells_quoted p.protocol.name) .nil)))

theorem Service.spells_json (s : Service) : Spells s.datum s.json :=
  spells_object (.cons (spells_array_map ServicePort.spells_json s.ports)
    (.cons (spells_array_map (fun f => spells_quoted f.name) s.families)
      (.cons (spells_port s.healthCheckPort) .nil)))

theorem Host.spells_json (h : Host) : Spells h.datum h.json := by
  have addresses : ∀ pairs : List (String × String), SpellsEach (pairs.map fun pair => (pair.1, .text pair.2))
      (pairs.map fun pair => (pair.1, quoted pair.2)) := by
    intro pairs
    induction pairs with
    | nil => exact .nil
    | cons pair rest ih => exact .cons (spells_quoted pair.2) ih
  exact spells_object (.cons (spells_quoted h.name) (.cons (spells_object (addresses h.labelled)) .nil))

theorem Description.writes_json (d : Description) : Writes d.datum d.json := by
  have service : Spells (d.service.elim .null Service.datum) (d.service.elim "null".toList Service.json) := by
    cases d.service with
    | none => exact .null
    | some s => exact s.spells_json
  have whole : Spells d.datum d.json.toList := by
    rw [json, String.toList_ofList]
    exact spells_object (.cons service (.cons (spells_array_map Host.spells_json d.nodes) .nil))
  exact whole.pads

example : (Description.mk none [⟨"a\t\x01", some "10.0.0.1", none⟩]).json =
    "\x7b\"service\":null,\"nodes\":[\x7b\"name\":\"a\\t\\u0001\",\"addresses\":\x7b\"IPv4\":\"10.0.0.1\"\x7d\x7d]\x7d" := by
  decide

end

/-! ## Reading them back -/

section

variable {σ α β : Type}

namespace Shape

/-- No field answers to the name of a field after it. -/
def Tells (shape : Shape σ α) : Prop := shape.slots.Pairwise fun one other => one.answersTo other.name = false

instance (shape : Shape σ α) : Decidable shape.Tells :=
  inferInstanceAs
    (Decidable (List.Pairwise (fun one other : Slot σ => one.answersTo other.name = false) shape.slots))

variable {shape : Shape σ α} {format : Format}

theorem Tells.find? (tells : shape.Tells) {i : Nat} {slot : Slot σ} (place : shape.slots[i]? = some slot) :
    (shape.slots.find? fun other => other.answersTo slot.name) = some slot := by
  obtain ⟨inside, rfl⟩ := List.getElem?_eq_some_iff.1 place
  have own : (shape.slots[i]).answersTo (shape.slots[i]).name = true := by simp [Slot.answersTo]
  refine List.find?_eq_some_iff_getElem.2 ⟨own, i, inside, rfl, fun j before => ?_⟩
  rw [List.pairwise_iff_getElem.1 tells j i (Nat.lt_trans before inside) inside before, Bool.not_false]

theorem Tells.fillNamed (tells : shape.Tells) (i : Nat) {name : String} {aliases : List String} {required : Bool}
    {get : σ → Option β} {set : β → σ → σ} {read : Format → Datum → Decoded β} {d : Datum} {b : β}
    {tail : Members} {draft : σ} (place : shape.slots[i]? = some (.of name aliases required get set read))
    (fresh : get draft = none) (value : read format d = pure b) :
    shape.fillNamed format (.more (some name) d tail) draft = shape.fillNamed format tail (set b draft) := by
  have found : (shape.slots.find? fun other => other.answersTo name) = _ := tells.find? place
  rw [Shape.fillNamed, found]
  simp [Slot.of, fresh, value]

end Shape

theorem Datum.toList_map {read : Datum → Decoded α} {datum : α → Datum} {xs : List α}
    (back : ∀ x ∈ xs, read (datum x) = pure x) :
    toList read (.list (.ofList (xs.map datum))) = pure xs := by
  change (Items.ofList (xs.map datum)).toList read = pure xs
  induction xs with
  | nil => rfl
  | cons x rest ih =>
    obtain ⟨first, others⟩ := List.forall_mem_cons.1 back
    rw [List.map_cons, Items.ofList, Items.toList, first, pure_bind, ih others, pure_bind]

theorem Datum.toPort_toNat (p : Port) : toPort (.integer p.toNat) = pure p := by
  have fits : 0 ≤ (p.toNat : Int) ∧ (p.toNat : Int) < UInt16.size :=
    ⟨Int.natCast_nonneg _, Int.ofNat_lt.2 p.toNat_lt⟩
  rw [toPort, toNatBelow, if_pos fits, map_pure, Int.toNat_natCast, UInt16.ofNat_toNat]

theorem Datum.toVariant_protocol (p : Protocol) : toVariant Protocol.variants .json (.text p.name) = pure p := by
  cases p <;> rfl

theorem Datum.toVariant_family (f : Family) : toVariant Family.variants .json (.text f.name) = pure f := by
  cases f <;> rfl

theorem ServicePort.read_datum (p : ServicePort) : ServicePort.shape.read .json p.datum = pure p := by
  have tells : ServicePort.shape.Tells := by decide
  change ServicePort.shape.ofMembers .json _ = _
  simp only [Shape.ofMembers, Members.ofList]
  rw [tells.fillNamed 0 rfl rfl (Datum.toPort_toNat p.listen),
    tells.fillNamed 1 rfl rfl (Datum.toPort_toNat p.target),
    tells.fillNamed 2 rfl rfl (Datum.toVariant_protocol p.protocol)]
  rfl

theorem Service.read_datum (s : Service) : Service.shape.read .json s.datum = pure s := by
  have tells : Service.shape.Tells := by decide
  have ports := Datum.toList_map fun p (_ : p ∈ s.ports) => p.read_datum
  have families := Datum.toList_map fun f (_ : f ∈ s.families) => Datum.toVariant_family f
  change Service.shape.ofMembers .json _ = _
  simp only [Shape.ofMembers, Members.ofList]
  rw [tells.fillNamed 0 rfl rfl ports, tells.fillNamed 1 rfl rfl families,
    tells.fillNamed 2 rfl rfl (Datum.toPort_toNat s.healthCheckPort)]
  rfl

theorem Host.ofDatum_labelled (h : Host) :
    ∃ l : Listing, Listing.ofDatum (.record (.ofList (h.labelled.map fun pair => (pair.1, .text pair.2)))) = pure l ∧
      l.pairs = h.labelled := by
  obtain ⟨name, ipv4, ipv6⟩ := h
  cases ipv4 with
  | none => cases ipv6 <;> exact ⟨_, rfl, rfl⟩
  | some first =>
    cases ipv6 with
    | none => exact ⟨_, rfl, rfl⟩
    | some second =>
      -- Only two labels can come in another order than they are written in.
      have behind : ¬"IPv6" < "IPv4" := by decide
      have apart : "IPv6" ≠ "IPv4" := by decide
      refine ⟨_, rfl, ?_⟩
      change Ordered.place "IPv6" second [("IPv4", first)] = [("IPv4", first), ("IPv6", second)]
      rw [Ordered.place, if_neg behind, if_neg apart, Ordered.place]

theorem HostDeclaration.overlay_cons {family : Family} {address : String}
    (actual : Literal.family? address = some family) (h : Host) (rest : List (String × String)) :
    overlay h ((family.name, address) :: rest) = overlay (h.setAddress family address) rest := by
  have checked : checkListed family.name address = .ok family := by simp [checkListed, actual]
  rw [overlay, checked]

theorem Host.overlay_labelled {h : Host} (addressed : h.WellAddressed) :
    HostDeclaration.overlay { name := h.name } h.labelled = .ok h := by
  obtain ⟨name, ipv4, ipv6⟩ := h
  cases ipv4 with
  | none =>
    cases ipv6 with
    | none => rfl
    | some second => exact HostDeclaration.overlay_cons (addressed .ipv6 second rfl) _ _
  | some first =>
    refine (HostDeclaration.overlay_cons (addressed .ipv4 first rfl) _ _).trans ?_
    cases ipv6 with
    | none => rfl
    | some second => exact HostDeclaration.overlay_cons (addressed .ipv6 second rfl) _ _

theorem Host.read_datum {h : Host} (addressed : h.WellAddressed) : Host.shape.read .json h.datum = pure h := by
  have tells : Host.shape.Tells := by decide
  obtain ⟨l, listing, pairs⟩ := h.ofDatum_labelled
  have name : Datum.toText (.text h.name) = pure h.name := rfl
  -- No node addresses are written, so nothing stands under the labelled ones.
  have resolved : (HostDeclaration.mk h.name l []).resolve = pure h := by
    change (ExceptT.mk (pure (HostDeclaration.overlay { name := h.name } l.pairs)) :
      ExceptT AddressFault Observed Host) = _
    rw [pairs, Host.overlay_labelled addressed]
    rfl
  change Host.shape.ofMembers .json _ = _
  simp only [Shape.ofMembers, Members.ofList]
  rw [tells.fillNamed 0 rfl rfl name, tells.fillNamed 1 rfl rfl listing]
  change (HostDeclaration.mk h.name l []).resolve.adapt _ = _
  rw [resolved]
  rfl

theorem Description.read_datum {d : Description} (addressed : ∀ h ∈ d.nodes, h.WellAddressed) :
    Description.shape.read .json d.datum = pure d := by
  have tells : Description.shape.Tells := by decide
  have service : Datum.toOption (Service.shape.read .json) (d.service.elim .null Service.datum) = pure d.service := by
    cases d.service with
    | none => rfl
    | some s =>
      change some <$> Service.shape.read .json s.datum = pure (some s)
      rw [s.read_datum, map_pure]
  have nodes := Datum.toList_map fun h (isNode : h ∈ d.nodes) => Host.read_datum (addressed h isNode)
  change Description.shape.ofMembers .json _ = _
  simp only [Shape.ofMembers, Members.ofList]
  rw [tells.fillNamed 0 rfl rfl service, tells.fillNamed 1 rfl rfl nodes]
  rfl

theorem Description.parse_of_writes {d : Description} (addressed : ∀ h ∈ d.nodes, h.WellAddressed) {text : String}
    (writes : Json.Writes d.datum text) : parse .json text = pure d := by
  change Json.parse Description.shape text = pure d
  rw [Json.parse, Json.read_of_writes writes, read_datum addressed, pure_bind, if_pos rfl]

end

/-- Every JSON text of a description with fitting addresses is parsed to that description, with
nothing observed on the way. Its compact text is one of them, and no other descriptions are ever
parsed. -/
theorem Description.parse_json_round_trip :
    (∀ d : Description, (∀ h ∈ d.nodes, h.WellAddressed) →
      Json.Writes d.datum d.json ∧ ∀ text, Json.Writes d.datum text → parse .json text = pure d) ∧
    ∀ format text d, Yields (parse format text) d → ∀ h ∈ d.nodes, h.WellAddressed := by
  constructor
  · intro d addressed
    exact ⟨d.writes_json, fun text writes => parse_of_writes addressed writes⟩
  · intro format text d parsed
    exact wellAddressed_of_yields_parse parsed

theorem Host.wellAddressed_iff {h : Host} : h.WellAddressed ↔
    (∀ address ∈ h.ipv4, Literal.family? address = some .ipv4) ∧
      ∀ address ∈ h.ipv6, Literal.family? address = some .ipv6 := by
  constructor
  · exact fun addressed => ⟨fun address held => addressed .ipv4 address held,
      fun address held => addressed .ipv6 address held⟩
  · rintro ⟨first, second⟩ family address held
    cases family with
    | ipv4 => exact first address held
    | ipv6 => exact second address held

instance (h : Host) : Decidable h.WellAddressed := decidable_of_iff _ Host.wellAddressed_iff.symm

/-- Names with characters that have to be escaped and one beyond the first plane, a family twice,
a port of zero and a protocol that is not proxied. -/
def Description.intricate : Description :=
  ⟨some ⟨[⟨80, 30080, .tcp⟩, ⟨53, 0, .sctp⟩], [.ipv6, .ipv4, .ipv6], 65535⟩,
    [⟨"rack \"7\"\\\n\x00\x1f\x7f/é𝄞", some "10.0.0.1", some "fd00::1"⟩, ⟨"", none, none⟩]⟩

theorem Description.parse_json_intricate :
    parse .json intricate.json = pure intricate ∧ ∀ h ∈ intricate.nodes, h.WellAddressed := by
  obtain ⟨writes, back⟩ := parse_json_round_trip.1 intricate (by decide +kernel)
  have parsed := back intricate.json writes
  exact ⟨parsed, parse_json_round_trip.2 .json intricate.json intricate (by rw [parsed, yields_pure])⟩

end ServiceProxy
