import ServiceProxy.Proofs.Compiling
import ServiceProxy.Proofs.Document.AddressLines

/-! Which addresses of a document a reader takes for one scalar. A colon inside a plain scalar
has to be followed by a character that is not blank. An accepted address holds no blanks, so it
is misread exactly when it ends in a colon. -/

set_option autoImplicit false

namespace ServiceProxy

namespace Scalar

/-- Between double quotes, with nothing inside that ends or escapes them. -/
def Quoted (text : String) : Prop :=
  ∃ inner : String, text = "\"" ++ inner ++ "\"" ∧ '"' ∉ inner.toList ∧ '\\' ∉ inner.toList

/-- Every colon is followed by a further character that is not blank. -/
def ColonsInside (text : String) : Prop := ∀ front back, text.toList = front ++ ':' :: back →
  ∃ c rest, back = c :: rest ∧ isBlank c = false

/-- A quoted scalar, or one that no colon of its own turns into a key. -/
def Readable (text : String) : Prop := Quoted text ∨ ColonsInside text

/-- The text ends in the two colons that stand for a gap of zero groups. -/
def EndsGap (text : String) : Prop := ∃ front : String, text = front ++ "::"

theorem colonsInside_iff {text : String} (plain : isPlain text = true) :
    ColonsInside text ↔ ∀ front, text.toList ≠ front ++ [':'] := by
  constructor
  · intro inside front split
    obtain ⟨c, rest, none, -⟩ := inside front [] split
    cases none
  · intro inner front back split
    cases back with
    | nil => exact absurd split (inner front)
    | cons c rest =>
      -- A plain scalar holds no blank, so any character behind the colon will do.
      have member : c ∈ text.toList := by rw [split]; simp
      have allowed := isForbidden_of_isPlain plain member
      simp only [isForbidden, Bool.or_eq_false_iff] at allowed
      exact ⟨c, rest, rfl, allowed.1.1⟩

theorem not_quoted_of_isPlain {text : String} (plain : isPlain text = true) : ¬Quoted text := by
  rintro ⟨inner, rfl, -⟩
  have quote : '"' ∈ ("\"" ++ inner ++ "\"").toList := by simp
  have allowed := isForbidden_of_isPlain plain quote
  revert allowed
  decide

theorem EndsGap.endsColon {text : String} (gap : EndsGap text) : ∃ front, text.toList = front ++ [':'] := by
  obtain ⟨front, rfl⟩ := gap
  exact ⟨front.toList ++ [':'], by simp⟩

theorem EndsGap.getLast? {text : String} (gap : EndsGap text) : text.toList.getLast? = some ':' := by
  obtain ⟨front, ends⟩ := gap.endsColon
  rw [ends, List.getLast?_concat]

theorem endsGap_of_family? {text : String} {family : Family} (literal : Literal.family? text = some family)
    {front : List Char} (ends : text.toList = front ++ [':']) : EndsGap text := by
  unfold Literal.family? at literal
  split at literal
  · rename_i fourth
    have colon : ':' ∈ text.toList := by rw [ends]; simp
    have digits := Literal.not_colon_of_isIPv4 fourth
    exact absurd colon digits
  · split at literal
    · rename_i sixth
      rw [ends] at sixth
      obtain ⟨head, gap⟩ := Literal.endsGap_of_isIPv6 sixth
      refine ⟨String.ofList head, String.toList_injective ?_⟩
      rw [ends, gap]
      simp
    · cases literal

theorem readable_iff_of_family? {text : String} {family : Family}
    (literal : Literal.family? text = some family) : Readable text ↔ ¬EndsGap text := by
  have plain := Literal.isPlain_of_family? literal
  have inside := colonsInside_iff plain
  constructor
  · rintro (quoted | colons) gap
    · exact not_quoted_of_isPlain plain quoted
    · obtain ⟨front, ends⟩ := gap.endsColon
      exact inside.1 colons front ends
  · intro other
    exact .inr (inside.2 fun front ends => other (endsGap_of_family? literal ends))

theorem not_endsGap_wildcard (family : Family) : ¬EndsGap family.wildcard := by
  intro gap
  have last := gap.getLast?
  revert last
  cases family <;> decide

theorem readable_wildcard (family : Family) : Readable family.wildcard := by
  cases family with
  | ipv4 =>
    have literal : Literal.family? Family.ipv4.wildcard = some .ipv4 := by decide
    exact (readable_iff_of_family? literal).2 (not_endsGap_wildcard .ipv4)
  -- The wildcard carries its own quotes.
  | ipv6 => exact .inl ⟨"::", by decide, by decide, by decide⟩

end Scalar

namespace Document

open Routing

theorem entry_address_iff {s : Service} {nodes : List Host} {key : Key} {entry : Entry} {address : String}
    (bound : (key, entry) ∈ (Model.ofDescription ⟨some s, nodes⟩).value.entries) :
    (entry.listener.address = address ∨ ∃ backend ∈ entry.cluster, backend.address = address) ↔
      address = key.family.wildcard ∨ ∃ host ∈ nodes, host.address? key.family = some address := by
  rw [(entry_of_mem bound).1, exists_mem_cluster_iff bound, eq_comm]

theorem mem_addressesOf_iff {d : Description} {address : String} :
    address ∈ addressesOf (Model.ofDescription d).value.sorted ↔
      ∃ service, d.service = some service ∧ (∃ port ∈ service.ports, port.protocol.proxyable) ∧
        ∃ family ∈ service.families,
          address = family.wildcard ∨ ∃ host ∈ d.nodes, host.address? family = some address := by
  obtain ⟨_ | service, nodes⟩ := d
  · simp [Model.ofDescription, Model.sorted, Model.empty, addressesOf]
  · have sorted := (Model.ofDescription ⟨some service, nodes⟩).value.perm_sorted
    simp only [mem_addressesOf, sorted.mem_iff, Option.some.injEq, exists_eq_left']
    constructor
    · rintro ⟨⟨key, entry⟩, bound, isAddress⟩
      have held := (entry_address_iff bound).1 isAddress
      obtain ⟨family, listed, port, isPort, proxied, rfl⟩ :=
        mem_keys_ofDescription_iff.1 (List.mem_map_of_mem bound)
      exact ⟨⟨port, isPort, proxied⟩, family, listed, held⟩
    · rintro ⟨⟨port, isPort, proxied⟩, family, listed, held⟩
      -- Any proxied port will do: the addresses of an entry depend on its family alone.
      obtain ⟨⟨key, entry⟩, bound, rfl⟩ := List.mem_map.1
        (mem_keys_ofDescription_iff.2 ⟨family, listed, port, isPort, proxied, rfl⟩)
      exact ⟨_, bound, (entry_address_iff bound).2 held⟩

theorem readable_iff_of_mem {d : Description} (addressed : ∀ host ∈ d.nodes, host.WellAddressed)
    {address : String} (member : address ∈ addressesOf (Model.ofDescription d).value.sorted) :
    Scalar.Readable address ↔ ¬Scalar.EndsGap address := by
  obtain ⟨_, -, -, family, -, rfl | ⟨host, isHost, found⟩⟩ := mem_addressesOf_iff.1 member
  · exact iff_of_true (Scalar.readable_wildcard family) (Scalar.not_endsGap_wildcard family)
  · exact Scalar.readable_iff_of_family? (addressed host isHost family address found)

theorem addressTexts_of_compile {d : Description} (addressed : ∀ host ∈ d.nodes, host.WellAddressed)
    {strict : Bool} {text : String} (compiled : (d.compile strict).run.value = .ok text) :
    addressTexts text = addressesOf (Model.ofDescription d).value.sorted := by
  rw [Description.value_compile, Description.value_compileModel_of_wellAddressed addressed] at compiled
  split at compiled
  · cases compiled
  · rw [← Except.ok.inj compiled, addressTexts_document (Model.accepted_ofDescription addressed)]

/-- The address lines of a compiled description hold the addresses of its model, and one of them
is misread exactly when it ends in a gap. So the whole document is read as it is meant exactly
when no host has such an address in a family that a proxied port is reachable in. -/
theorem readable_addressTexts_iff (format : Format) (content : String) (d : Description) (strict : Bool)
    (text : String) (parsed : (Description.parse format content).run.value = .ok d)
    (compiled : (d.compile strict).run.value = .ok text) :
    addressTexts text = addressesOf (Model.ofDescription d).value.sorted ∧
    (∀ address ∈ addressTexts text, Scalar.Readable address ↔ ¬Scalar.EndsGap address) ∧
    ((∀ address ∈ addressTexts text, Scalar.Readable address) ↔
      ∀ service, d.service = some service → (∃ port ∈ service.ports, port.protocol.proxyable) →
        ∀ family ∈ service.families, ∀ host ∈ d.nodes, ∀ address,
          host.address? family = some address → ¬Scalar.EndsGap address) := by
  have addressed := Description.wellAddressed_of_yields_parse parsed
  have texts := addressTexts_of_compile addressed compiled
  have each : ∀ address ∈ addressTexts text, Scalar.Readable address ↔ ¬Scalar.EndsGap address := by
    rw [texts]
    exact fun address member => readable_iff_of_mem addressed member
  refine ⟨texts, each, ?_, ?_⟩
  · intro readable service isService proxied family listed host isHost address found
    have member : address ∈ addressTexts text := texts ▸ mem_addressesOf_iff.2
      ⟨service, isService, proxied, family, listed, .inr ⟨host, isHost, found⟩⟩
    exact (each address member).1 (readable address member)
  · intro gapless address member
    rw [each address member]
    -- What is not the address of a host is a wildcard, and neither of these ends in a gap.
    obtain ⟨service, isService, proxied, family, listed, rfl | ⟨host, isHost, found⟩⟩ :=
      mem_addressesOf_iff.1 (texts ▸ member)
    · exact Scalar.not_endsGap_wildcard family
    · exact gapless service isService proxied family listed host isHost address found

def gapText : String :=
  "[service]\nipFamilies = [\"IPv6\"]\n" ++
  "[[service.ports]]\nlistenPort = 80\ntargetPort = 30000\n" ++
  "[[nodes]]\naddresses.IPv6 = \"fd00::\"\n"

def gapDescription : Description where
  service := some ⟨[⟨80, 30000, .tcp⟩], [.ipv6], 0⟩
  nodes := [⟨"", none, some "fd00::"⟩]

theorem parse_gapText : (Description.parse .toml gapText).run.value = .ok gapDescription := by
  decide +kernel

theorem compile_gapDescription :
    (gapDescription.compile false).run.value = .ok (Model.ofDescription gapDescription).value.document := by
  have addressed := Description.wellAddressed_of_yields_parse parse_gapText
  rw [Description.value_compile, Description.value_compileModel_of_wellAddressed addressed]
  rfl

theorem readable_addressTexts_gap :
    (Description.parse .toml gapText).run.value = .ok gapDescription ∧
    (gapDescription.compile false).run.value = .ok (Model.ofDescription gapDescription).value.document ∧
    addressTexts (Model.ofDescription gapDescription).value.document =
      addressesOf (Model.ofDescription gapDescription).value.sorted ∧
    ((∀ address ∈ addressTexts (Model.ofDescription gapDescription).value.document, Scalar.Readable address) ↔
      ∀ service, gapDescription.service = some service →
        (∃ port ∈ service.ports, port.protocol.proxyable) → ∀ family ∈ service.families,
          ∀ host ∈ gapDescription.nodes, ∀ address,
            host.address? family = some address → ¬Scalar.EndsGap address) := by
  obtain ⟨texts, -, readable⟩ :=
    readable_addressTexts_iff .toml gapText gapDescription false _ parse_gapText compile_gapDescription
  exact ⟨parse_gapText, compile_gapDescription, texts, readable⟩

/-- Not every address line of a compiled description can be read back. -/
theorem misread_addressTexts : ¬∀ (format : Format) (content : String) (d : Description) (strict : Bool)
    (text : String), (Description.parse format content).run.value = .ok d →
      (d.compile strict).run.value = .ok text → ∀ address ∈ addressTexts text, Scalar.Readable address := by
  intro all
  have addressed := Description.wellAddressed_of_yields_parse parse_gapText
  have readable := all .toml gapText gapDescription false _ parse_gapText compile_gapDescription
  rw [addressTexts_of_compile addressed compile_gapDescription] at readable
  have member : "fd00::" ∈ addressesOf (Model.ofDescription gapDescription).value.sorted :=
    mem_addressesOf_iff.2 ⟨_, rfl, ⟨_, List.mem_singleton.2 rfl, rfl⟩, .ipv6, List.mem_singleton.2 rfl,
      .inr ⟨_, List.mem_singleton.2 rfl, rfl⟩⟩
  exact (readable_iff_of_mem addressed member).1 (readable _ member) ⟨"fd00", by decide⟩

end Document

end ServiceProxy
