import Mathlib.Data.List.Perm.Basic
import Mathlib.Logic.Relation
import ServiceProxy.Description.Parse
import ServiceProxy.Proofs.Datum.Wellformed
import ServiceProxy.Proofs.Description.Places
import ServiceProxy.Proofs.Description.RoundTrip

/-! Other spellings of a description in JSON. Main statement: the order of the members of its
records, the two names of a target port and members that no field answers to make no difference,
and a service port does not have both names. -/

set_option autoImplicit false

namespace ServiceProxy

open Json

inductive Constituent : {σ α : Type} → Shape σ α → Prop
  | description : Constituent Description.shape
  | service : Constituent Service.shape
  | servicePort : Constituent ServicePort.shape
  | host : Constituent Host.shape
  | nodeAddress : Constituent NodeAddress.shape

theorem Constituent.separate {σ α : Type} {shape : Shape σ α} (constituent : Constituent shape) :
    shape.Separate := by
  cases constituent with
  | description =>
    exact ⟨by simp [Description.shape, Slot.marks_of],
      by simp [Description.shape, Slot.Independent, Slot.apart_of]⟩
  | service =>
    exact ⟨by simp [Service.shape, Slot.marks_of], by simp [Service.shape, Slot.Independent, Slot.apart_of]⟩
  | servicePort =>
    exact ⟨by simp [ServicePort.shape, Slot.marks_of],
      by simp [ServicePort.shape, Slot.Independent, Slot.apart_of]⟩
  | host => exact ⟨by simp [Host.shape, Slot.marks_of], by simp [Host.shape, Slot.Independent, Slot.apart_of]⟩
  | nodeAddress =>
    exact ⟨by simp [NodeAddress.shape, Slot.marks_of],
      by simp [NodeAddress.shape, Slot.Independent, Slot.apart_of]⟩

/-! ## Other spellings -/

/-- Another way to write the members of a record: in another order, with the other name of a
target port, or with a member more that no field answers to. -/
inductive Rewritten : {σ α : Type} → Shape σ α → List (List Char) → List (List Char) → Prop
  | permuted {σ α : Type} {shape : Shape σ α} {ws ws' : List (List Char)} {ms : List (String × Datum)}
    (parts : List.Forall₂ HoldsMember ws ms) (perm : ws.Perm ws') : Rewritten shape ws ws'
  | renamed {ws ws' : List (List Char)} {ms ms' : List (String × Datum)} {k k' v : List Char} {key key' : String}
    {d : Datum} (before : List.Forall₂ HoldsMember ws ms) (after : List.Forall₂ HoldsMember ws' ms')
    (named : Holds k (.text key)) (named' : Holds k' (.text key')) (held : Holds v d)
    (old : key ∈ ["targetPort", "nodePort"]) (new : key' ∈ ["targetPort", "nodePort"]) :
    Rewritten ServicePort.shape (ws ++ (k ++ ':' :: v) :: ws') (ws ++ (k' ++ ':' :: v) :: ws')
  | extended {σ α : Type} {shape : Shape σ α} {ws ws' : List (List Char)} {ms ms' : List (String × Datum)}
    {k v : List Char} {key : String} {d : Datum} (before : List.Forall₂ HoldsMember ws ms)
    (after : List.Forall₂ HoldsMember ws' ms') (named : Holds k (.text key)) (held : Holds v d)
    (foreign : ∀ slot ∈ shape.slots, key ∉ slot.name :: slot.aliases) :
    Rewritten shape (ws ++ ws') (ws ++ (k ++ ':' :: v) :: ws')

theorem ServicePort.find?_target {key : String} (name : key ∈ ["targetPort", "nodePort"]) :
    (shape.slots.find? fun slot => slot.answersTo key) = shape.slots[1]? := by
  simp only [List.mem_cons, List.not_mem_nil, or_false] at name
  rcases name with rfl | rfl <;> rfl

theorem Rewritten.covers {σ α : Type} {shape : Shape σ α} {ws ws' : List (List Char)}
    (rewritten : Rewritten shape ws ws') (separate : shape.Separate) : ∃ ms ms' : List (String × Datum),
      List.Forall₂ HoldsMember ws ms ∧ List.Forall₂ HoldsMember ws' ms' ∧ shape.Covers .json ms ms' := by
  cases rewritten with
  | permuted parts perm =>
    obtain ⟨ms', parts', perm'⟩ := List.perm_comp_forall₂ perm.symm parts
    exact ⟨_, ms', parts, parts', separate.covers_perm perm'.symm⟩
  | renamed before after named named' held old new =>
    have same := (ServicePort.find?_target new).trans (ServicePort.find?_target old).symm
    exact ⟨_, _, List.rel_append before (.cons (.mk named held) after),
      List.rel_append before (.cons (.mk named' held) after), Shape.covers_rename same⟩
  | extended before after named held foreign =>
    exact ⟨_, _, List.rel_append before after, List.rel_append before (.cons (.mk named held) after),
      Shape.covers_foreign foreign held.2⟩

/-- One record somewhere in the text of a description is written in another way. -/
inductive Respelled : List Char → List Char → Prop
  | mk {σ α : Type} {shape : Shape σ α} {outer : List Char → List Char} {gap gap' : List Char}
    {ws ws' : List (List Char)} (constituent : Constituent shape) (site : Site (shape.read .json) outer)
    (spaces : Spaces gap) (spaces' : Spaces gap') (rewritten : Rewritten shape ws ws') :
    Respelled (outer (braced gap ws)) (outer (braced gap' ws'))

namespace Description

theorem yields_parse_of_holds {w : List Char} {t : Datum} (holds : Holds w t) {d : Description} :
    Yields (parse .json (String.ofList w)) d ↔ Yields (shape.read .json t) d := by
  change Yields (Json.parse shape (String.ofList w)) d ↔ _
  rw [Json.parse, holds.1, yields_bind]
  simp only [if_true, yields_pure, exists_eq_right]

theorem yields_parse_of_respelled {w w' : List Char} (respelled : Respelled w w') {d : Description}
    (parsed : Yields (parse .json (String.ofList w)) d) : Yields (parse .json (String.ofList w')) d := by
  obtain ⟨constituent, site, spaces, spaces', rewritten⟩ := respelled
  obtain ⟨ms, ms', parts, parts', covers⟩ := rewritten.covers constituent.separate
  obtain ⟨around, holds, focuses⟩ := site.exists_around
  have there := holds _ _ (holds_record parts spaces)
  have there' := holds _ _ (holds_record parts' spaces')
  obtain ⟨b, part, back⟩ := focuses (.record _) d nofun ((yields_parse_of_holds there).1 parsed)
  exact (yields_parse_of_holds there').2 (back (.record _) nofun (covers.read part))

theorem holds_of_parse {text : String} {d : Description} (parsed : Yields (parse .json text) d) :
    Holds text.toList (Json.read text).datum ∧ Yields (shape.read .json (Json.read text).datum) d := by
  change Yields (Json.parse shape text) d at parsed
  obtain ⟨d', tree, parsed⟩ := yields_bind.1 parsed
  split at parsed
  · rename_i whole
    obtain rfl := yields_pure.1 parsed
    refine ⟨⟨?_, demands_read _ d' tree⟩, tree⟩
    rw [String.ofList_toList]
    exact congrArg (Reading.mk _) whole
  · exact absurd parsed not_yields_malformed

/-- Every record inside the tree of an accepted text stands at a place in the text, as braces
around the texts of its members. -/
theorem exists_site_of_parse {text : String} {d : Description} (parsed : Yields (parse .json text) d)
    {σ α : Type} {shape : Shape σ α} {read : Members}
    (inside : Inside (Json.read text).datum (shape.read .json) (.record read)) :
    ∃ outer gap ws ms, Site (shape.read .json) outer ∧ Spaces gap ∧ List.Forall₂ HoldsMember ws ms ∧
      text.toList = outer (braced gap ws) ∧ read = .ofList ms := by
  obtain ⟨holds, whole⟩ := holds_of_parse parsed
  obtain ⟨a, record⟩ := inside.exists_yields whole nofun
  obtain ⟨draft, named, -⟩ := Shape.yields_read_record.1 record
  obtain ⟨ms, rfl⟩ := Shape.exists_ofList named
  obtain ⟨outer, v, site, front, part⟩ := inside.exists_site holds whole
  obtain ⟨gap, gap', gap'', ws, rfl, spaces, spaces', spaces'', parts⟩ := part.exists_braced
  exact ⟨_, gap', ws, ms, site.padded spaces spaces'', spaces', parts, front, rfl⟩

theorem not_yields_parse_twice {text : String} {read : Members} {e e' : Datum}
    (inside : Inside (Json.read text).datum (ServicePort.shape.read .json) (.record read))
    (target : read.Has "targetPort" e) (node : read.Has "nodePort" e') (d : Description) :
    ¬Yields (parse .json text) d := by
  intro parsed
  obtain ⟨port, record⟩ := inside.exists_yields (holds_of_parse parsed).2 nofun
  obtain ⟨draft, named, -⟩ := Shape.yields_read_record.1 record
  obtain ⟨ms, rfl⟩ := Shape.exists_ofList named
  exact Constituent.servicePort.separate.not_yields_twice (ServicePort.find?_target (by decide))
    (ServicePort.find?_target (by decide)) (by decide) target.mem node.mem record

/-- However often records in an accepted text are written in another way, the text stays accepted
with the same description. This can be done to every record that the description is read from. No
text is accepted in which a service port has a target port under both names. -/
theorem respelling_harmless :
    (∀ w w' d, Relation.ReflTransGen Respelled w w' → Yields (parse .json (String.ofList w)) d →
      Yields (parse .json (String.ofList w')) d) ∧
    (∀ text d, Yields (parse .json text) d → ∀ {σ α : Type} (shape : Shape σ α) read,
      Inside (Json.read text).datum (shape.read .json) (.record read) →
        ∃ outer gap ws ms, Site (shape.read .json) outer ∧ Spaces gap ∧ List.Forall₂ HoldsMember ws ms ∧
          text.toList = outer (braced gap ws) ∧ read = .ofList ms) ∧
    ∀ text read e e', Inside (Json.read text).datum (ServicePort.shape.read .json) (.record read) →
      read.Has "targetPort" e → read.Has "nodePort" e' → ∀ d, ¬Yields (parse .json text) d := by
  refine ⟨fun w w' d respelled parsed => ?_, fun text d parsed σ α shape read => exists_site_of_parse parsed,
    fun text read e e' => not_yields_parse_twice⟩
  induction respelled with
  | refl => exact parsed
  | tail _ step ih => exact yields_parse_of_respelled step ih

/-! ## Spellings of one description -/

def single : Description := ⟨some ⟨[⟨80, 30080, .tcp⟩], [], 32000⟩, [⟨"a", none, none⟩]⟩

def field (name : String) (v : List Char) : List Char := quoted name ++ ':' :: v

/-- A lone surrogate is well-formed, but stands for no text. -/
def surrogate : List Char := ['"', '\\', 'u', 'd', '8', '0', '0', '"']

def zone : List Char := field "zone" (bracketed [] [bracketed [] [surrogate]])

def portText (names : List String) : List Char :=
  braced [] (field "listenPort" (number 80) :: (names.map fun name => field name (number 30080)) ++
    [field "protocol" (quoted "TCP")])

def serviceText (names : List String) : List Char :=
  field "service" (braced [] [field "ports" (bracketed [] [portText names]),
    field "ipFamilies" (bracketed [] []), field "healthCheckPort" (number 32000)])

def nodesText (others : List (List Char)) : List Char :=
  field "nodes" (bracketed []
    [braced [] (field "name" (quoted "a") :: field "addresses" (braced [] []) :: others)])

theorem json_single :
    single.json = String.ofList (braced [] [serviceText ["targetPort"], nodesText []]) := by decide +kernel

theorem parse_single : Yields (parse .json single.json) single := by
  rw [parse_of_writes (by decide) single.writes_json, yields_pure]

theorem holdsMember_field (name : String) {v : List Char} {d : Datum} (held : Holds v d) :
    HoldsMember (field name v) (name, d) := .mk (holds_quoted name) held

theorem holds_number {n : Nat} (fits : n < UInt64.size) : Holds (number n) (.integer n) :=
  (spells_number fits).holds rfl

theorem holds_surrogate : Holds surrogate .unfit := by
  have textless : string? ['\\', 'u', 'd', '8', '0', '0', '"'] = some (none, []) := by decide
  refine holds_iff.2 ⟨[], ?_, spaces_nil, rfl⟩
  rw [surrogate, value_scalar (by decide) (by decide) (by decide), scalar?, textless]
  rfl

theorem holds_zone : Holds (bracketed [] [bracketed [] [surrogate]]) (.list (.ofList [.list (.ofList [.unfit])])) :=
  holds_list (.cons (holds_list (.cons holds_surrogate .nil) spaces_nil) .nil) spaces_nil

theorem holds_listenPort : HoldsMember (field "listenPort" (number 80)) ("listenPort", .integer 80) :=
  holdsMember_field _ (holds_number (by decide))

theorem holds_protocol : HoldsMember (field "protocol" (quoted "TCP")) ("protocol", .text "TCP") :=
  holdsMember_field _ (holds_quoted "TCP")

theorem holds_families : HoldsMember (field "ipFamilies" (bracketed [] [])) ("ipFamilies", .list .done) :=
  holdsMember_field _ (holds_list .nil spaces_nil)

theorem holds_healthCheckPort : HoldsMember (field "healthCheckPort" (number 32000))
    ("healthCheckPort", .integer 32000) := holdsMember_field _ (holds_number (by decide))

def portMembers (names : List String) : List (String × Datum) :=
  ("listenPort", .integer 80) :: (names.map fun name => (name, .integer 30080)) ++ [("protocol", .text "TCP")]

theorem holds_port (names : List String) : Holds (portText names) (.record (.ofList (portMembers names))) := by
  have targets : List.Forall₂ HoldsMember (names.map fun name => field name (number 30080))
      (names.map fun name => (name, .integer 30080)) := by
    refine List.forall₂_map_left_iff.2 (List.forall₂_map_right_iff.2 (List.forall₂_same.2 fun name _ => ?_))
    exact holdsMember_field name (holds_number (by decide))
  exact holds_record (.cons holds_listenPort (List.rel_append targets (.cons holds_protocol .nil))) spaces_nil

def serviceMembers (names : List String) : List (String × Datum) :=
  [("ports", .list (.ofList [.record (.ofList (portMembers names))])), ("ipFamilies", .list .done),
    ("healthCheckPort", .integer 32000)]

theorem holds_service (names : List String) :
    HoldsMember (serviceText names) ("service", .record (.ofList (serviceMembers names))) := by
  have ports := holdsMember_field "ports" (holds_list (.cons (holds_port names) .nil) spaces_nil)
  exact holdsMember_field _
    (holds_record (.cons ports (.cons holds_families (.cons holds_healthCheckPort .nil))) spaces_nil)

def hostMembers : List (String × Datum) := [("name", .text "a"), ("addresses", .record .done)]

theorem holds_host : List.Forall₂ HoldsMember
    [field "name" (quoted "a"), field "addresses" (braced [] [])] hostMembers :=
  .cons (holdsMember_field _ (holds_quoted "a"))
    (.cons (holdsMember_field _ (holds_record .nil spaces_nil)) .nil)

theorem holds_nodes {others : List (List Char)} {ms : List (String × Datum)}
    (holds : List.Forall₂ HoldsMember others ms) :
    HoldsMember (nodesText others) ("nodes", .list (.ofList [.record (.ofList (hostMembers ++ ms))])) :=
  holdsMember_field _ (holds_list (.cons (holds_record (List.rel_append holds_host holds) spaces_nil) .nil) spaces_nil)

theorem site_port : Site (ServicePort.shape.read .json) fun w => braced [] [field "service"
    (braced [] [field "ports" (bracketed [] [w]), field "ipFamilies" (bracketed [] []),
      field "healthCheckPort" (number 32000)]), nodesText []] := by
  have service := Site.whole.member spaces_nil .nil (.cons (holds_nodes .nil) .nil) (holds_quoted "service") rfl
  have ports := service.optional.member spaces_nil .nil
    (.cons holds_families (.cons holds_healthCheckPort .nil)) (holds_quoted "ports") rfl
  have port := ports.item spaces_nil .nil .nil
  exact port

theorem site_host (names : List String) : Site (Host.shape.read .json) fun w =>
    braced [] [serviceText names, field "nodes" (bracketed [] [w])] := by
  have nodes := Site.whole.member spaces_nil (.cons (holds_service names) .nil) .nil (holds_quoted "nodes") rfl
  have host := nodes.item spaces_nil .nil .nil
  exact host

/-- The other name of the target port, a member more and another order, one after the other. -/
theorem respelled_single : Relation.ReflTransGen Respelled
    (braced [] [serviceText ["targetPort"], nodesText []])
    (braced [] [nodesText [zone], serviceText ["nodePort"]]) := by
  have target : Holds (number 30080) (.integer 30080) := holds_number (by decide)
  have rename := Respelled.mk .servicePort site_port spaces_nil spaces_nil
    (.renamed (.cons holds_listenPort .nil) (.cons holds_protocol .nil) (holds_quoted "targetPort")
      (holds_quoted "nodePort") target (by decide) (by decide))
  have extend := Respelled.mk .host (site_host ["nodePort"]) spaces_nil spaces_nil
    (.extended holds_host .nil (holds_quoted "zone") holds_zone (by decide))
  have nodes := holds_nodes (.cons (holdsMember_field "zone" holds_zone) .nil)
  have permute := Respelled.mk .description .whole spaces_nil spaces_nil
    (.permuted (.cons (holds_service ["nodePort"]) (.cons nodes .nil)) (.swap _ _ _))
  exact .tail (.tail (.single rename) extend) permute

theorem inside_port (names : List String) :
    Inside (Json.read (String.ofList (braced [] [serviceText names, nodesText []]))).datum
      (ServicePort.shape.read .json) (.record (.ofList (portMembers names))) := by
  have whole := holds_record (.cons (holds_service names) (.cons (holds_nodes .nil) .nil)) spaces_nil
  have service : (Description.shape.slots.find? fun slot => slot.answersTo "service") =
    Description.shape.slots[0]? := rfl
  have ports : (Service.shape.slots.find? fun slot => slot.answersTo "ports") = Service.shape.slots[0]? := rfl
  rw [whole.1]
  exact ((Inside.whole.member .head service).optional.member .head ports).item .head

theorem respelling_harmless_single :
    Yields (parse .json (String.ofList (braced [] [nodesText [zone], serviceText ["nodePort"]]))) single ∧
    (∃ outer gap ws ms, Site (ServicePort.shape.read .json) outer ∧ Spaces gap ∧ List.Forall₂ HoldsMember ws ms ∧
      single.json.toList = outer (braced gap ws) ∧ Members.ofList (portMembers ["targetPort"]) = .ofList ms) ∧
    ∀ d, ¬Yields (parse .json (String.ofList
      (braced [] [serviceText ["targetPort", "nodePort"], nodesText []]))) d := by
  obtain ⟨harmless, everywhere, twice⟩ := respelling_harmless
  refine ⟨harmless _ _ single respelled_single (json_single ▸ parse_single),
    everywhere _ single parse_single ServicePort.shape _ (json_single ▸ inside_port ["targetPort"]),
    twice _ (.ofList (portMembers ["targetPort", "nodePort"])) (.integer 30080) (.integer 30080) (inside_port _)
      (.tail .head) (.tail (.tail .head))⟩

end Description

end ServiceProxy
