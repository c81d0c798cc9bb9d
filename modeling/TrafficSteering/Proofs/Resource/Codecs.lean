import Mathlib.Data.List.Forall2
import TrafficSteering.Proofs.Resource.Written
import TrafficSteering.Config
import TrafficSteering.Element

namespace TrafficSteering

open Json

namespace Json

variable {α β : Type} {write : α → Json} {read : Json → Except Fault α}
  {members : List (String × Json)} {name : String}

def Inverts (read : Json → Except Fault α) (write : α → Json) : Prop := ∀ a, read (write a) = .ok a

def Plain (write : α → Json) : Prop := ∀ a, write a ≠ .null ∧ ∀ items, write a ≠ .arr items

theorem str_plain : Plain .str := fun _ ↦ ⟨by simp, by simp⟩

theorem word_plain : Plain fun n : UInt64 ↦ .int n.toNat := fun _ ↦ ⟨by simp, by simp⟩

theorem ofObject_plain : Plain ofObject := fun _ ↦ ⟨by simp [ofObject], by simp [ofObject]⟩

theorem asText_inverts : Inverts asText .str := fun _ ↦ rfl

theorem asObject_inverts : Inverts asObject ofObject :=
  fun o ↦ congrArg Except.ok (Dict.ofList_entries o)

theorem asWord_inverts : Inverts asWord fun n ↦ .int n.toNat := by
  intro n
  have hsize : (n.toNat : Int) < UInt64.size := by exact_mod_cast n.toNat_lt
  simp only [asWord, Int.natCast_nonneg, hsize, and_self, if_true, Int.toNat_natCast,
    UInt64.ofNat_toNat]

theorem asList_inverts (h : Inverts read write) :
    Inverts (asList read) fun l ↦ .arr (l.map write) := mapM_written write h

theorem asOption_plain (h : Inverts read write) (hplain : Plain write) (a : α) :
    asOption read (write a) = .ok (some a) := by
  have hnull := (hplain a).1
  have hread := h a
  revert hnull hread
  cases write a with
  | null => exact fun hnull _ ↦ absurd rfl hnull
  | _ => exact fun _ hread ↦ congrArg (some <$> ·) hread

theorem asOption_inverts (h : Inverts read write) (hplain : Plain write) :
    Inverts (asOption read) (ofOption write) := by
  intro x
  cases x with
  | none => rfl
  | some a => exact asOption_plain h hplain a

theorem required_written (h : Inverts read write) {a : α}
    (hname : members.lookup name = some (write a)) : required members name read = .ok a := by
  rw [required, hname]
  exact h a

theorem withDefault_written (h : Inverts read write) {a : α}
    (hname : members.lookup name = some (write a)) (fallback : α) :
    withDefault members name read fallback = .ok a := by
  rw [withDefault, hname]
  exact h a

theorem optional_written (h : Inverts read write) (hplain : Plain write) {x : Option α}
    (hname : members.lookup name = some (ofOption write x)) :
    optional members name read = .ok x :=
  withDefault_written (asOption_inverts h hplain) hname none

theorem read_then {x : Except Fault α} {a : α} {f : α → Except Fault β} {y : Except Fault β}
    (hx : x = .ok a) (h : f a = y) : (x >>= f) = y := by
  rw [hx]
  exact h

end Json

namespace NetworkElement

theorem decode_inverts : Inverts decode encode := fun _ ↦
  read_then rfl <|
  read_then (optional_written asText_inverts str_plain rfl) <|
  read_then (required_written (asList_inverts asText_inverts) rfl) <|
  read_then (required_written (asList_inverts asText_inverts) rfl) <|
  read_then (optional_written asText_inverts str_plain rfl) rfl

theorem encode_plain : Plain encode := fun _ ↦ ⟨by simp [encode], by simp [encode]⟩

end NetworkElement

theorem InspectionPort.decode_inverts : Inverts decode encode := fun _ ↦
  read_then rfl <|
  read_then (optional_written asText_inverts str_plain rfl) <|
  read_then (optional_written asText_inverts str_plain rfl) <|
  read_then (optional_written NetworkElement.decode_inverts NetworkElement.encode_plain rfl) <|
  read_then (optional_written NetworkElement.decode_inverts NetworkElement.encode_plain rfl) rfl

theorem GroupElement.decode_inverts : Inverts decode encode := fun _ ↦
  read_then rfl <|
  read_then (optional_written asText_inverts str_plain rfl) <|
  read_then (required_written (asList_inverts InspectionPort.decode_inverts) rfl) <|
  read_then (optional_written asText_inverts str_plain rfl) rfl

theorem ServiceFunctionChain.decode_inverts : Inverts decode encode := fun _ ↦
  read_then rfl <|
  read_then (optional_written asText_inverts str_plain rfl) <|
  read_then (required_written (asList_inverts GroupElement.decode_inverts) rfl) <|
  read_then (required_written (asList_inverts asText_inverts) rfl) rfl

theorem InspectionHook.decode_inverts : Inverts decode encode := fun _ ↦
  read_then rfl <|
  read_then (optional_written asText_inverts str_plain rfl) <|
  read_then (required_written NetworkElement.decode_inverts rfl) <|
  read_then (required_written ServiceFunctionChain.decode_inverts rfl) rfl

theorem NeutronConfig.decode_inverts : Inverts decode encode := fun _ ↦
  read_then rfl <|
  read_then (withDefault_written asText_inverts rfl _) <|
  read_then (withDefault_written asText_inverts rfl _) <|
  read_then (withDefault_written asText_inverts rfl _) <|
  read_then (withDefault_written asText_inverts rfl _) <|
  read_then (withDefault_written asText_inverts rfl _) <|
  read_then (withDefault_written asText_inverts rfl _) <|
  read_then (withDefault_written asText_inverts rfl _) <|
  read_then (withDefault_written asText_inverts rfl _) <|
  read_then (optional_written asText_inverts str_plain rfl) <|
  read_then (withDefault_written asWord_inverts rfl _) rfl

theorem Provider.decode_inverts : Inverts decode fun p ↦ .str p.name := by
  intro p
  cases p <;> rfl

theorem Config.decode_inverts : Inverts decode encode := fun _ ↦
  read_then rfl <|
  read_then (withDefault_written Provider.decode_inverts rfl _) <|
  read_then (withDefault_written NeutronConfig.decode_inverts rfl _) <|
  read_then (withDefault_written asText_inverts rfl _) rfl

namespace Json

/-- A field as it is written, and as a document may hold it instead; `item` relates the items of
its list. -/
inductive LooseField (item : Json → Json → Prop) : Option Json → Option Json → Prop
  | same (value : Option Json) : LooseField item value value
  | absentAsNull : LooseField item none (some .null)
  | emptyAsNull : LooseField item (some (.arr [])) (some .null)
  | emptyDropped : LooseField item (some (.arr [])) none
  | items {written held : List Json} (h : List.Forall₂ item written held) :
      LooseField item (some (.arr written)) (some (.arr held))

/-- A document that holds the known fields of a written record, and whatever else, with no member
twice. -/
structure Loose (fields : List String) (item : Json → Json → Prop) (written document : Json) :
    Prop where
  shape : ∃ members, document = .obj members ∧ (members.map Prod.fst).Nodup
  held : ∀ name ∈ fields, LooseField item (written.get? name) (document.get? name)

variable {α : Type} {write : α → Json} {read : Json → Except Fault α}
  {members : List (String × Json)} {name : String} {item : Json → Json → Prop}

namespace LooseField

theorem optional (h : Inverts read write) (hplain : Plain write) {x : Option α}
    (hname : LooseField item (x.map write) (members.lookup name)) :
    optional members name read = .ok x := by
  rw [Json.optional, withDefault]
  generalize members.lookup name = value at hname
  cases x with
  | none =>
    cases hname with
    | same => rfl
    | absentAsNull => rfl
  | some a =>
    have hlist := (hplain a).2
    have hread := asOption_plain h hplain a
    rw [Option.map_some] at hname
    generalize write a = written at hname hlist hread
    cases hname with
    | same => exact hread
    | emptyAsNull => exact absurd rfl (hlist [])
    | emptyDropped => exact absurd rfl (hlist [])
    | items _ => exact absurd rfl (hlist _)

theorem required (h : Inverts read write) (hplain : Plain write) {a : α}
    (hname : LooseField item (some (write a)) (members.lookup name)) :
    required members name read = .ok a := by
  have hlist := (hplain a).2
  have hread := h a
  rw [Json.required]
  generalize members.lookup name = value at hname
  generalize write a = written at hname hlist hread
  cases hname with
  | same => exact hread
  | emptyAsNull => exact absurd rfl (hlist [])
  | emptyDropped => exact absurd rfl (hlist [])
  | items _ => exact absurd rfl (hlist _)

theorem mapM_held (h : ∀ a held, item (write a) held → read held = .ok a) {l : List α}
    {held : List Json} (hitems : List.Forall₂ item (l.map write) held) :
    held.mapM read = .ok l := by
  induction l generalizing held with
  | nil =>
    cases hitems
    rfl
  | cons a rest ih =>
    cases hitems with
    | cons hfirst hrest =>
      rw [List.mapM_cons]
      exact read_then (h a _ hfirst) (read_then (ih hrest) rfl)

theorem listOrEmpty_absent (h : members.lookup name = none ∨ members.lookup name = some .null) :
    Json.listOrEmpty members name read = .ok [] := by
  rw [Json.listOrEmpty, Json.optional, withDefault]
  obtain h | h := h
  · rw [h]; rfl
  · rw [h]; rfl

theorem listOrEmpty_held {held : List Json} {l : List α} (hread : held.mapM read = .ok l)
    (h : members.lookup name = some (.arr held)) : Json.listOrEmpty members name read = .ok l := by
  rw [Json.listOrEmpty, Json.optional, withDefault, h]
  exact read_then (congrArg (some <$> ·) hread) rfl

section

variable (h : Inverts read write) (hitem : ∀ a held, item (write a) held → read held = .ok a)
  {l : List α}

include h hitem

theorem listOrEmpty
    (hname : LooseField item (some (.arr (l.map write))) (members.lookup name)) :
    listOrEmpty members name read = .ok l := by
  generalize hwritten : some (arr (l.map write)) = written at hname
  generalize hvalue : members.lookup name = value at hname
  cases hname with
  | same => exact listOrEmpty_held (mapM_written write h l) (hvalue.trans hwritten.symm)
  | absentAsNull => cases hwritten
  | emptyAsNull =>
    obtain rfl : l = [] := by simpa using hwritten
    exact listOrEmpty_absent (.inr hvalue)
  | emptyDropped =>
    obtain rfl : l = [] := by simpa using hwritten
    exact listOrEmpty_absent (.inl hvalue)
  | items hitems =>
    cases hwritten
    exact listOrEmpty_held (mapM_held hitem hitems) hvalue

theorem listOrEmpty_unless_empty
    (hname : LooseField item (if l.isEmpty then none else some (.arr (l.map write)))
      (members.lookup name)) : Json.listOrEmpty members name read = .ok l := by
  cases l with
  | nil =>
    generalize hvalue : members.lookup name = value at hname
    cases hname with
    | same => exact listOrEmpty_absent (.inl hvalue)
    | absentAsNull => exact listOrEmpty_absent (.inr hvalue)
  | cons a rest => exact listOrEmpty h hitem hname

end

theorem list (h : Inverts read write) {l : List α}
    (hname : LooseField Eq (some (.arr (l.map write))) (members.lookup name)) :
    Json.listOrEmpty members name read = .ok l := by
  refine listOrEmpty h (fun a held hheld ↦ ?_) hname
  rw [← hheld]
  exact h a

end LooseField

theorem Loose.fields_held {fields : List String} {document : Json}
    {l : List (String × Option Json)} (h : Loose fields item (ofObject (Dict.ofFields l)) document)
    (hkeys : (l.map Prod.fst).Nodup) :
    ∃ members, document = .obj members ∧
      ∀ name ∈ fields, LooseField item (l.lookup name).join (members.lookup name) := by
  obtain ⟨⟨members, rfl, _⟩, hheld⟩ := h
  refine ⟨members, rfl, fun name hname ↦ ?_⟩
  rw [← Dict.get?_ofFields hkeys]
  exact hheld name hname

end Json

namespace FixedIp

def fields : List String := ["subnet_id", "ip_address"]

theorem decode_loose {ip : FixedIp} {document : Json}
    (h : Loose fields Eq (ofObject ip.encode) document) : decode document = .ok ip := by
  obtain ⟨members, rfl, hheld⟩ := h.fields_held (by simp)
  exact read_then rfl <|
    read_then ((hheld "subnet_id" (by decide)).optional asText_inverts str_plain) <|
    read_then ((hheld "ip_address" (by decide)).required asText_inverts str_plain) rfl

end FixedIp

namespace Port

theorem decode_loose {p : Port} {document : Json}
    (h : Loose fields (Loose FixedIp.fields Eq) (ofObject p.encode) document) :
    decode document = .ok p := by
  obtain ⟨members, rfl, hheld⟩ := h.fields_held (by simp)
  have hips := (hheld "fixed_ips" (by decide)).listOrEmpty_unless_empty FixedIp.decode_encode
    (fun _ _ ↦ FixedIp.decode_loose)
  exact read_then rfl <|
    read_then ((hheld "id" (by decide)).optional asText_inverts str_plain) <|
    read_then ((hheld "name" (by decide)).optional asText_inverts str_plain) <|
    read_then ((hheld "network_id" (by decide)).optional asText_inverts str_plain) <|
    read_then ((hheld "project_id" (by decide)).optional asText_inverts str_plain) <|
    read_then ((hheld "tenant_id" (by decide)).optional asText_inverts str_plain) <|
    read_then ((hheld "mac_address" (by decide)).optional asText_inverts str_plain) <|
    read_then hips <|
    read_then ((hheld "device_id" (by decide)).optional asText_inverts str_plain) <|
    read_then ((hheld "device_owner" (by decide)).optional asText_inverts str_plain) <|
    read_then ((hheld "status" (by decide)).optional asText_inverts str_plain) <|
    read_then ((hheld "binding:profile" (by decide)).optional asObject_inverts ofObject_plain) rfl

end Port

namespace PortPair

theorem decode_loose {p : PortPair} {document : Json}
    (h : Loose fields Eq (ofObject p.encode) document) : decode document = .ok p := by
  obtain ⟨members, rfl, hheld⟩ := h.fields_held (by simp)
  exact read_then rfl <|
    read_then ((hheld "id" (by decide)).optional asText_inverts str_plain) <|
    read_then ((hheld "name" (by decide)).optional asText_inverts str_plain) <|
    read_then ((hheld "description" (by decide)).optional asText_inverts str_plain) <|
    read_then ((hheld "project_id" (by decide)).optional asText_inverts str_plain) <|
    read_then ((hheld "tenant_id" (by decide)).optional asText_inverts str_plain) <|
    read_then ((hheld "ingress" (by decide)).optional asText_inverts str_plain) <|
    read_then ((hheld "egress" (by decide)).optional asText_inverts str_plain) <|
    read_then ((hheld "service_function_parameters" (by decide)).optional asObject_inverts
      ofObject_plain) rfl

end PortPair

namespace PortPairGroup

theorem decode_loose {g : PortPairGroup} {document : Json}
    (h : Loose fields Eq (ofObject g.encode) document) : decode document = .ok g := by
  obtain ⟨members, rfl, hheld⟩ := h.fields_held (by simp)
  exact read_then rfl <|
    read_then ((hheld "id" (by decide)).optional asText_inverts str_plain) <|
    read_then ((hheld "name" (by decide)).optional asText_inverts str_plain) <|
    read_then ((hheld "description" (by decide)).optional asText_inverts str_plain) <|
    read_then ((hheld "project_id" (by decide)).optional asText_inverts str_plain) <|
    read_then ((hheld "tenant_id" (by decide)).optional asText_inverts str_plain) <|
    read_then ((hheld "port_pairs" (by decide)).list asText_inverts) <|
    read_then ((hheld "port_pair_group_parameters" (by decide)).optional asObject_inverts
      ofObject_plain) rfl

end PortPairGroup

namespace PortChain

theorem decode_loose {c : PortChain} {document : Json}
    (h : Loose fields Eq (ofObject c.encode) document) : decode document = .ok c := by
  obtain ⟨members, rfl, hheld⟩ := h.fields_held (by simp)
  exact read_then rfl <|
    read_then ((hheld "id" (by decide)).optional asText_inverts str_plain) <|
    read_then ((hheld "name" (by decide)).optional asText_inverts str_plain) <|
    read_then ((hheld "description" (by decide)).optional asText_inverts str_plain) <|
    read_then ((hheld "project_id" (by decide)).optional asText_inverts str_plain) <|
    read_then ((hheld "tenant_id" (by decide)).optional asText_inverts str_plain) <|
    read_then ((hheld "chain_id" (by decide)).optional asWord_inverts word_plain) <|
    read_then ((hheld "port_pair_groups" (by decide)).list asText_inverts) <|
    read_then ((hheld "flow_classifiers" (by decide)).list asText_inverts) <|
    read_then ((hheld "chain_parameters" (by decide)).optional asObject_inverts ofObject_plain) rfl

end PortChain

namespace FlowClassifier

theorem decode_loose {c : FlowClassifier} {document : Json}
    (h : Loose fields Eq (ofObject c.encode) document) : decode document = .ok c := by
  obtain ⟨members, rfl, hheld⟩ := h.fields_held (by simp)
  exact read_then rfl <|
    read_then ((hheld "id" (by decide)).optional asText_inverts str_plain) <|
    read_then ((hheld "name" (by decide)).optional asText_inverts str_plain) <|
    read_then ((hheld "description" (by decide)).optional asText_inverts str_plain) <|
    read_then ((hheld "project_id" (by decide)).optional asText_inverts str_plain) <|
    read_then ((hheld "tenant_id" (by decide)).optional asText_inverts str_plain) <|
    read_then ((hheld "ethertype" (by decide)).optional asText_inverts str_plain) <|
    read_then ((hheld "protocol" (by decide)).optional asText_inverts str_plain) <|
    read_then ((hheld "source_ip_prefix" (by decide)).optional asText_inverts str_plain) <|
    read_then ((hheld "destination_ip_prefix" (by decide)).optional asText_inverts str_plain) <|
    read_then ((hheld "logical_source_port" (by decide)).optional asText_inverts str_plain) <|
    read_then ((hheld "logical_destination_port" (by decide)).optional asText_inverts str_plain) <|
    read_then ((hheld "l7_parameters" (by decide)).optional asObject_inverts ofObject_plain) rfl

end FlowClassifier

inductive Schema where
  | resource (kind : Kind)
  | fixedIp
  | networkElement
  | inspectionPort
  | group
  | chain
  | hook
  | neutronConfig
  | config

namespace Schema

def Value : Schema → Type
  | resource kind => kind.Resource
  | fixedIp => FixedIp
  | networkElement => NetworkElement
  | inspectionPort => InspectionPort
  | group => GroupElement
  | chain => ServiceFunctionChain
  | hook => InspectionHook
  | neutronConfig => NeutronConfig
  | config => Config

def encode : (schema : Schema) → schema.Value → Json
  | resource kind, r => ofObject (kind.encode r)
  | fixedIp, ip => ofObject ip.encode
  | networkElement, e => e.encode
  | inspectionPort, p => p.encode
  | group, g => g.encode
  | chain, c => c.encode
  | hook, h => h.encode
  | neutronConfig, c => c.encode
  | config, c => c.encode

def decode : (schema : Schema) → Json → Except Fault schema.Value
  | resource kind => kind.decode
  | fixedIp => FixedIp.decode
  | networkElement => NetworkElement.decode
  | inspectionPort => InspectionPort.decode
  | group => GroupElement.decode
  | chain => ServiceFunctionChain.decode
  | hook => InspectionHook.decode
  | neutronConfig => NeutronConfig.decode
  | config => Config.decode

/-- The documents that stand for a written value: any loose one for a resource and for the
addresses inside a port, and itself alone for the others. -/
def Stands : (schema : Schema) → Json → Json → Prop
  | resource .port => Loose Port.fields (Loose FixedIp.fields Eq)
  | resource .portPair => Loose PortPair.fields Eq
  | resource .portPairGroup => Loose PortPairGroup.fields Eq
  | resource .portChain => Loose PortChain.fields Eq
  | resource .flowClassifier => Loose FlowClassifier.fields Eq
  | fixedIp => Loose FixedIp.fields Eq
  | _ => Eq

theorem decode_inverts : (schema : Schema) → Inverts schema.decode schema.encode
  | resource kind => kind.decode_encode
  | fixedIp => FixedIp.decode_encode
  | networkElement => NetworkElement.decode_inverts
  | inspectionPort => InspectionPort.decode_inverts
  | group => GroupElement.decode_inverts
  | chain => ServiceFunctionChain.decode_inverts
  | hook => InspectionHook.decode_inverts
  | neutronConfig => NeutronConfig.decode_inverts
  | config => Config.decode_inverts

theorem decode_stands (schema : Schema) (x : schema.Value) {document : Json}
    (h : schema.Stands (schema.encode x) document) : schema.decode document = .ok x := by
  cases schema with
  | resource kind =>
    cases kind with
    | port => exact Port.decode_loose h
    | portPair => exact PortPair.decode_loose h
    | portPairGroup => exact PortPairGroup.decode_loose h
    | portChain => exact PortChain.decode_loose h
    | flowClassifier => exact FlowClassifier.decode_loose h
  | fixedIp => exact FixedIp.decode_loose h
  | _ => exact h ▸ decode_inverts _ x

/-- Every value is read from its written form, and from every document that stands for it. -/
theorem values_read_back (schema : Schema) (x : schema.Value) :
    schema.decode (schema.encode x) = .ok x ∧
      ∀ document, schema.Stands (schema.encode x) document → schema.decode document = .ok x :=
  ⟨decode_inverts schema x, fun _ ↦ decode_stands schema x⟩

def samplePort : Port where
  id := some "port-1"
  fixedIps := [{ ipAddress := "10.0.0.4" }]
  profile := some (Dict.empty.insert "vifs" (.arr [.null]))

def samplePortDocument : Json :=
  .obj [
    ("mtu", .int 9000),
    ("fixed_ips", .arr [.obj [
      ("ip_address", .str "10.0.0.4"), ("subnet_id", .null), ("gateway", .null)]]),
    ("binding:profile", .obj [("vifs", .arr [.null])]),
    ("name", .null),
    ("id", .str "port-1")]

theorem sample_port_stands :
    (resource .port).Stands (encode (resource .port) samplePort) samplePortDocument := by
  refine ⟨⟨_, rfl, by decide⟩, ?_⟩
  simp only [Port.fields, List.forall_mem_cons]
  refine ⟨.same _, .absentAsNull, .same _, .same _, .same _, .same _, .items (.cons ?_ .nil),
    .same _, .same _, .same _, .same _, nofun⟩
  refine ⟨⟨_, rfl, by decide⟩, ?_⟩
  simp only [FixedIp.fields, List.forall_mem_cons]
  exact ⟨.absentAsNull, .same _, nofun⟩

def sampleChain : PortChain where
  id := some "chain-1"
  chainId := some (-1)

def sampleChainDocument : Json :=
  .obj [
    ("port_pair_groups", .null),
    ("revision", .int 7),
    ("chain_id", .int 18446744073709551615),
    ("id", .str "chain-1")]

theorem sample_chain_stands :
    (resource .portChain).Stands (encode (resource .portChain) sampleChain)
      sampleChainDocument := by
  refine ⟨⟨_, rfl, by decide⟩, ?_⟩
  simp only [PortChain.fields, List.forall_mem_cons]
  exact ⟨.same _, .same _, .same _, .same _, .same _, .same _, .emptyAsNull, .emptyDropped,
    .same _, nofun⟩

theorem sample_values_read_back :
    ((resource .port).Stands (encode (resource .port) samplePort) samplePortDocument ∧
      (resource .port).decode samplePortDocument = .ok samplePort) ∧
    (resource .portChain).Stands (encode (resource .portChain) sampleChain) sampleChainDocument ∧
      (resource .portChain).decode sampleChainDocument = .ok sampleChain :=
  ⟨⟨sample_port_stands, (values_read_back (resource .port) samplePort).2 _ sample_port_stands⟩,
    sample_chain_stands, (values_read_back (resource .portChain) sampleChain).2 _
      sample_chain_stands⟩

end Schema

end TrafficSteering
