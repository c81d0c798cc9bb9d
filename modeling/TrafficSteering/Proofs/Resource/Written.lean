import TrafficSteering.Proofs.Resource.Fields
import TrafficSteering.Memory

namespace TrafficSteering

open Json

theorem FixedIp.decode_encode (ip : FixedIp) : FixedIp.decode (ofObject ip.encode) = .ok ip := by
  have h (k : String) : ip.encode.get? k = _ := Dict.get?_ofFields (by simp) k
  have haddress : ip.encode.entries.lookup "ip_address" = some (.str ip.ipAddress) := h "ip_address"
  simp only [decode, record, ofObject, bind, Except.bind, required, haddress, asText,
    optional_text (x := ip.subnetId) (h "subnet_id")]
  rfl

namespace Port

theorem decode_encode (p : Port) : decode (ofObject p.encode) = .ok p := by
  have h (k : String) : p.encode.get? k = _ := Dict.get?_ofFields (by simp) k
  simp only [decode, record, ofObject, bind, Except.bind,
    optional_text (x := p.id) (h "id"),
    optional_text (x := p.name) (h "name"),
    optional_text (x := p.networkId) (h "network_id"),
    optional_text (x := p.projectId) (h "project_id"),
    optional_text (x := p.tenantId) (h "tenant_id"),
    optional_text (x := p.macAddress) (h "mac_address"),
    listOrEmpty_unless_empty _ FixedIp.decode_encode (l := p.fixedIps) (h "fixed_ips"),
    optional_text (x := p.deviceId) (h "device_id"),
    optional_text (x := p.deviceOwner) (h "device_owner"),
    optional_text (x := p.status) (h "status"),
    optional_object (x := p.profile) (h "binding:profile")]
  rfl

theorem encode_named (p : Port) (id : String) :
    p.encode.insert "id" (.str id) = encode { p with id := some id } := by
  simp [encode, Dict.insert_ofFields]

end Port

namespace PortPair

theorem decode_encode (p : PortPair) : decode (ofObject p.encode) = .ok p := by
  have h (k : String) : p.encode.get? k = _ := Dict.get?_ofFields (by simp) k
  simp only [decode, record, ofObject, bind, Except.bind,
    optional_text (x := p.id) (h "id"),
    optional_text (x := p.name) (h "name"),
    optional_text (x := p.description) (h "description"),
    optional_text (x := p.projectId) (h "project_id"),
    optional_text (x := p.tenantId) (h "tenant_id"),
    optional_text (x := p.ingress) (h "ingress"),
    optional_text (x := p.egress) (h "egress"),
    optional_object (x := p.parameters) (h "service_function_parameters")]
  rfl

end PortPair

namespace PortPairGroup

theorem decode_encode (g : PortPairGroup) : decode (ofObject g.encode) = .ok g := by
  have h (k : String) : g.encode.get? k = _ := Dict.get?_ofFields (by simp) k
  simp only [decode, record, ofObject, bind, Except.bind,
    optional_text (x := g.id) (h "id"),
    optional_text (x := g.name) (h "name"),
    optional_text (x := g.description) (h "description"),
    optional_text (x := g.projectId) (h "project_id"),
    optional_text (x := g.tenantId) (h "tenant_id"),
    listOrEmpty_texts (l := g.portPairs) (h "port_pairs"),
    optional_object (x := g.parameters) (h "port_pair_group_parameters")]
  rfl

end PortPairGroup

namespace PortChain

theorem decode_encode (c : PortChain) : decode (ofObject c.encode) = .ok c := by
  have h (k : String) : c.encode.get? k = _ := Dict.get?_ofFields (by simp) k
  simp only [decode, record, ofObject, bind, Except.bind,
    optional_text (x := c.id) (h "id"),
    optional_text (x := c.name) (h "name"),
    optional_text (x := c.description) (h "description"),
    optional_text (x := c.projectId) (h "project_id"),
    optional_text (x := c.tenantId) (h "tenant_id"),
    optional_word (x := c.chainId) (h "chain_id"),
    listOrEmpty_texts (l := c.portPairGroups) (h "port_pair_groups"),
    listOrEmpty_texts (l := c.flowClassifiers) (h "flow_classifiers"),
    optional_object (x := c.parameters) (h "chain_parameters")]
  rfl

end PortChain

namespace FlowClassifier

theorem decode_encode (c : FlowClassifier) : decode (ofObject c.encode) = .ok c := by
  have h (k : String) : c.encode.get? k = _ := Dict.get?_ofFields (by simp) k
  simp only [decode, record, ofObject, bind, Except.bind,
    optional_text (x := c.id) (h "id"),
    optional_text (x := c.name) (h "name"),
    optional_text (x := c.description) (h "description"),
    optional_text (x := c.projectId) (h "project_id"),
    optional_text (x := c.tenantId) (h "tenant_id"),
    optional_text (x := c.ethertype) (h "ethertype"),
    optional_text (x := c.protocol) (h "protocol"),
    optional_text (x := c.sourceIpPrefix) (h "source_ip_prefix"),
    optional_text (x := c.destinationIpPrefix) (h "destination_ip_prefix"),
    optional_text (x := c.logicalSourcePort) (h "logical_source_port"),
    optional_text (x := c.logicalDestinationPort) (h "logical_destination_port"),
    optional_object (x := c.l7Parameters) (h "l7_parameters")]
  rfl

end FlowClassifier

namespace Kind

theorem decode_encode (kind : Kind) (r : kind.Resource) :
    kind.decode (ofObject (kind.encode r)) = .ok r := by
  cases kind with
  | port => exact Port.decode_encode r
  | portPair => exact PortPair.decode_encode r
  | portPairGroup => exact PortPairGroup.decode_encode r
  | portChain => exact PortChain.decode_encode r
  | flowClassifier => exact FlowClassifier.decode_encode r

theorem encode_injective (kind : Kind) : Function.Injective kind.encode := by
  intro r r' h
  have hr := kind.decode_encode r
  rw [h, kind.decode_encode r'] at hr
  exact (Except.ok.inj hr).symm

def created (id project : String) (chain : UInt64) : (kind : Kind) → kind.Resource → kind.Resource
  | port, p =>
    { p with id := some id, projectId := some project, tenantId := some project, status := none }
  | portPair, p => { p with id := some id, projectId := some project, tenantId := some project }
  | portPairGroup, g =>
    { g with
      id := some id
      projectId := some project
      tenantId := some project
      parameters := some (Dict.empty.insert "lb_fields" (.arr [])) }
  | portChain, c =>
    { c with
      id := some id
      projectId := some project
      tenantId := some project
      chainId := some chain
      parameters := some (Dict.empty.insert "correlation" (.str "mpls")) }
  | flowClassifier, c =>
    { c with id := some id, projectId := some project, tenantId := some project }

@[simp] theorem idOf_created (id project : String) (chain : UInt64) (kind : Kind)
    (r : kind.Resource) : kind.idOf (created id project chain kind r) = some id := by
  cases kind <;> rfl

theorem completed_encode (id project : String) (chain : UInt64) (kind : Kind) (r : kind.Resource) :
    Memory.completed kind chain
      ((((kind.encode (kind.clearServerFields r)).insert "id" (.str id)).insert "project_id"
        (.str project)).insert "tenant_id" (.str project)) =
      kind.encode (created id project chain kind r) := by
  cases kind with
  | port => simp [encode, clearServerFields, Port.encode, Port.clearServerFields,
      Dict.insert_ofFields, Memory.completed, created]
  | portPair => simp [encode, clearServerFields, PortPair.encode, PortPair.clearServerFields,
      Dict.insert_ofFields, Memory.completed, created]
  | portPairGroup =>
    simp [encode, clearServerFields, PortPairGroup.encode, PortPairGroup.clearServerFields,
      Dict.insert_ofFields, Dict.insertNew, Dict.get?_ofFields, Entries.lookup_cons,
      Memory.completed, created]
    rfl
  | portChain =>
    simp [encode, clearServerFields, PortChain.encode, PortChain.clearServerFields,
      Dict.insert_ofFields, Dict.insertNew, Dict.get?_ofFields, Entries.lookup_cons,
      Memory.completed, created]
    rfl
  | flowClassifier => simp [encode, clearServerFields, FlowClassifier.encode,
      FlowClassifier.clearServerFields, Dict.insert_ofFields, Memory.completed, created]

/-- A resource after a change; what belongs to the service stays, and so does what the change
does not set. -/
def amended : (kind : Kind) → (old change : kind.Resource) → kind.Resource
  | port, p, q =>
    { p with
      name := q.name.or p.name
      networkId := q.networkId.or p.networkId
      macAddress := q.macAddress.or p.macAddress
      fixedIps := if q.fixedIps.isEmpty then p.fixedIps else q.fixedIps
      deviceId := q.deviceId.or p.deviceId
      deviceOwner := q.deviceOwner.or p.deviceOwner
      profile := q.profile.or p.profile }
  | portPair, p, q =>
    { p with
      name := q.name.or p.name
      description := q.description.or p.description
      ingress := q.ingress.or p.ingress
      egress := q.egress.or p.egress
      parameters := q.parameters.or p.parameters }
  | portPairGroup, g, h =>
    { g with
      name := h.name.or g.name
      description := h.description.or g.description
      portPairs := h.portPairs }
  | portChain, c, d =>
    { c with
      name := d.name.or c.name
      description := d.description.or c.description
      portPairGroups := d.portPairGroups
      flowClassifiers := d.flowClassifiers }
  | flowClassifier, c, d =>
    { c with
      name := d.name.or c.name
      description := d.description.or c.description
      ethertype := d.ethertype.or c.ethertype
      protocol := d.protocol.or c.protocol
      sourceIpPrefix := d.sourceIpPrefix.or c.sourceIpPrefix
      destinationIpPrefix := d.destinationIpPrefix.or c.destinationIpPrefix
      logicalSourcePort := d.logicalSourcePort.or c.logicalSourcePort
      logicalDestinationPort := d.logicalDestinationPort.or c.logicalDestinationPort
      l7Parameters := d.l7Parameters.or c.l7Parameters }

@[simp] theorem idOf_amended (kind : Kind) (old change : kind.Resource) :
    kind.idOf (amended kind old change) = kind.idOf old := by cases kind <;> rfl

theorem amended_encode_port (old change : Port) :
    Memory.amended old.encode change.clearServerFields.encode =
      (amended .port old change).encode := by
  rcases change with ⟨_, _, _, _, _, _, ips, _, _, _, _⟩
  rw [Memory.amended, Port.encode, Port.encode, Dict.insertAll_ofFields]
  · simp only [Port.clearServerFields, List.zipWith_cons_cons, List.zipWith_nil_left,
      Option.map_none, Option.none_or, ← Option.map_or]
    cases ips <;> rfl
  · rfl
  · simp
  · rfl

theorem amended_encode (kind : Kind) (old change : kind.Resource) :
    Memory.amended (kind.encode old) (kind.encode (kind.clearServerFields change)) =
      kind.encode (amended kind old change) := by
  cases kind with
  | port => exact amended_encode_port old change
  | portPair =>
    rw [Memory.amended, encode, clearServerFields, PortPair.encode, PortPair.encode,
      Dict.insertAll_ofFields]
    · simp only [PortPair.clearServerFields, List.zipWith_cons_cons, List.zipWith_nil_left,
        Option.map_none, Option.none_or, ← Option.map_or]
      rfl
    · rfl
    · simp
    · rfl
  | portPairGroup =>
    rw [Memory.amended, encode, clearServerFields, PortPairGroup.encode, PortPairGroup.encode,
      Dict.insertAll_ofFields]
    · simp only [PortPairGroup.clearServerFields, List.zipWith_cons_cons, List.zipWith_nil_left,
        Option.map_none, Option.none_or, Option.some_or, ← Option.map_or]
      rfl
    · rfl
    · simp
    · rfl
  | portChain =>
    rw [Memory.amended, encode, clearServerFields, PortChain.encode, PortChain.encode,
      Dict.insertAll_ofFields]
    · simp only [PortChain.clearServerFields, List.zipWith_cons_cons, List.zipWith_nil_left,
        Option.map_none, Option.none_or, Option.some_or, ← Option.map_or]
      rfl
    · rfl
    · simp
    · rfl
  | flowClassifier =>
    rw [Memory.amended, encode, clearServerFields, FlowClassifier.encode, FlowClassifier.encode,
      Dict.insertAll_ofFields]
    · simp only [FlowClassifier.clearServerFields, List.zipWith_cons_cons, List.zipWith_nil_left,
        Option.map_none, Option.none_or, ← Option.map_or]
      rfl
    · rfl
    · simp
    · rfl

end Kind

namespace Kind

theorem amended_portPairs (g : PortPairGroup) (pairIds : List String) :
    amended .portPairGroup g { g with portPairs := pairIds } = { g with portPairs := pairIds } := by
  cases g; simp [amended]

theorem amended_portPairGroups (c : PortChain) (groupIds : List String) :
    amended .portChain c { c with portPairGroups := groupIds } =
      { c with portPairGroups := groupIds } := by
  cases c; simp [amended]

theorem amended_flowClassifiers (c : PortChain) (hookIds : List String) :
    amended .portChain c { c with flowClassifiers := hookIds } =
      { c with flowClassifiers := hookIds } := by
  cases c; simp [amended]

end Kind

end TrafficSteering
