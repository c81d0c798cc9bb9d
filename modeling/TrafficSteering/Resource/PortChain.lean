import TrafficSteering.Json.Record

namespace TrafficSteering

open Json

structure PortChain where
  id : Option String := none
  name : Option String := none
  description : Option String := none
  projectId : Option String := none
  tenantId : Option String := none
  chainId : Option UInt64 := none
  portPairGroups : List String := []
  flowClassifiers : List String := []
  parameters : Option Object := none
deriving DecidableEq, Inhabited

namespace PortChain

def fields : List String :=
  ["id", "name", "description", "project_id", "tenant_id", "chain_id", "port_pair_groups",
    "flow_classifiers", "chain_parameters"]

def encode (c : PortChain) : Object :=
  Dict.ofFields [
    ("id", c.id.map .str),
    ("name", c.name.map .str),
    ("description", c.description.map .str),
    ("project_id", c.projectId.map .str),
    ("tenant_id", c.tenantId.map .str),
    ("chain_id", c.chainId.map fun n ↦ .int n.toNat),
    ("port_pair_groups", some (texts c.portPairGroups)),
    ("flow_classifiers", some (texts c.flowClassifiers)),
    ("chain_parameters", c.parameters.map ofObject)]

def decode (value : Json) : Except Fault PortChain := do
  let m ← record fields value
  return {
    id := ← optional m "id" asText
    name := ← optional m "name" asText
    description := ← optional m "description" asText
    projectId := ← optional m "project_id" asText
    tenantId := ← optional m "tenant_id" asText
    chainId := ← optional m "chain_id" asWord
    portPairGroups := ← listOrEmpty m "port_pair_groups" asText
    flowClassifiers := ← listOrEmpty m "flow_classifiers" asText
    parameters := ← optional m "chain_parameters" asObject }

def clearServerFields (c : PortChain) : PortChain :=
  { c with id := none, projectId := none, tenantId := none, chainId := none, parameters := none }

end PortChain

end TrafficSteering
