import TrafficSteering.Json.Record

namespace TrafficSteering

open Json

structure PortPair where
  id : Option String := none
  name : Option String := none
  description : Option String := none
  projectId : Option String := none
  tenantId : Option String := none
  ingress : Option String := none
  egress : Option String := none
  parameters : Option Object := none
deriving DecidableEq, Inhabited

namespace PortPair

def fields : List String :=
  ["id", "name", "description", "project_id", "tenant_id", "ingress", "egress",
    "service_function_parameters"]

def encode (p : PortPair) : Object :=
  Dict.ofFields [
    ("id", p.id.map .str),
    ("name", p.name.map .str),
    ("description", p.description.map .str),
    ("project_id", p.projectId.map .str),
    ("tenant_id", p.tenantId.map .str),
    ("ingress", p.ingress.map .str),
    ("egress", p.egress.map .str),
    ("service_function_parameters", p.parameters.map ofObject)]

def decode (value : Json) : Except Fault PortPair := do
  let m ← record fields value
  return {
    id := ← optional m "id" asText
    name := ← optional m "name" asText
    description := ← optional m "description" asText
    projectId := ← optional m "project_id" asText
    tenantId := ← optional m "tenant_id" asText
    ingress := ← optional m "ingress" asText
    egress := ← optional m "egress" asText
    parameters := ← optional m "service_function_parameters" asObject }

def clearServerFields (p : PortPair) : PortPair :=
  { p with id := none, projectId := none, tenantId := none }

end PortPair

structure PortPairGroup where
  id : Option String := none
  name : Option String := none
  description : Option String := none
  projectId : Option String := none
  tenantId : Option String := none
  portPairs : List String := []
  parameters : Option Object := none
deriving DecidableEq, Inhabited

namespace PortPairGroup

def fields : List String :=
  ["id", "name", "description", "project_id", "tenant_id", "port_pairs",
    "port_pair_group_parameters"]

def encode (g : PortPairGroup) : Object :=
  Dict.ofFields [
    ("id", g.id.map .str),
    ("name", g.name.map .str),
    ("description", g.description.map .str),
    ("project_id", g.projectId.map .str),
    ("tenant_id", g.tenantId.map .str),
    ("port_pairs", some (texts g.portPairs)),
    ("port_pair_group_parameters", g.parameters.map ofObject)]

def decode (value : Json) : Except Fault PortPairGroup := do
  let m ← record fields value
  return {
    id := ← optional m "id" asText
    name := ← optional m "name" asText
    description := ← optional m "description" asText
    projectId := ← optional m "project_id" asText
    tenantId := ← optional m "tenant_id" asText
    portPairs := ← listOrEmpty m "port_pairs" asText
    parameters := ← optional m "port_pair_group_parameters" asObject }

def clearServerFields (g : PortPairGroup) : PortPairGroup :=
  { g with id := none, projectId := none, tenantId := none, parameters := none }

end PortPairGroup

end TrafficSteering
