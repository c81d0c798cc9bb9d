import TrafficSteering.Json.Record

namespace TrafficSteering

open Json

structure FlowClassifier where
  id : Option String := none
  name : Option String := none
  description : Option String := none
  projectId : Option String := none
  tenantId : Option String := none
  ethertype : Option String := none
  protocol : Option String := none
  sourceIpPrefix : Option String := none
  destinationIpPrefix : Option String := none
  logicalSourcePort : Option String := none
  logicalDestinationPort : Option String := none
  l7Parameters : Option Object := none
deriving DecidableEq, Inhabited

namespace FlowClassifier

def fields : List String :=
  ["id", "name", "description", "project_id", "tenant_id", "ethertype", "protocol",
    "source_ip_prefix", "destination_ip_prefix", "logical_source_port",
    "logical_destination_port", "l7_parameters"]

def encode (c : FlowClassifier) : Object :=
  Dict.ofFields [
    ("id", c.id.map .str),
    ("name", c.name.map .str),
    ("description", c.description.map .str),
    ("project_id", c.projectId.map .str),
    ("tenant_id", c.tenantId.map .str),
    ("ethertype", c.ethertype.map .str),
    ("protocol", c.protocol.map .str),
    ("source_ip_prefix", c.sourceIpPrefix.map .str),
    ("destination_ip_prefix", c.destinationIpPrefix.map .str),
    ("logical_source_port", c.logicalSourcePort.map .str),
    ("logical_destination_port", c.logicalDestinationPort.map .str),
    ("l7_parameters", c.l7Parameters.map ofObject)]

def decode (value : Json) : Except Fault FlowClassifier := do
  let m ← record fields value
  return {
    id := ← optional m "id" asText
    name := ← optional m "name" asText
    description := ← optional m "description" asText
    projectId := ← optional m "project_id" asText
    tenantId := ← optional m "tenant_id" asText
    ethertype := ← optional m "ethertype" asText
    protocol := ← optional m "protocol" asText
    sourceIpPrefix := ← optional m "source_ip_prefix" asText
    destinationIpPrefix := ← optional m "destination_ip_prefix" asText
    logicalSourcePort := ← optional m "logical_source_port" asText
    logicalDestinationPort := ← optional m "logical_destination_port" asText
    l7Parameters := ← optional m "l7_parameters" asObject }

def clearServerFields (c : FlowClassifier) : FlowClassifier :=
  { c with id := none, projectId := none, tenantId := none }

def destinationAddress (c : FlowClassifier) : Option String :=
  c.destinationIpPrefix.map fun text ↦ String.ofList (text.toList.takeWhile (· ≠ '/'))

end FlowClassifier

end TrafficSteering
