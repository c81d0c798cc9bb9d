import TrafficSteering.Json.Record

namespace TrafficSteering

open Json

inductive TagEncapsulation where
  | vlan
  | vxlan
  | gre
deriving DecidableEq, Inhabited

namespace TagEncapsulation

def name : TagEncapsulation → String
  | vlan => "vlan"
  | vxlan => "vxlan"
  | gre => "gre"

def decode : Json → Except Fault TagEncapsulation :=
  asName ([vlan, vxlan, gre].map fun e ↦ (e.name, e))

end TagEncapsulation

inductive FailurePolicy where
  | failOpen
  | failClose
  | notApplicable
deriving DecidableEq, Inhabited

namespace FailurePolicy

def name : FailurePolicy → String
  | failOpen => "fail_open"
  | failClose => "fail_close"
  | notApplicable => "na"

def decode : Json → Except Fault FailurePolicy :=
  asName ([failOpen, failClose, notApplicable].map fun p ↦ (p.name, p))

end FailurePolicy

/-- One end of traffic: a port of the network. -/
structure NetworkElement where
  elementId : Option String := none
  macAddresses : List String := []
  portIps : List String := []
  parentId : Option String := none
deriving DecidableEq, Inhabited

namespace NetworkElement

def withId (id : String) : NetworkElement := { elementId := some id }

def encode (e : NetworkElement) : Json :=
  .obj [
    ("elementId", ofOption .str e.elementId),
    ("macAddresses", texts e.macAddresses),
    ("portIps", texts e.portIps),
    ("parentId", ofOption .str e.parentId)]

def decode (value : Json) : Except Fault NetworkElement := do
  let m ← fullRecord ["elementId", "macAddresses", "portIps", "parentId"] value
  return {
    elementId := ← optional m "elementId" asText
    macAddresses := ← required m "macAddresses" (asList asText)
    portIps := ← required m "portIps" (asList asText)
    parentId := ← optional m "parentId" asText }

end NetworkElement

/-- A point where traffic is inspected: it enters by one port and leaves by another. -/
structure InspectionPort where
  elementId : Option String := none
  parentId : Option String := none
  ingressPort : Option NetworkElement := none
  egressPort : Option NetworkElement := none
deriving DecidableEq, Inhabited

namespace InspectionPort

def between (ingress egress : NetworkElement) : InspectionPort :=
  { ingressPort := some ingress, egressPort := some egress }

def withParent (p : InspectionPort) (groupId : String) : InspectionPort :=
  { p with parentId := some groupId }

def ingressId (p : InspectionPort) : Option String := p.ingressPort.bind (·.elementId)

def egressId (p : InspectionPort) : Option String := p.egressPort.bind (·.elementId)

def encode (p : InspectionPort) : Json :=
  .obj [
    ("elementId", ofOption .str p.elementId),
    ("parentId", ofOption .str p.parentId),
    ("ingressPort", ofOption NetworkElement.encode p.ingressPort),
    ("egressPort", ofOption NetworkElement.encode p.egressPort)]

def decode (value : Json) : Except Fault InspectionPort := do
  let m ← fullRecord ["elementId", "parentId", "ingressPort", "egressPort"] value
  return {
    elementId := ← optional m "elementId" asText
    parentId := ← optional m "parentId" asText
    ingressPort := ← optional m "ingressPort" NetworkElement.decode
    egressPort := ← optional m "egressPort" NetworkElement.decode }

end InspectionPort

/-- One stage of a chain: inspection ports that share its load. -/
structure GroupElement where
  elementId : Option String := none
  inspectionPorts : List InspectionPort := []
  chainId : Option String := none
deriving DecidableEq, Inhabited

namespace GroupElement

def toNetworkElement (g : GroupElement) : NetworkElement :=
  { elementId := g.elementId, parentId := g.chainId }

def encode (g : GroupElement) : Json :=
  .obj [
    ("elementId", ofOption .str g.elementId),
    ("inspectionPorts", .arr (g.inspectionPorts.map InspectionPort.encode)),
    ("serviceFunctionChainId", ofOption .str g.chainId)]

def decode (value : Json) : Except Fault GroupElement := do
  let m ← fullRecord ["elementId", "inspectionPorts", "serviceFunctionChainId"] value
  return {
    elementId := ← optional m "elementId" asText
    inspectionPorts := ← required m "inspectionPorts" (asList InspectionPort.decode)
    chainId := ← optional m "serviceFunctionChainId" asText }

end GroupElement

structure ServiceFunctionChain where
  elementId : Option String := none
  portPairGroups : List GroupElement := []
  flowClassifierIds : List String := []
deriving DecidableEq, Inhabited

namespace ServiceFunctionChain

def withId (id : String) : ServiceFunctionChain := { elementId := some id }

def groupIds (c : ServiceFunctionChain) : List String :=
  c.portPairGroups.filterMap GroupElement.elementId

def firstIngress (c : ServiceFunctionChain) : Option NetworkElement := do
  (← (← c.portPairGroups.head?).inspectionPorts.head?).ingressPort

def lastEgress (c : ServiceFunctionChain) : Option NetworkElement := do
  (← (← c.portPairGroups.getLast?).inspectionPorts.getLast?).egressPort

def encode (c : ServiceFunctionChain) : Json :=
  .obj [
    ("elementId", ofOption .str c.elementId),
    ("portPairGroups", .arr (c.portPairGroups.map GroupElement.encode)),
    ("flowClassifierIds", texts c.flowClassifierIds)]

def decode (value : Json) : Except Fault ServiceFunctionChain := do
  let m ← fullRecord ["elementId", "portPairGroups", "flowClassifierIds"] value
  return {
    elementId := ← optional m "elementId" asText
    portPairGroups := ← required m "portPairGroups" (asList GroupElement.decode)
    flowClassifierIds := ← required m "flowClassifierIds" (asList asText) }

end ServiceFunctionChain

/-- Traffic of a port that is led through a chain; named by its flow classifier. -/
structure InspectionHook where
  hookId : Option String := none
  inspectedPort : NetworkElement
  chain : ServiceFunctionChain
deriving DecidableEq, Inhabited

namespace InspectionHook

def encode (h : InspectionHook) : Json :=
  .obj [
    ("hookId", ofOption .str h.hookId),
    ("inspectedPort", h.inspectedPort.encode),
    ("serviceFunctionChain", h.chain.encode)]

def decode (value : Json) : Except Fault InspectionHook := do
  let m ← fullRecord ["hookId", "inspectedPort", "serviceFunctionChain"] value
  return {
    hookId := ← optional m "hookId" asText
    inspectedPort := ← required m "inspectedPort" NetworkElement.decode
    chain := ← required m "serviceFunctionChain" ServiceFunctionChain.decode }

end InspectionHook

inductive Element where
  | network (element : NetworkElement)
  | inspectionPort (port : InspectionPort)
  | group (group : GroupElement)
  | chain (chain : ServiceFunctionChain)
deriving DecidableEq, Inhabited

namespace Element

def id : Element → Option String
  | network e => e.elementId
  | inspectionPort p => p.elementId
  | group g => g.elementId
  | chain c => c.elementId

def parentId : Element → Option String
  | network e => e.parentId
  | inspectionPort p => p.parentId
  | group g => g.chainId
  | chain _ => none

def portIps : Element → List String
  | network e => e.portIps
  | _ => []

end Element

end TrafficSteering
