import TrafficSteering.Element
import TrafficSteering.Gateway

namespace TrafficSteering.Lookup

def networkElement (port : Port) (parentId : Option String) : NetworkElement :=
  { elementId := port.id
    macAddresses := port.macAddress.toList
    portIps := port.addresses
    parentId }

/-- A chain that names its groups and holds nothing of them. -/
def shallowChain (chain : PortChain) : ServiceFunctionChain :=
  let id := chain.id.getD ""
  { elementId := some id
    portPairGroups := chain.portPairGroups.map fun g ↦ { elementId := some g, chainId := some id }
    flowClassifierIds := chain.flowClassifiers }

def endpoint (portId : Option String) (parentId : String) : Program (Option NetworkElement) := do
  match portId with
  | none => return none
  | some id =>
    let port ← Gateway.get .port id
    return port.map fun p ↦ networkElement p (some parentId)

def inspectionPort (pair : PortPair) (groupId : Option String) : Program InspectionPort := do
  let pairId := pair.id.getD ""
  let ingressPort ← endpoint pair.ingress pairId
  let egressPort ← endpoint pair.egress pairId
  return { elementId := pair.id, parentId := groupId, ingressPort, egressPort }

/-- The inspection ports of a group, those that are gone left out. -/
def inspectionPorts (groupId : String) : List String → Program (List InspectionPort)
  | [] => return []
  | pairId :: rest => do
    match ← Gateway.get .portPair pairId with
    | none => inspectionPorts groupId rest
    | some pair =>
      let port ← inspectionPort pair (some groupId)
      let ports ← inspectionPorts groupId rest
      return port :: ports

def groups (chainId : String) : List String → Program (List GroupElement)
  | [] => return []
  | groupId :: rest => do
    match ← Gateway.get .portPairGroup groupId with
    | none => groups chainId rest
    | some group =>
      let inspectionPorts ← inspectionPorts groupId group.portPairs
      let more ← groups chainId rest
      return { elementId := some groupId, inspectionPorts, chainId := some chainId } :: more

def chainTree (chain : PortChain) : Program ServiceFunctionChain := do
  let id := chain.id.getD ""
  let portPairGroups ← groups id chain.portPairGroups
  return { elementId := some id, portPairGroups, flowClassifierIds := chain.flowClassifiers }

def pairByPorts (ingress egress : Option String) : Program (Option PortPair) := do
  let pairs ← Gateway.list .portPair []
  return pairs.find? fun p ↦ p.ingress == ingress && p.egress == egress

/-- The pair with the element's id, or else with its ends. -/
def pairOf (port : InspectionPort) : Program (Option PortPair) := do
  let byId ← match port.elementId with
    | none => pure none
    | some id => if id = "" then pure none else Gateway.get .portPair id
  match byId with
  | some pair => return some pair
  | none =>
    if port.ingressId.isNone && port.egressId.isNone then return none
    else pairByPorts port.ingressId port.egressId

def groupOfPair (pairId : String) : Program (Option PortPairGroup) := do
  let groups ← Gateway.list .portPairGroup []
  return groups.find? (·.portPairs.contains pairId)

def chainOfGroup (groupId : String) : Program (Option PortChain) := do
  let chains ← Gateway.list .portChain []
  return chains.find? (·.portPairGroups.contains groupId)

def chainOfClassifier (classifierId : String) : Program (Option PortChain) := do
  let chains ← Gateway.list .portChain []
  return chains.find? (·.flowClassifiers.contains classifierId)

def requireGroups : List String → Program Unit
  | [] => return ()
  | id :: rest => do
    match ← Gateway.get .portPairGroup id with
    | none => .fail (.notFound "Port Pair Group" id)
    | some _ => requireGroups rest

def chainedElsewhere (groupId chainId : String) : Error :=
  .conflict s!"Port Pair Group Id {groupId} is already chained to SFC Id : {chainId} "

/-- The first group that a chain other than the allowed one lists, with the first such chain. -/
def chainedGroup? (chains : List PortChain) (allowed : Option String) (groupIds : List String) :
    Option (String × PortChain) :=
  let others := match allowed with
    | none => chains
    | some id => chains.filter fun c ↦ c.id != some id
  groupIds.findSome? fun id ↦
    (others.find? (·.portPairGroups.contains id)).map fun chain ↦ (id, chain)

def validateGroups (groupIds : List String) (allowed : Option String) : Program Unit := do
  requireGroups groupIds
  let chains ← Gateway.list .portChain []
  match chainedGroup? chains allowed groupIds with
  | some (id, chain) => .fail (chainedElsewhere id (chain.id.getD ""))
  | none => return ()

end TrafficSteering.Lookup
