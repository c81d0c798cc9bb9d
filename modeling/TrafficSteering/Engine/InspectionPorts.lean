import TrafficSteering.Guard
import TrafficSteering.Lookup
import TrafficSteering.Release

namespace TrafficSteering.Engine

def description : String := "Created by " ++ Release.name

def getInspectionPort (port : InspectionPort) : Program (Option InspectionPort) := do
  match ← Lookup.pairOf port with
  | none => return none
  | some pair =>
    let group ← Lookup.groupOfPair (pair.id.getD "")
    let found ← Lookup.inspectionPort pair (group.bind (·.id))
    return some found

def newPair (ingress egress : String) : PortPair :=
  { name := some ("sfc-pair-" ++ ingress)
    description := some description
    ingress := some ingress
    egress := some egress }

def newGroup (pairId : String) : PortPairGroup :=
  { name := some ("sfc-group-" ++ pairId)
    description := some description
    portPairs := [pairId] }

def requestedGroup (port : InspectionPort) : Program (Option PortPairGroup) := do
  match port.parentId with
  | none => return none
  | some id =>
    if id = "" then return none
    else
      let found ← Gateway.get .portPairGroup id
      let group ← Guard.requireFound found "Port Pair Group" id
      return some group

def findOrCreatePair (ingress egress : String) : Program (PortPair × Bool) := do
  match ← Lookup.pairByPorts (some ingress) (some egress) with
  | some pair => return (pair, false)
  | none =>
    let pair ← Gateway.create .portPair (newPair ingress egress)
    return (pair, true)

/-- Puts a pair at the end of a group, or into a group of its own. -/
def placePair (group : Option PortPairGroup) (pairId : String) : Program PortPairGroup :=
  match group with
  | some g =>
    Gateway.update .portPairGroup (g.id.getD "") { g with portPairs := g.portPairs ++ [pairId] }
  | none => Gateway.create .portPairGroup (newGroup pairId)

def registerInspectionPort (port : InspectionPort) : Program InspectionPort := do
  let ingress ← Guard.requireText port.ingressId "Ingress port"
  let egress ← Guard.requireText port.egressId "Egress port"
  let requested ← requestedGroup port
  let (pair, created) ← findOrCreatePair ingress egress
  let pairId := pair.id.getD ""
  let parent ← match ← Lookup.groupOfPair pairId with
    | some group => pure group
    | none =>
      (placePair requested pairId).afterChanges created
        s!"attach Port Pair {pairId} to a Port Pair Group"
  return {
    elementId := some pairId
    parentId := parent.id
    ingressPort := port.ingressPort
    egressPort := port.egressPort }

/-- Takes a pair out of a group, which is deleted with its last pair. -/
def leaveGroup (group : PortPairGroup) (pairId : String) : Program Unit := do
  let groupId := group.id.getD ""
  let remaining := group.portPairs.filter (· ≠ pairId)
  if remaining.isEmpty then Gateway.delete .portPairGroup groupId
  else
    let _ ← Gateway.update .portPairGroup groupId { group with portPairs := remaining }

def removeInspectionPort (port : InspectionPort) : Program Unit := do
  match ← Lookup.pairOf port with
  | none => return ()
  | some pair =>
    let pairId := pair.id.getD ""
    let changed ← match ← Lookup.groupOfPair pairId with
      | none => pure false
      | some group => do
        leaveGroup group pairId
        pure true
    (Gateway.delete .portPair pairId).afterChanges changed s!"delete Port Pair {pairId}"

end TrafficSteering.Engine
