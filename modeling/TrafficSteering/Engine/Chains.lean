import TrafficSteering.Engine.InspectionPorts

namespace TrafficSteering.Engine

def chainKind : String := "Service Function Chain"

def requireChain (chainId : String) : Program PortChain := do
  let found ← Gateway.get .portChain chainId
  Guard.requireFound found chainKind chainId

def registerChain (groups : List NetworkElement) : Program ServiceFunctionChain := do
  Guard.requireSome groups "Port Pair Group member list"
  let groupIds ← Guard.groupIds groups
  Lookup.validateGroups groupIds none
  let created ← Gateway.create .portChain
    { description := some description, portPairGroups := groupIds }
  return Lookup.shallowChain created

def updateChain (chain : Element) (groups : List NetworkElement) :
    Program ServiceFunctionChain := do
  let chainId ← Guard.requireId chain "Port Pair Group Service Function Chain Id"
  Guard.requireSome groups "Port Pair Group update member list"
  let groupIds ← Guard.groupIds groups
  let stored ← requireChain chainId
  Lookup.validateGroups groupIds (some chainId)
  -- all groups come off the chain before the new ones are set
  let cleared ← Gateway.update .portChain chainId { stored with portPairGroups := [] }
  let updated ← (Gateway.update .portChain chainId
    { cleared with portPairGroups := groupIds }).afterChanges true
      s!"set Port Pair Groups of Service Function Chain {chainId}"
  return Lookup.shallowChain updated

def deletionText (chainId : String) (response : ActionResponse) : String :=
  s!"Exception deleting SFC {chainId}. Status {response.code}" ++
    s!"\nMessage:\n" ++ response.fault.getD ""

def deleteChain (chain : Element) : Program Unit := do
  let chainId ← Guard.requireId chain "Service Function Chain Id"
  let _ ← requireChain chainId
  let response ← Gateway.deleteRaw .portChain chainId
  if response.isSuccess then return ()
  else
    .fail (.callFailure .delete chainKind (some response.code) (deletionText chainId response))

def getChain (chain : Element) : Program ServiceFunctionChain := do
  let chainId ← Guard.requireId chain "Service Function Chain Id"
  let stored ← requireChain chainId
  Lookup.chainTree stored

end TrafficSteering.Engine
