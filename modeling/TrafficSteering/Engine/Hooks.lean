import TrafficSteering.Engine.Chains
import TrafficSteering.HookClassifier
import TrafficSteering.HookTag

namespace TrafficSteering.Engine

variable (key : String)

def setClassifiers (chain : PortChain) (ids : List String) : Program PortChain :=
  Gateway.update .portChain (chain.id.getD "") { chain with flowClassifiers := ids }

def attachClassifier (chain : PortChain) (hookId : String) : Program PortChain :=
  setClassifiers chain
    (if chain.flowClassifiers.contains hookId then chain.flowClassifiers
     else chain.flowClassifiers ++ [hookId])

def detachClassifier (chain : PortChain) (hookId : String) : Program PortChain :=
  setClassifiers chain (chain.flowClassifiers.filter (· ≠ hookId))

def attachStep (hookId chainId : String) : String :=
  s!"attach Flow Classifier {hookId} to Service Function Chain {chainId}"

def hookPresent (inspectedId chainId : String) : Error :=
  .conflict s!"Found existing inspection hook (Inspected {inspectedId} ; Inspection Port {chainId})"

def installHook (inspected chain : Element) : Program String := do
  let inspectedId ← Guard.requireId inspected "Inspected port"
  let chainId ← Guard.requireId chain "Inspection port"
  let stored ← requireChain chainId
  let found ← Gateway.get .port inspectedId
  let port ← Guard.requireFound found "Port" inspectedId
  match ← HookTag.liveHook key port with
  | some _ => .fail (hookPresent inspectedId chainId)
  | none =>
    let tree ← Lookup.chainTree stored
    let classifier ← HookClassifier.build tree port inspected.portIps
    let created ← Gateway.create .flowClassifier classifier
    let hookId := created.id.getD ""
    let _ ← (HookTag.set key port (some hookId)).afterChanges true
      s!"tag Port {inspectedId} with inspection hook {hookId}"
    let _ ← (attachClassifier stored hookId).afterChanges true (attachStep hookId chainId)
    return hookId

def portMoved (stored : Option String) (inspectedId hookId : String) : Error :=
  let storedId := stored.getD "null"
  .conflict (s!"Cannot update Inspected Port from {storedId} to {inspectedId} " ++
    s!"for the Inspection hook {hookId}")

def updateHook (hook : InspectionHook) : Program Unit := do
  let hookId ← Guard.requireText hook.hookId "Inspection Hook Id"
  let inspectedId ← Guard.requireText hook.inspectedPort.elementId "Inspected port"
  let chainId ← Guard.requireText hook.chain.elementId "Inspection port"
  let found ← Gateway.get .flowClassifier hookId
  let classifier ← Guard.requireFound found "Inspection Hook" hookId
  let port ← HookTag.taggedPort key classifier
  let storedId := port.bind (·.id)
  if storedId ≠ some inspectedId then .fail (portMoved storedId inspectedId hookId)
  else
    let chain ← requireChain chainId
    match ← Lookup.chainOfClassifier hookId with
    -- left over from an attempt that failed after the detachment
    | none =>
      let _ ← attachClassifier chain hookId
    | some old =>
      if old.id = some chainId then return ()
      else
        let _ ← detachClassifier old hookId
        let _ ← (attachClassifier chain hookId).afterChanges true (attachStep hookId chainId)

/-- Detaches a classifier from the chain that lists it, and tells whether there was one. -/
def detachFromChain (hookId : String) : Program Bool := do
  match ← Lookup.chainOfClassifier hookId with
  | none => return false
  | some chain =>
    let _ ← detachClassifier chain hookId
    return true

def removeHook (hook : String) : Program Unit := do
  let hookId ← Guard.requireText (some hook) "Inspection Hook Id"
  match ← Gateway.get .flowClassifier hookId with
  | none =>
    -- only the tag can have stayed behind
    let _ ← HookTag.clearVanished key hookId
  | some classifier =>
    let tagged ← HookTag.taggedPort key classifier
    let detached ← detachFromChain hookId
    (Gateway.delete .flowClassifier hookId).afterChanges detached
      s!"delete Flow Classifier {hookId}"
    match tagged with
    | none => return ()
    | some port =>
      let portId := port.id.getD ""
      let _ ← (HookTag.set key port none).afterChanges true
        s!"clear inspection hook tag of Port {portId}"

def getHook (hook : String) : Program (Option InspectionHook) := do
  let hookId ← Guard.requireText (some hook) "Inspection Hook Id"
  match ← Gateway.get .flowClassifier hookId with
  | none =>
    let _ ← HookTag.clearVanished key hookId
    return none
  | some classifier =>
    let inspectedPort ← match ← HookTag.taggedPort key classifier with
      | some port => pure (Lookup.networkElement port none)
      | none => pure {}
    let chain ← match ← Lookup.chainOfClassifier hookId with
      | some chain => Lookup.chainTree chain
      | none => pure {}
    return some { hookId := some hookId, inspectedPort, chain }

end TrafficSteering.Engine
