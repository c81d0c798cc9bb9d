import TrafficSteering.Element
import TrafficSteering.Error

namespace TrafficSteering.Engine

def tagsUnsupported : Error := .unsupported "Tags are not supported in neutron SFC."

def orderUnsupported : Error := .unsupported "Hook order is not supported in neutron SFC."

def encapsulationUnsupported : Error :=
  .unsupported "Tag encapsulation is not supported in neutron SFC."

def failurePolicyUnsupported : Error :=
  .unsupported "Failure policy is not supported in neutron SFC."

def removeAllUnsupported : Error :=
  .unsupported "Removing all inspection hooks is not supported in neutron SFC."

def deviceOwnerUnsupported : Error :=
  .unsupported
    "Retrieving the network element given the device owner id is currently not supported."

inductive HookAction where
  | retrieve
  | remove
deriving DecidableEq, Inhabited

def HookAction.text : HookAction → String
  | retrieve => "Retriving"
  | remove => "Removing"

def betweenPortsUnsupported (action : HookAction) (inspected inspection : Element) : Error :=
  let inspectedId := inspected.id.getD "null"
  let inspectionId := inspection.id.getD "null"
  .unsupported (action.text ++ s!" inspection hooks with Inspected port: {inspectedId} " ++
    s!"and Inspection port: {inspectionId} is not supported.")

end TrafficSteering.Engine
