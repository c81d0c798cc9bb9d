import TrafficSteering.Gateway

namespace TrafficSteering.HookTag

variable (key : String)

def defaultKey : String := "sfc_inspection_hook_id"

def tag? (port : Port) : Option String := port.profileText key

def retag (profile : Json.Object) : Option String → Json.Object
  | some hookId => profile.insert key (.str hookId)
  | none => profile.erase key

/-- Writes the tag; of the port nothing but its profile is sent. -/
def set (port : Port) (hookId : Option String) : Program Port :=
  Gateway.update .port (port.id.getD "")
    { profile := some (retag key (port.profile.getD Dict.empty) hookId) }

/-- The hook on a port, if its flow classifier still exists. -/
def liveHook (port : Port) : Program (Option String) := do
  match tag? key port with
  | none => return none
  | some hookId =>
    match ← Gateway.get .flowClassifier hookId with
    | some _ => return some hookId
    | none =>
      -- a tag whose classifier is gone is cleared where it is met
      let _ ← set key port none
      return none

def taggedWith (hookId : String) : Program (Option Port) := do
  let ports ← Gateway.listPorts {}
  return ports.find? fun p ↦ tag? key p == some hookId

/-- The inspected port of a classifier: looked for at the destination address first, and among all
ports where it is not found there. -/
def taggedPort (classifier : FlowClassifier) : Program (Option Port) := do
  match classifier.id with
  | none => return none
  | some hookId =>
    match classifier.destinationAddress with
    | none => taggedWith key hookId
    | some address =>
      let ports ← Gateway.listPorts (.byAddress address)
      match ports.find? fun p ↦ tag? key p == some hookId with
      | some port => return some port
      | none => taggedWith key hookId

def clearVanished (hookId : String) : Program (Option Port) := do
  match ← taggedWith key hookId with
  | none => return none
  | some port =>
    let cleared ← set key port none
    return some cleared

end TrafficSteering.HookTag
