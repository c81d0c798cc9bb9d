import TrafficSteering.Program
import TrafficSteering.Resource.Basic

namespace TrafficSteering.Gateway

variable (kind : Kind)

def callFailure (operation : Operation) (e : TransportError) : Error :=
  .callFailure operation kind.displayName e.status e.message

def nullResult (operation : Operation) : Error := .nullResult operation kind.displayName

def requireId (id : String) : Program Unit :=
  if id = "" then .fail (.invalidArgument (kind.displayName ++ " Id")) else .done ()

def decode (value : Json) : Program kind.Resource :=
  match kind.decode value with
  | .ok resource => .done resource
  | .error fault => .fail (.json fault)

/-- The resource that a create or an update has to answer with. -/
def decodeResult (operation : Operation) : Option Json → Program kind.Resource
  | none | some .null => .fail (nullResult kind operation)
  | some value => do
    let resource ← decode kind value
    if (kind.idOf resource).isNone then .fail (nullResult kind operation) else .done resource

def decodeAll : List Json → Program (List kind.Resource)
  | [] => .done []
  | value :: rest => do
    let resource ← decode kind value
    let resources ← decodeAll rest
    return resource :: resources

def body (resource : kind.Resource) : Json :=
  Json.ofObject (kind.encode (kind.clearServerFields resource))

def create (resource : kind.Resource) : Program kind.Resource := do
  match ← Program.create kind (body kind resource) with
  | .ok created => decodeResult kind .create created
  | .error e => .fail (callFailure kind .create e)

def get (id : String) : Program (Option kind.Resource) := do
  requireId kind id
  match ← Program.get kind id with
  | .ok none => return none
  | .ok (some value) => do
    let resource ← decode kind value
    return some resource
  | .error e => .fail (callFailure kind .get e)

def list (query : Query) : Program (List kind.Resource) := do
  match ← Program.list kind query with
  | .ok values => decodeAll kind values
  | .error e => .fail (callFailure kind .list e)

def update (id : String) (resource : kind.Resource) : Program kind.Resource := do
  requireId kind id
  match ← Program.update kind id (body kind resource) with
  | .ok updated => decodeResult kind .update updated
  | .error e => .fail (callFailure kind .update e)

def deleteRaw (id : String) : Program ActionResponse := do
  requireId kind id
  match ← Program.delete kind id with
  | .ok response => return response
  | .error e => .fail (callFailure kind .delete e)

/-- Deletes a resource; one that is gone already counts as deleted. -/
def delete (id : String) : Program Unit := do
  let response ← deleteRaw kind id
  if response.isSuccess || response.isNotFound then return ()
  else
    .fail (.callFailure .delete kind.displayName (some response.code)
      (response.fault.getD ""))

def listPorts (filter : PortFilter) : Program (List Port) := list .port filter.toQuery

end TrafficSteering.Gateway
