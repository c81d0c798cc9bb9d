import TrafficSteering.Json.Record

namespace TrafficSteering

open Json

structure FixedIp where
  subnetId : Option String := none
  ipAddress : String
deriving DecidableEq, Inhabited

namespace FixedIp

def encode (ip : FixedIp) : Object :=
  Dict.ofFields [("subnet_id", ip.subnetId.map .str), ("ip_address", some (.str ip.ipAddress))]

def decode (value : Json) : Except Fault FixedIp := do
  let m ← record ["subnet_id", "ip_address"] value
  return {
    subnetId := ← optional m "subnet_id" asText
    ipAddress := ← required m "ip_address" asText }

end FixedIp

structure Port where
  id : Option String := none
  name : Option String := none
  networkId : Option String := none
  projectId : Option String := none
  tenantId : Option String := none
  macAddress : Option String := none
  fixedIps : List FixedIp := []
  deviceId : Option String := none
  deviceOwner : Option String := none
  status : Option String := none
  profile : Option Object := none
deriving DecidableEq, Inhabited

namespace Port

def fields : List String :=
  ["id", "name", "network_id", "project_id", "tenant_id", "mac_address", "fixed_ips", "device_id",
    "device_owner", "status", "binding:profile"]

/-- Absent fields and an empty list of addresses are not written. -/
def encode (p : Port) : Object :=
  Dict.ofFields [
    ("id", p.id.map .str),
    ("name", p.name.map .str),
    ("network_id", p.networkId.map .str),
    ("project_id", p.projectId.map .str),
    ("tenant_id", p.tenantId.map .str),
    ("mac_address", p.macAddress.map .str),
    ("fixed_ips",
      if p.fixedIps.isEmpty then none
      else some (.arr (p.fixedIps.map fun ip ↦ ofObject ip.encode))),
    ("device_id", p.deviceId.map .str),
    ("device_owner", p.deviceOwner.map .str),
    ("status", p.status.map .str),
    ("binding:profile", p.profile.map ofObject)]

def decode (value : Json) : Except Fault Port := do
  let m ← record fields value
  return {
    id := ← optional m "id" asText
    name := ← optional m "name" asText
    networkId := ← optional m "network_id" asText
    projectId := ← optional m "project_id" asText
    tenantId := ← optional m "tenant_id" asText
    macAddress := ← optional m "mac_address" asText
    fixedIps := ← listOrEmpty m "fixed_ips" FixedIp.decode
    deviceId := ← optional m "device_id" asText
    deviceOwner := ← optional m "device_owner" asText
    status := ← optional m "status" asText
    profile := ← optional m "binding:profile" asObject }

def clearServerFields (p : Port) : Port :=
  { p with id := none, projectId := none, tenantId := none, status := none }

def profileText (p : Port) (key : String) : Option String := do
  (← (← p.profile).get? key).text?

def addresses (p : Port) : List String := p.fixedIps.map FixedIp.ipAddress

end Port

abbrev Query := List (String × String)

structure PortFilter where
  ipAddress : Option String := none
  macAddress : Option String := none
  deviceId : Option String := none
  deviceOwner : Option String := none
  networkId : Option String := none
  projectId : Option String := none
deriving DecidableEq, Inhabited

namespace PortFilter

def byAddress (address : String) : PortFilter := { ipAddress := some address }

def addressTerm (address : String) : String := "ip_address=" ++ address

def toQuery (f : PortFilter) : Query :=
  [ ("fixed_ips", f.ipAddress.map addressTerm),
    ("mac_address", f.macAddress),
    ("device_id", f.deviceId),
    ("device_owner", f.deviceOwner),
    ("network_id", f.networkId),
    ("project_id", f.projectId) ].filterMap fun e ↦ e.2.map (e.1, ·)

end PortFilter

end TrafficSteering
