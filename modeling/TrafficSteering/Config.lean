import TrafficSteering.Error
import TrafficSteering.HookTag
import TrafficSteering.Json.Record
import TrafficSteering.Text.Blank

namespace TrafficSteering

open Json

inductive Provider where
  | neutron
  | memory
deriving DecidableEq, Inhabited

namespace Provider

def name : Provider → String
  | neutron => "neutron"
  | memory => "memory"

def all : List Provider := [neutron, memory]

def ofName? (name : String) : Option Provider := all.find? (·.name == name)

def decode : Json → Except Fault Provider := asName (all.map fun p ↦ (p.name, p))

end Provider

structure NeutronConfig where
  networkEndpoint : String := "http://neutron:9696"
  authUrl : String := "http://keystone:5000/v3"
  username : String := "admin"
  password : String := ""
  projectName : String := "admin"
  userDomainName : String := "Default"
  projectDomainName : String := "Default"
  region : String := "RegionOne"
  token : Option String := none
  requestTimeoutSecs : UInt64 := 30
deriving DecidableEq, Inhabited

namespace NeutronConfig

def fields : List String :=
  ["network_endpoint", "auth_url", "username", "password", "project_name", "user_domain_name",
    "project_domain_name", "region", "token", "request_timeout_secs"]

def encode (c : NeutronConfig) : Json :=
  .obj [
    ("network_endpoint", .str c.networkEndpoint),
    ("auth_url", .str c.authUrl),
    ("username", .str c.username),
    ("password", .str c.password),
    ("project_name", .str c.projectName),
    ("user_domain_name", .str c.userDomainName),
    ("project_domain_name", .str c.projectDomainName),
    ("region", .str c.region),
    ("token", ofOption .str c.token),
    ("request_timeout_secs", .int c.requestTimeoutSecs.toNat)]

def decode (value : Json) : Except Fault NeutronConfig := do
  let m ← record fields value
  let c : NeutronConfig := {}
  return {
    networkEndpoint := ← withDefault m "network_endpoint" asText c.networkEndpoint
    authUrl := ← withDefault m "auth_url" asText c.authUrl
    username := ← withDefault m "username" asText c.username
    password := ← withDefault m "password" asText c.password
    projectName := ← withDefault m "project_name" asText c.projectName
    userDomainName := ← withDefault m "user_domain_name" asText c.userDomainName
    projectDomainName := ← withDefault m "project_domain_name" asText c.projectDomainName
    region := ← withDefault m "region" asText c.region
    token := ← optional m "token" asText
    requestTimeoutSecs := ← withDefault m "request_timeout_secs" asWord c.requestTimeoutSecs }

end NeutronConfig

structure Config where
  provider : Provider := .neutron
  neutron : NeutronConfig := {}
  hookTagKey : String := HookTag.defaultKey
deriving DecidableEq, Inhabited

namespace Config

def fields : List String := ["provider", "neutron", "hook_tag_key"]

def encode (c : Config) : Json :=
  .obj [
    ("provider", .str c.provider.name),
    ("neutron", c.neutron.encode),
    ("hook_tag_key", .str c.hookTagKey)]

def decode (value : Json) : Except Fault Config := do
  let m ← record fields value
  let c : Config := {}
  return {
    provider := ← withDefault m "provider" Provider.decode c.provider
    neutron := ← withDefault m "neutron" NeutronConfig.decode c.neutron
    hookTagKey := ← withDefault m "hook_tag_key" asText c.hookTagKey }

def problem? (c : Config) : Option String :=
  let n := c.neutron
  if Text.blank c.hookTagKey then some "hook tag key must not be empty"
  else if c.provider ≠ .neutron then none
  else if Text.blank n.networkEndpoint then some "Neutron network endpoint is required"
  else if n.requestTimeoutSecs = 0 then some "request timeout must be positive"
  else if n.token.isNone ∧ (n.authUrl = "" ∨ n.username = "") then
    some "either a token or Keystone auth URL and username are required"
  else none

def validate (c : Config) : Except Error Unit :=
  match c.problem? with
  | some text => .error (.configuration text)
  | none => .ok ()

end Config

end TrafficSteering
