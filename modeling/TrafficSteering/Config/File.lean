import TrafficSteering.Config
import TrafficSteering.Yaml.Record

namespace TrafficSteering

open Yaml

namespace NeutronConfig

def ofNode (d : Document) (node : Node) : Except Fault NeutronConfig := do
  let m ← record d fields node
  let text := asText d
  let c : NeutronConfig := {}
  return {
    networkEndpoint := ← withDefault m "network_endpoint" text c.networkEndpoint
    authUrl := ← withDefault m "auth_url" text c.authUrl
    username := ← withDefault m "username" text c.username
    password := ← withDefault m "password" text c.password
    projectName := ← withDefault m "project_name" text c.projectName
    userDomainName := ← withDefault m "user_domain_name" text c.userDomainName
    projectDomainName := ← withDefault m "project_domain_name" text c.projectDomainName
    region := ← withDefault m "region" text c.region
    token := ← withDefault m "token" (asOption d text) c.token
    requestTimeoutSecs :=
      ← withDefault m "request_timeout_secs" (asWord d) c.requestTimeoutSecs }

end NeutronConfig

inductive FileFault where
  | absent
  | notDirectory
  | isDirectory
  | denied
  | notText
  | other (text : String)
deriving DecidableEq, Inhabited

def FileFault.message : FileFault → String
  | absent => "No such file or directory (os error 2)"
  | notDirectory => "Not a directory (os error 20)"
  | isDirectory => "Is a directory (os error 21)"
  | denied => "Permission denied (os error 13)"
  | notText => "stream did not contain valid UTF-8"
  | other text => text

namespace Config

def ofNode (d : Document) (node : Node) : Except Fault Config := do
  let m ← record d fields node
  let names := Provider.all.map fun p ↦ (p.name, p)
  let c : Config := {}
  return {
    provider := ← withDefault m "provider" (asName d names) c.provider
    neutron := ← withDefault m "neutron" (NeutronConfig.ofNode d) c.neutron
    hookTagKey := ← withDefault m "hook_tag_key" (asText d) c.hookTagKey }

/-- The settings in a text; one without content leaves every setting as it is by itself. -/
def ofText (text : String) : Except Error Config :=
  let read : Except Fault Config := do
    let d ← Document.parse text
    match d.root with
    | some node => ofNode d node
    | none => return {}
  read.mapError .yaml

def ofFile : Except FileFault String → Except Error Config
  | .ok text => ofText text
  | .error fault => .error (.io fault.message)

end Config

end TrafficSteering
