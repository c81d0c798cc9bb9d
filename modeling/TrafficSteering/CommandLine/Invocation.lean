import TrafficSteering.CommandLine.Arguments
import TrafficSteering.Config
import TrafficSteering.Element

namespace TrafficSteering.CommandLine

inductive Command where
  | registerPort (ingress egress : String) (group : Option String)
  | showPort (port : InspectionPort)
  | removePort (port : InspectionPort)
  | createChain (groups : List String)
  | updateChain (chain : String) (groups : List String)
  | deleteChain (chain : String)
  | showChain (chain : String)
  | installHook (inspected chain : String)
  | updateHook (hook inspected chain : String)
  | removeHook (hook : String)
  | showHook (hook : String)
deriving DecidableEq, Inhabited

namespace Command

def single (args : List String) : Option String := do
  (← gatherAll { options := [], plain := true } args).single?

def selectedPort (args : List String) : Option InspectionPort := do
  let g ← gatherAll { options := ["id", "ingress", "egress"] } args
  return {
    elementId := g.option? "id"
    ingressPort := (g.option? "ingress").map .withId
    egressPort := (g.option? "egress").map .withId }

def parse (name : String) (args : List String) : Option Command :=
  match name with
  | "register-port" => do
    let g ← gatherAll { options := ["ingress", "egress", "group"] } args
    return .registerPort (← g.option? "ingress") (← g.option? "egress") (g.option? "group")
  | "show-port" => showPort <$> selectedPort args
  | "remove-port" => removePort <$> selectedPort args
  | "create-chain" => do
    let g ← gatherAll { options := [], plain := true } args
    return .createChain (← g.several?)
  | "update-chain" => do
    let g ← gatherAll { options := ["chain"], plain := true } args
    return .updateChain (← g.option? "chain") (← g.several?)
  | "delete-chain" => deleteChain <$> single args
  | "show-chain" => showChain <$> single args
  | "install-hook" => do
    let g ← gatherAll { options := ["inspected", "chain"] } args
    return .installHook (← g.option? "inspected") (← g.option? "chain")
  | "update-hook" => do
    let g ← gatherAll { options := ["hook", "inspected", "chain"] } args
    return .updateHook (← g.option? "hook") (← g.option? "inspected") (← g.option? "chain")
  | "remove-hook" => removeHook <$> single args
  | "show-hook" => showHook <$> single args
  | _ => none

end Command

inductive Setting where
  | networkEndpoint
  | authUrl
  | username
  | password
  | projectName
  | userDomainName
  | projectDomainName
  | region
  | token
  | hookTagKey
deriving DecidableEq, Inhabited

namespace Setting

def all : List Setting :=
  [networkEndpoint, authUrl, username, password, projectName, userDomainName, projectDomainName,
    region, token, hookTagKey]

def option : Setting → String
  | networkEndpoint => "network-endpoint"
  | authUrl => "auth-url"
  | username => "username"
  | password => "password"
  | projectName => "project-name"
  | userDomainName => "user-domain-name"
  | projectDomainName => "project-domain-name"
  | region => "region"
  | token => "token"
  | hookTagKey => "hook-tag-key"

def variableName : Setting → String
  | networkEndpoint => "NEUTRON_ENDPOINT"
  | authUrl => "OS_AUTH_URL"
  | username => "OS_USERNAME"
  | password => "OS_PASSWORD"
  | projectName => "OS_PROJECT_NAME"
  | userDomainName => "OS_USER_DOMAIN_NAME"
  | projectDomainName => "OS_PROJECT_DOMAIN_NAME"
  | region => "OS_REGION_NAME"
  | token => "OS_TOKEN"
  | hookTagKey => "SFC_HOOK_TAG_KEY"

def set (c : Config) (value : String) : Setting → Config
  | networkEndpoint => { c with neutron := { c.neutron with networkEndpoint := value } }
  | authUrl => { c with neutron := { c.neutron with authUrl := value } }
  | username => { c with neutron := { c.neutron with username := value } }
  | password => { c with neutron := { c.neutron with password := value } }
  | projectName => { c with neutron := { c.neutron with projectName := value } }
  | userDomainName => { c with neutron := { c.neutron with userDomainName := value } }
  | projectDomainName => { c with neutron := { c.neutron with projectDomainName := value } }
  | region => { c with neutron := { c.neutron with region := value } }
  | token => { c with neutron := { c.neutron with token := some value } }
  | hookTagKey => { c with hookTagKey := value }

end Setting

structure Invocation where
  file : Option String
  provider : Option Provider
  overrides : List (Setting × String)
  command : Command
deriving DecidableEq, Inhabited

namespace Invocation

abbrev Environment := List (String × String)

def fileVariable : String := "SFC_CONFIG"

def providerVariable : String := "SFC_PROVIDER"

def logLevelVariable : String := "LOG_LEVEL"

def logJsonVariable : String := "LOG_JSON"

def variableNames : List String :=
  [fileVariable, providerVariable, logLevelVariable, logJsonVariable] ++
    Setting.all.map Setting.variableName

def usage : Usage :=
  { options := ["config", "provider", "log-level"] ++ Setting.all.map Setting.option
    flags := ["log-json"] }

def value? (env : Environment) (g : Given) (option variableName : String) : Option String :=
  (g.option? option).or (env.lookup variableName)

def file? : Option String → Option (Option String)
  | none => some none
  | some name => if name = "" then none else some (some name)

def provider? : Option String → Option (Option Provider)
  | none => some none
  | some name => (Provider.ofName? name).map some

/-- Whether the variable that stands for the flag can be read, where it counts. -/
def logJsonReads (env : Environment) (g : Given) : Bool :=
  g.flags.contains "log-json" ||
    match env.lookup logJsonVariable with
    | none => true
    | some text => text == "true" || text == "false"

/-- None where the arguments are refused. -/
def parse (env : Environment) (args : List String) : Option Invocation := do
  let (g, rest) ← gather usage {} args
  match rest with
  | [] => none
  | name :: rest =>
    let command ← Command.parse name rest
    let file ← file? (value? env g "config" fileVariable)
    let provider ← provider? (value? env g "provider" providerVariable)
    let overrides := Setting.all.filterMap fun s ↦
      (value? env g s.option s.variableName).map (s, ·)
    if logJsonReads env g then some { file, provider, overrides, command } else none

def override (i : Invocation) (c : Config) : Config :=
  let c := { c with provider := i.provider.getD c.provider }
  i.overrides.foldl (fun c e ↦ e.1.set c e.2) c

end Invocation

end TrafficSteering.CommandLine
