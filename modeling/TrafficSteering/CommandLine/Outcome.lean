import TrafficSteering.CommandLine.Invocation
import TrafficSteering.Config.File
import TrafficSteering.Engine.Hooks
import TrafficSteering.Memory
import TrafficSteering.Rest

namespace TrafficSteering.CommandLine

structure Failure where
  message : String
  causes : List String
deriving DecidableEq, Inhabited

namespace Failure

def ofError (e : Error) : Failure := { message := e.message, causes := e.causes }

def within (context : String) (e : Error) : Failure :=
  { message := context, causes := e.message :: e.causes }

def indented (margin text : String) : String := ("\n" ++ margin).intercalate (text.splitOn "\n")

def numbered (n : Nat) (cause : String) : String :=
  let digits := toString n
  let start := String.ofList (List.replicate (5 - digits.length) ' ') ++ digits ++ ": "
  "\n" ++ start ++ indented "       " cause

def causesText : List String → String
  | [] => ""
  | [cause] => "\n\nCaused by:\n    " ++ indented "    " cause
  | causes => "\n\nCaused by:" ++ String.join (causes.mapIdx numbered)

def text (f : Failure) : String := "Error: " ++ f.message ++ causesText f.causes

end Failure

def elements (ids : List String) : List NetworkElement := ids.map .withId

def Command.program (key : String) : Command → Program Json
  | .registerPort ingress egress group => do
    let port := InspectionPort.between (.withId ingress) (.withId egress)
    let port := match group with
      | some group => port.withParent group
      | none => port
    let registered ← Engine.registerInspectionPort port
    return registered.encode
  | .showPort port => do
    let found ← Engine.getInspectionPort port
    return Json.ofOption InspectionPort.encode found
  | .removePort port => do
    Engine.removeInspectionPort port
    return .obj [("removed", .bool true)]
  | .createChain groups => do
    let chain ← Engine.registerChain (elements groups)
    return chain.encode
  | .updateChain chain groups => do
    let updated ← Engine.updateChain (.network (.withId chain)) (elements groups)
    return updated.encode
  | .deleteChain chain => do
    Engine.deleteChain (.network (.withId chain))
    return .obj [("deleted", .str chain)]
  | .showChain chain => do
    let found ← Engine.getChain (.network (.withId chain))
    return found.encode
  | .installHook inspected chain => do
    let hookId ← Engine.installHook key (.network (.withId inspected)) (.network (.withId chain))
    return .obj [("hookId", .str hookId)]
  | .updateHook hook inspected chain => do
    Engine.updateHook key
      { hookId := some hook, inspectedPort := .withId inspected, chain := .withId chain }
    let found ← Engine.getHook key hook
    return Json.ofOption InspectionHook.encode found
  | .removeHook hook => do
    Engine.removeHook key hook
    return .obj [("removed", .str hook)]
  | .showHook hook => do
    let found ← Engine.getHook key hook
    return Json.ofOption InspectionHook.encode found

structure Outcome where
  exitCode : UInt8
  printed : String := ""
  failure : Option Failure := none
deriving DecidableEq, Inhabited

def Outcome.refused : Outcome := { exitCode := 2 }

def Outcome.ofResult : Except Failure Json → Outcome
  | .ok value => { exitCode := 0, printed := value.pretty ++ "\n" }
  | .error failure => { exitCode := 1, failure := some failure }

/-- What a program finds around it: files, fresh ids, and the peer of its exchanges. -/
structure Surroundings (π : Type) where
  fileContent : String → Except FileFault String
  ids : Nat → String
  peer : Net.Http.Peer π
  start : π

variable {π : Type}

namespace Invocation

def load (s : Surroundings π) (i : Invocation) : Except Failure Config :=
  match i.file with
  | none => .ok (i.override {})
  | some name =>
    match Config.ofFile (s.fileContent name) with
    | .ok c => .ok (i.override c)
    | .error e => .error (.within s!"failed to load configuration from {name}" e)

def perform {α : Type} (s : Surroundings π) (c : Config) (p : Program α) : Except Error α :=
  match c.provider with
  | .memory => (p.run (Memory.transport s.ids) {}).1
  | .neutron => (p.run (Rest.transport c.neutron s.peer s.ids) { peer := s.start }).1

def result (s : Surroundings π) (i : Invocation) : Except Failure Json := do
  let c ← i.load s
  c.validate.mapError (.within "failed to build redirection API")
  (perform s c (i.command.program c.hookTagKey)).mapError .ofError

end Invocation

def run (s : Surroundings π) (env : Invocation.Environment) (args : List String) : Outcome :=
  match Invocation.parse env args with
  | none => .refused
  | some i => .ofResult (i.result s)

end TrafficSteering.CommandLine
