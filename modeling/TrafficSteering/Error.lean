import TrafficSteering.Json.Fault
import TrafficSteering.Yaml.Fault

namespace TrafficSteering

inductive Operation where
  | create
  | get
  | list
  | update
  | delete
deriving DecidableEq, Inhabited, Repr

def Operation.displayName : Operation → String
  | create => "Create"
  | get => "Get"
  | list => "List"
  | update => "Update"
  | delete => "Delete"

/-- A call without an answer of use. The status is none where no response came at all. -/
structure TransportError where
  status : Option Nat
  message : String
deriving DecidableEq, Inhabited

structure ActionResponse where
  code : Nat
  fault : Option String := none
deriving DecidableEq, Inhabited

namespace ActionResponse

def success : ActionResponse := { code := 204 }

def failure (code : Nat) (fault : String) : ActionResponse := { code, fault := some fault }

def isSuccess (r : ActionResponse) : Bool := 200 ≤ r.code && r.code < 300

def isNotFound (r : ActionResponse) : Bool := r.code == 404

end ActionResponse

inductive Error where
  | invalidArgument (name : String)
  | notFound (kind id : String)
  | conflict (text : String)
  | unsupported (text : String)
  | callFailure (operation : Operation) (kind : String) (status : Option Nat) (reason : String)
  | nullResult (operation : Operation) (kind : String)
  | partialApply (step : String) (source : Error)
  | configuration (text : String)
  | internal (text : String)
  | httpClient (text : String)
  | json (fault : Json.Fault)
  | yaml (fault : Yaml.Fault)
  | io (text : String)
deriving DecidableEq, Inhabited

inductive ErrorKind where
  | invalidArgument
  | notFound
  | conflict
  | callFailure
  | unsupported
  | configuration
  | internal
deriving DecidableEq, Inhabited

namespace Error

def statusText : Option Nat → String
  | none => "n/a"
  | some status => toString status

def message : Error → String
  | invalidArgument name => s!"null passed for {name} !"
  | notFound kind id => s!"Cannot find {kind} by id: {id}!"
  | conflict text => text
  | unsupported text => text
  | callFailure operation kind status reason =>
    operation.displayName ++ s!" {kind} failed! Status " ++ statusText status ++ s!": {reason}"
  | nullResult operation kind =>
    operation.displayName ++ s!" {kind} failed! SDN Controller returned null {kind}!"
  | partialApply step source =>
    s!"Step '{step}' failed after earlier changes were applied: " ++ source.message
  | configuration text => "Configuration error: " ++ text
  | internal text => "Internal error: " ++ text
  | httpClient text => "HTTP client error: " ++ text
  | json fault => "JSON parse error: " ++ fault.message
  | yaml fault => "YAML parse error: " ++ fault.message
  | io text => "IO error: " ++ text

def kind : Error → ErrorKind
  | invalidArgument _ => .invalidArgument
  | notFound _ _ => .notFound
  | conflict _ => .conflict
  | unsupported _ => .unsupported
  | callFailure _ _ _ _ | nullResult _ _ | httpClient _ => .callFailure
  | partialApply _ source => source.kind
  | configuration _ | yaml _ => .configuration
  | internal _ | json _ | io _ => .internal

/-- Advice to the caller: the same operation may succeed when it is started again. -/
def isRetryable : Error → Bool
  | callFailure _ _ none _ => true
  | callFailure _ _ (some status) _ => status == 409 || 500 ≤ status
  | httpClient _ => true
  | partialApply _ source => source.isRetryable
  | _ => false

def causes : Error → List String
  | partialApply _ source => source.message :: source.causes
  | httpClient text => [text]
  | json fault => [fault.message]
  | yaml fault => [fault.message]
  | io text => [text]
  | _ => []

end Error

end TrafficSteering
