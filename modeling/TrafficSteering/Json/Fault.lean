namespace TrafficSteering.Json

inductive Fault where
  | malformed
  | tooDeep
  | outOfRange
  | unexpected (wanted : String)
  | missing (field : String)
  | surplus (fields : Nat)
  | unknownName (name : String)
deriving DecidableEq, Inhabited

def Fault.message : Fault → String
  | .malformed => "malformed JSON text"
  | .tooDeep => "recursion limit exceeded"
  | .outOfRange => "number out of range"
  | .unexpected wanted => s!"invalid type, expected {wanted}"
  | .missing field => s!"missing field {field}"
  | .surplus fields => s!"invalid length, expected {fields} elements"
  | .unknownName name => s!"unknown variant {name}"

end TrafficSteering.Json
