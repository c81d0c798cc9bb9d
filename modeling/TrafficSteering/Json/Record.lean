import TrafficSteering.Json.Basic
import TrafficSteering.Json.Fault

namespace TrafficSteering.Json

def record (fields : List String) : Json → Except Fault (List (String × Json))
  | .obj members => .ok members
  | .arr items =>
    if items.length ≤ fields.length then .ok (fields.zip items) else .error (.surplus fields.length)
  | _ => .error (.unexpected "a record")

/-- The members of a record; the array form is to hold every field. -/
def fullRecord (fields : List String) : Json → Except Fault (List (String × Json))
  | .obj members => .ok members
  | .arr items =>
    if items.length = fields.length then .ok (fields.zip items)
    else .error (.surplus fields.length)
  | _ => .error (.unexpected "a record")

def asText : Json → Except Fault String
  | .str text => .ok text
  | _ => .error (.unexpected "a string")

def asWord : Json → Except Fault UInt64
  | .int value =>
    if 0 ≤ value ∧ value < UInt64.size then .ok (UInt64.ofNat value.toNat)
    else .error (.unexpected "an unsigned integer")
  | _ => .error (.unexpected "an unsigned integer")

def asObject : Json → Except Fault Object
  | .obj members => .ok (Dict.ofList members)
  | _ => .error (.unexpected "a map")

def asList {α : Type} (read : Json → Except Fault α) : Json → Except Fault (List α)
  | .arr items => items.mapM read
  | _ => .error (.unexpected "a sequence")

def asOption {α : Type} (read : Json → Except Fault α) : Json → Except Fault (Option α)
  | .null => .ok none
  | value => some <$> read value

section

variable {α : Type} (members : List (String × Json)) (name : String)
  (read : Json → Except Fault α)

def required : Except Fault α :=
  match members.lookup name with
  | none => .error (.missing name)
  | some value => read value

def withDefault (fallback : α) : Except Fault α :=
  match members.lookup name with
  | none => .ok fallback
  | some value => read value

def optional : Except Fault (Option α) := withDefault members name (asOption read) none

def listOrEmpty : Except Fault (List α) := do
  return (← optional members name (asList read)).getD []

end

/-- One of a list of names: written plainly, or as an object with that only key and null. -/
def asName {α : Type} (table : List (String × α)) (value : Json) : Except Fault α := do
  let name ← match value with
    | .str name => .ok name
    | .obj [(name, .null)] => .ok name
    | _ => .error (.unexpected "a name")
  match table.lookup name with
  | some a => .ok a
  | none => .error (.unknownName name)

end TrafficSteering.Json
