import TrafficSteering.Yaml.Node

namespace TrafficSteering.Yaml

open Node

variable {α : Type} (d : Document)

def asText (node : Node) : Except Fault String :=
  match d.follow node with
  | scalar _ text _ => .ok text
  | _ => .error (.unexpected "a string")

/-- The known fields that are given; no field may be given twice. -/
def fieldsOf (known : List String) : List (Node × Node) → Except Fault (List (String × Node))
  | [] => .ok []
  | (key, value) :: rest => do
    let name ← asText d key
    let more ← fieldsOf known rest
    if !known.contains name then return more
    else if (more.lookup name).isSome then .error (.duplicate name)
    else return (name, value) :: more

/-- A record; nothing at all stands for a record without fields. -/
def record (known : List String) (node : Node) : Except Fault (List (String × Node)) :=
  match d.follow node with
  | map _ entries => fieldsOf d known entries
  | scalar _ "" .plain => .ok []
  | _ => .error (.unexpected "a mapping")

def isNull (text : String) : Bool := ["null", "Null", "NULL", "~"].contains text

def asOption (read : Node → Except Fault α) (node : Node) : Except Fault (Option α) :=
  match d.follow node with
  | scalar props text .plain =>
    if props.tag = some Tag.null then
      if isNull text then .ok none else .error (.unexpected "null")
    else if props.tag = none ∧ (text = "" ∨ isNull text) then .ok none
    else some <$> read node
  | _ => some <$> read node

def digits? (base : Nat) (cs : List Char) : Option Nat :=
  if cs.isEmpty then none else Text.number? base (fun c ↦ (Text.hexDigit? c).filter (· < base)) 0 cs

/-- An unsigned integer: decimal without leading zeros, or with the mark of another base. -/
def number? (text : String) : Option Nat :=
  let cs := match text.toList with
    | '+' :: rest => rest
    | cs => cs
  match cs with
  | ['0'] => some 0
  | '0' :: 'x' :: rest => digits? 16 rest
  | '0' :: 'o' :: rest => digits? 8 rest
  | '0' :: 'b' :: rest => digits? 2 rest
  | '0' :: _ => none
  | cs => digits? 10 cs

def asWord (node : Node) : Except Fault UInt64 :=
  match d.follow node with
  | scalar props text style =>
    if style = .plain ∨ (style = .literal ∧ props.tag = some Tag.int) then
      match number? text with
      | some n =>
        if n < UInt64.size then .ok (UInt64.ofNat n) else .error (.unexpected "an unsigned integer")
      | none => .error (.unexpected "an unsigned integer")
    else .error (.unexpected "an unsigned integer")
  | _ => .error (.unexpected "an unsigned integer")

def nameOf (table : List (String × α)) (name : String) : Except Fault α :=
  match table.lookup name with
  | some a => .ok a
  | none => .error (.unknownName name)

def ownTag (node : Node) : Option String :=
  match node.tag with
  | some (0x21 :: rest) => Text.ofUtf8? rest
  | _ => none

/-- One of a list of names: written as a scalar, or as the tag of nothing. -/
def asName (table : List (String × α)) (node : Node) : Except Fault α :=
  let node := d.follow node
  match ownTag node, node with
  | some name, scalar _ text style =>
    if style = .plain ∧ (text = "" ∨ isNull text) then nameOf table name
    else .error (.unexpected "nothing")
  | none, scalar _ text _ => nameOf table text
  | _, _ => .error (.unexpected "a name")

def withDefault (fields : List (String × Node)) (name : String) (read : Node → Except Fault α)
    (fallback : α) : Except Fault α :=
  match fields.lookup name with
  | none => .ok fallback
  | some node => read node

end TrafficSteering.Yaml
