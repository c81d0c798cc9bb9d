import TrafficSteering.Json.Printer
import TrafficSteering.Program
import TrafficSteering.Resource.Basic

namespace TrafficSteering

open Json

/-- Objects under their ids, in the order in which they were inserted. -/
abbrev Collection := List (String × Object)

namespace Collection

def get? (c : Collection) (id : String) : Option Object := List.lookup id c

def insert (c : Collection) (id : String) (value : Object) : Collection :=
  match c with
  | [] => [(id, value)]
  | e :: rest => if e.1 = id then (id, value) :: rest else e :: insert rest id value

def erase (c : Collection) (id : String) : Collection :=
  match c with
  | [] => []
  | e :: rest => if e.1 = id then rest else e :: erase rest id

def values (c : Collection) : List Object := c.map Prod.snd

end Collection

structure Collections where
  ports : Collection := []
  portPairs : Collection := []
  portPairGroups : Collection := []
  portChains : Collection := []
  flowClassifiers : Collection := []
deriving DecidableEq, Inhabited

namespace Collections

def get (cs : Collections) : Kind → Collection
  | .port => cs.ports
  | .portPair => cs.portPairs
  | .portPairGroup => cs.portPairGroups
  | .portChain => cs.portChains
  | .flowClassifier => cs.flowClassifiers

def set (cs : Collections) (kind : Kind) (c : Collection) : Collections :=
  match kind with
  | .port => { cs with ports := c }
  | .portPair => { cs with portPairs := c }
  | .portPairGroup => { cs with portPairGroups := c }
  | .portChain => { cs with portChains := c }
  | .flowClassifier => { cs with flowClassifiers := c }

@[simp] theorem get_set (cs : Collections) (kind k : Kind) (c : Collection) :
    (cs.set kind c).get k = if k = kind then c else cs.get k := by
  cases kind <;> cases k <;> rfl

end Collections

/-- The call after `skip` others of its kind and operation fails. -/
structure Failure where
  kind : Kind
  operation : Operation
  skip : Nat := 0
  status : Option Nat
deriving DecidableEq, Inhabited

namespace Failure

/-- The entry that makes a call fail, and the schedule from then on. Only the first entry for the
call's kind and operation counts down. -/
def take (kind : Kind) (operation : Operation) : List Failure → Option Failure × List Failure
  | [] => (none, [])
  | f :: rest =>
    if f.kind = kind ∧ f.operation = operation then
      match f.skip with
      | 0 => (some f, rest)
      | skip + 1 => (none, { f with skip } :: rest)
    else
      let (hit, rest) := take kind operation rest
      (hit, f :: rest)

def text (kind : Kind) (operation : Operation) : String :=
  "injected " ++ operation.displayName ++ " " ++ kind.displayName ++ " failure"

end Failure

/-- A network service in memory. What another resource refers to cannot be deleted, and failures of
calls can be scheduled. -/
structure Memory where
  collections : Collections := {}
  failures : List Failure := []
  nextChain : UInt64 := 1
  project : String := "memory-project"
  drawn : Nat := 0
deriving DecidableEq, Inhabited

namespace Memory

def filterAddress? (term : String) : Option String :=
  let mark := "ip_address=".toList
  if mark.isPrefixOf term.toList then some (String.ofList (term.toList.drop mark.length)) else none

def hasAddress (value : Object) (address : String) : Bool :=
  match value.get? "fixed_ips" with
  | some (.arr ips) => ips.any fun ip ↦ (ip.get? "ip_address").bind Json.text? == some address
  | _ => false

def agrees (value : Object) (term : String × String) : Bool :=
  if term.1 = "fixed_ips" then
    match filterAddress? term.2 with
    | some address => hasAddress value address
    | none => false
  else (value.get? term.1).bind Json.text? == some term.2

def satisfies (value : Object) (query : Query) : Bool := query.all (agrees value)

/-- Where the resources of a kind are referred to. -/
def owner? : Kind → Option (Kind × String)
  | .portPair => some (.portPairGroup, "port_pairs")
  | .portPairGroup => some (.portChain, "port_pair_groups")
  | .flowClassifier => some (.portChain, "flow_classifiers")
  | .port | .portChain => none

def refersTo (field id : String) (value : Object) : Bool :=
  match value.get? field with
  | some (.arr refs) => refs.any fun r ↦ r.text? == some id
  | _ => false

def referrer? (cs : Collections) (kind : Kind) (id : String) : Option (Kind × String) := do
  let (owner, field) ← owner? kind
  let e ← (cs.get owner).find? fun e ↦ refersTo field id e.2
  return (owner, e.1)

def notAnObject (kind : Kind) (body : Json) : TransportError :=
  { status := some 400
    message := s!"Invalid {kind.displayName} body: expected object, got " ++ body.compact }

def absentText (kind : Kind) (id : String) : String :=
  s!"{kind.displayName} {id} could not be found."

def inUseText (kind : Kind) (id : String) (owner : Kind × String) : String :=
  s!"{kind.displayName} {id} is in use by {owner.1.displayName} {owner.2}."

def completed (kind : Kind) (chain : UInt64) (value : Object) : Object :=
  match kind with
  | .portPairGroup =>
    (value.insertNew "port_pairs" (.arr [])).insert "port_pair_group_parameters"
      (.obj [("lb_fields", .arr [])])
  | .portChain =>
    let value :=
      (value.insertNew "port_pair_groups" (.arr [])).insertNew "flow_classifiers" (.arr [])
    (value.insert "chain_id" (.int chain.toNat)).insert "chain_parameters"
      (.obj [("correlation", .str "mpls")])
  | _ => value

variable (ids : Nat → String)

def draw (m : Memory) : String × Memory := (ids (m.drawn + 1), { m with drawn := m.drawn + 1 })

def takeFailure (m : Memory) (kind : Kind) (operation : Operation) : Option Failure × Memory :=
  let (hit, failures) := Failure.take kind operation m.failures
  (hit, { m with failures })

def failed (kind : Kind) (operation : Operation) (f : Failure) : TransportError :=
  { status := f.status, message := Failure.text kind operation }

def store (m : Memory) (kind : Kind) (id : String) (value : Object) : Memory :=
  { m with collections := m.collections.set kind ((m.collections.get kind).insert id value) }

def create (kind : Kind) (body : Json) (m : Memory) :
    Except TransportError (Option Json) × Memory :=
  match m.takeFailure kind .create with
  | (some f, m) => (.error (failed kind .create f), m)
  | (none, m) =>
    match body.object? with
    | none => (.error (notAnObject kind body), m)
    | some value =>
      -- the id is the service's own, whatever the body says
      let (id, m) := m.draw ids
      let value := ((value.insert "id" (.str id)).insert "project_id" (.str m.project)).insert
        "tenant_id" (.str m.project)
      let value := completed kind m.nextChain value
      let nextChain := if kind = .portChain then m.nextChain + 1 else m.nextChain
      (.ok (some (ofObject value)), { m.store kind id value with nextChain })

def get (kind : Kind) (id : String) (m : Memory) : Except TransportError (Option Json) × Memory :=
  match m.takeFailure kind .get with
  | (some f, m) => (.error (failed kind .get f), m)
  | (none, m) => (.ok (((m.collections.get kind).get? id).map ofObject), m)

def list (kind : Kind) (query : Query) (m : Memory) :
    Except TransportError (List Json) × Memory :=
  match m.takeFailure kind .list with
  | (some f, m) => (.error (failed kind .list f), m)
  | (none, m) =>
    (.ok (((m.collections.get kind).values.filter (satisfies · query)).map ofObject), m)

/-- Sets every field of the change but the id. -/
def amended (value change : Object) : Object := value.insertAll (change.erase "id").entries

def update (kind : Kind) (id : String) (body : Json) (m : Memory) :
    Except TransportError (Option Json) × Memory :=
  match m.takeFailure kind .update with
  | (some f, m) => (.error (failed kind .update f), m)
  | (none, m) =>
    match body.object?, (m.collections.get kind).get? id with
    | none, _ => (.error (notAnObject kind body), m)
    | some _, none => (.error { status := some 404, message := absentText kind id }, m)
    | some change, some value =>
      let value := amended value change
      (.ok (some (ofObject value)), m.store kind id value)

def delete (kind : Kind) (id : String) (m : Memory) :
    Except TransportError ActionResponse × Memory :=
  match m.takeFailure kind .delete with
  | (some f, m) =>
    match f.status with
    -- an injected status is answered, not reported as an error of the call
    | some code => (.ok (.failure code (Failure.text kind .delete)), m)
    | none => (.error (failed kind .delete f), m)
  | (none, m) =>
    match referrer? m.collections kind id, (m.collections.get kind).get? id with
    | some owner, _ => (.ok (.failure 409 (inUseText kind id owner)), m)
    | none, none => (.ok (.failure 404 (absentText kind id)), m)
    | none, some _ =>
      let collection := (m.collections.get kind).erase id
      (.ok .success, { m with collections := m.collections.set kind collection })

def reply : (call : Call) → Memory → call.Reply × Memory
  | .create kind body, m => create ids kind body m
  | .get kind id, m => get kind id m
  | .list kind query, m => list kind query m
  | .update kind id body, m => update kind id body m
  | .delete kind id, m => delete kind id m

def transport : Transport Memory where
  name := "memory"
  reply := reply ids
  draw := draw ids

/-- Stores a port as it is, under its own id if it has one. -/
def seedPort (port : Port) (m : Memory) : String × Memory :=
  let (id, m) := match port.id with
    | some id => (id, m)
    | none => m.draw ids
  (id, m.store .port id (port.encode.insert "id" (.str id)))

def failAfter (f : Failure) (m : Memory) : Memory := { m with failures := m.failures ++ [f] }

def count (m : Memory) (kind : Kind) : Nat := (m.collections.get kind).length

def snapshot (m : Memory) (kind : Kind) : List Json := (m.collections.get kind).values.map ofObject

end Memory

end TrafficSteering
