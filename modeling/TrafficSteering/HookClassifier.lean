import TrafficSteering.Element
import TrafficSteering.Net.Address
import TrafficSteering.Program
import TrafficSteering.Resource.FlowClassifier

namespace TrafficSteering.HookClassifier

open Net

def firstAddress (texts : List String) : Option Address := texts.findSome? Address.parse?

def ethertype : Option Address → String
  | some (.v6 _) => "IPv6"
  | _ => "IPv4"

def hostNetwork : Address → String
  | .v4 x => (Address.v4 x).toText ++ "/32"
  | .v6 x => (Address.v6 x).toText ++ "/128"

def shortId (id : String) : String :=
  String.ofList ((id.toList.filter (· ≠ '-')).take 8)

def withoutPorts (chainId : String) : Error :=
  .conflict s!"Service Function Chain {chainId} has no inspection ports"

def between (source destination : String) (port : Port) (fallback : List String) (id : String) :
    FlowClassifier :=
  let address := firstAddress (port.addresses ++ fallback)
  { name := some ("sfc-hook-" ++ shortId id)
    description := some ("Inspection hook for port " ++ port.id.getD "")
    ethertype := some (ethertype address)
    destinationIpPrefix := address.map hostNetwork
    logicalSourcePort := some source
    logicalDestinationPort := some destination }

/-- The classifier for a chain and an inspected port; the port's own addresses come before the
others. -/
def build (chain : ServiceFunctionChain) (port : Port) (fallback : List String) :
    Program FlowClassifier := do
  match chain.firstIngress.bind (·.elementId), chain.lastEgress.bind (·.elementId) with
  | some source, some destination =>
    let id ← Program.freshId
    return between source destination port fallback id
  | _, _ => .fail (withoutPorts (chain.elementId.getD ""))

end TrafficSteering.HookClassifier
