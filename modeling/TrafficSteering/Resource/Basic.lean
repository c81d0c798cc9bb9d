import TrafficSteering.Resource.Kind
import TrafficSteering.Resource.Port
import TrafficSteering.Resource.PortPair
import TrafficSteering.Resource.PortChain
import TrafficSteering.Resource.FlowClassifier

namespace TrafficSteering.Kind

abbrev Resource : Kind → Type
  | port => Port
  | portPair => PortPair
  | portPairGroup => PortPairGroup
  | portChain => PortChain
  | flowClassifier => FlowClassifier

def encode : (kind : Kind) → kind.Resource → Json.Object
  | port => Port.encode
  | portPair => PortPair.encode
  | portPairGroup => PortPairGroup.encode
  | portChain => PortChain.encode
  | flowClassifier => FlowClassifier.encode

def decode : (kind : Kind) → Json → Except Json.Fault kind.Resource
  | port => Port.decode
  | portPair => PortPair.decode
  | portPairGroup => PortPairGroup.decode
  | portChain => PortChain.decode
  | flowClassifier => FlowClassifier.decode

def idOf : (kind : Kind) → kind.Resource → Option String
  | port => Port.id
  | portPair => PortPair.id
  | portPairGroup => PortPairGroup.id
  | portChain => PortChain.id
  | flowClassifier => FlowClassifier.id

def clearServerFields : (kind : Kind) → kind.Resource → kind.Resource
  | port => Port.clearServerFields
  | portPair => PortPair.clearServerFields
  | portPairGroup => PortPairGroup.clearServerFields
  | portChain => PortChain.clearServerFields
  | flowClassifier => FlowClassifier.clearServerFields

end TrafficSteering.Kind
