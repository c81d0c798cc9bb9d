namespace TrafficSteering

/-- The resources that the network service keeps. -/
inductive Kind where
  | port
  | portPair
  | portPairGroup
  | portChain
  | flowClassifier
deriving DecidableEq, Inhabited, Repr

namespace Kind

def all : List Kind := [port, portPair, portPairGroup, portChain, flowClassifier]

def displayName : Kind → String
  | port => "Port"
  | portPair => "Port Pair"
  | portPairGroup => "Port Pair Group"
  | portChain => "Port Chain"
  | flowClassifier => "Flow Classifier"

def singularKey : Kind → String
  | port => "port"
  | portPair => "port_pair"
  | portPairGroup => "port_pair_group"
  | portChain => "port_chain"
  | flowClassifier => "flow_classifier"

def collectionKey : Kind → String
  | port => "ports"
  | portPair => "port_pairs"
  | portPairGroup => "port_pair_groups"
  | portChain => "port_chains"
  | flowClassifier => "flow_classifiers"

def collectionPath : Kind → String
  | port => "/v2.0/ports"
  | portPair => "/v2.0/sfc/port_pairs"
  | portPairGroup => "/v2.0/sfc/port_pair_groups"
  | portChain => "/v2.0/sfc/port_chains"
  | flowClassifier => "/v2.0/sfc/flow_classifiers"

end Kind

end TrafficSteering
