import TrafficSteering.HookClassifier
import TrafficSteering.Proofs.Net.Addresses

namespace TrafficSteering

open Net

variable {chain : ServiceFunctionChain} {texts : List String} {a : Address} {id : String}

namespace ServiceFunctionChain

def EntersAt (chain : ServiceFunctionChain) (id : String) : Prop :=
  ∃ group groups port ports element,
    chain.portPairGroups = group :: groups ∧ group.inspectionPorts = port :: ports ∧
      port.ingressPort = some element ∧ element.elementId = some id

def LeavesAt (chain : ServiceFunctionChain) (id : String) : Prop :=
  ∃ groups group ports port element,
    chain.portPairGroups = groups ++ [group] ∧ group.inspectionPorts = ports ++ [port] ∧
      port.egressPort = some element ∧ element.elementId = some id

theorem firstIngress_eq_some_iff :
    chain.firstIngress.bind (·.elementId) = some id ↔ chain.EntersAt id := by
  constructor
  · intro h
    obtain ⟨element, hfirst, hid⟩ := Option.bind_eq_some_iff.1 h
    obtain ⟨group, hgroup, hrest⟩ := Option.bind_eq_some_iff.1 hfirst
    obtain ⟨port, hport, helement⟩ := Option.bind_eq_some_iff.1 hrest
    obtain ⟨groups, hgroups⟩ := List.head?_eq_some_iff.1 hgroup
    obtain ⟨ports, hports⟩ := List.head?_eq_some_iff.1 hport
    exact ⟨group, groups, port, ports, element, hgroups, hports, helement, hid⟩
  · rintro ⟨group, groups, port, ports, element, hgroups, hports, helement, hid⟩
    simp [firstIngress, hgroups, hports, helement, hid]

theorem lastEgress_eq_some_iff :
    chain.lastEgress.bind (·.elementId) = some id ↔ chain.LeavesAt id := by
  constructor
  · intro h
    obtain ⟨element, hlast, hid⟩ := Option.bind_eq_some_iff.1 h
    obtain ⟨group, hgroup, hrest⟩ := Option.bind_eq_some_iff.1 hlast
    obtain ⟨port, hport, helement⟩ := Option.bind_eq_some_iff.1 hrest
    obtain ⟨groups, hgroups⟩ := List.getLast?_eq_some_iff.1 hgroup
    obtain ⟨ports, hports⟩ := List.getLast?_eq_some_iff.1 hport
    exact ⟨groups, group, ports, port, element, hgroups, hports, helement, hid⟩
  · rintro ⟨groups, group, ports, port, element, hgroups, hports, helement, hid⟩
    simp [lastEgress, hgroups, hports, helement, hid]

end ServiceFunctionChain

namespace Net.Address

def family : Address → String
  | v4 _ => "IPv4"
  | v6 _ => "IPv6"

def mask : Address → String
  | v4 _ => "/32"
  | v6 _ => "/128"

end Net.Address

namespace HookClassifier

def Targets (texts : List String) (a : Address) : Prop :=
  ∃ before text after, texts = before ++ text :: after ∧ Address.parse? text = some a ∧
    ∀ other ∈ before, Address.parse? other = none

theorem firstAddress_eq_some_iff : firstAddress texts = some a ↔ Targets texts a := by
  rw [firstAddress, List.findSome?_eq_some_iff]
  rfl

theorem firstAddress_eq_none_iff :
    firstAddress texts = none ↔ ∀ text ∈ texts, Address.parse? text = none :=
  List.findSome?_eq_none_iff

theorem ethertype_some (a : Address) : ethertype (some a) = a.family := by
  cases a <;> rfl

theorem hostNetwork_eq (a : Address) : hostNetwork a = a.toText ++ a.mask := by
  cases a <;> rfl

theorem takeWhile_hostNetwork (a : Address) :
    String.ofList ((hostNetwork a).toList.takeWhile (· ≠ '/')) = a.toText := by
  have hslash (c : Char) (hc : c ∈ a.toText.toList) : decide (c ≠ '/') = true :=
    decide_eq_true fun h ↦ a.slash_notMem_toText (h ▸ hc)
  have hmask : a.mask.toList.takeWhile (· ≠ '/') = [] := by
    cases a <;> simp [Address.mask]
  rw [hostNetwork_eq, String.toList_append, List.takeWhile_append_of_pos hslash, hmask,
    List.append_nil, String.ofList_toList]

/-- A classifier that leads traffic from one element to another: what is bound for the first
address of the texts, and all traffic where there is none. -/
structure Steers (c : FlowClassifier) (source destination : String) (texts : List String) :
    Prop where
  source : c.logicalSourcePort = some source
  destination : c.logicalDestinationPort = some destination
  unaddressed : (∀ text ∈ texts, Address.parse? text = none) →
    c.destinationIpPrefix = none ∧ c.ethertype = some "IPv4"
  addressed {a : Address} : Targets texts a →
    c.ethertype = some a.family ∧
      c.destinationIpPrefix = some (a.toText ++ a.mask) ∧
      c.destinationAddress.bind Address.parse? = some a

theorem steers_between (source destination : String) (port : Port) (fallback : List String)
    (id : String) :
    Steers (between source destination port fallback id) source destination
      (port.addresses ++ fallback) where
  source := rfl
  destination := rfl
  unaddressed h := by
    rw [between, firstAddress_eq_none_iff.2 h]
    exact ⟨rfl, rfl⟩
  addressed {a} h := by
    rw [between, firstAddress_eq_some_iff.2 h]
    refine ⟨congrArg some (ethertype_some a), congrArg some (hostNetwork_eq a), ?_⟩
    rw [FlowClassifier.destinationAddress, Option.map_some, Option.map_some,
      takeWhile_hostNetwork, Option.bind_some, Address.parse?_toText]

theorem build_unended (port : Port) (fallback : List String)
    (h : (∀ id, ¬ chain.EntersAt id) ∨ ∀ id, ¬ chain.LeavesAt id) :
    build chain port fallback = .fail (withoutPorts (chain.elementId.getD "")) := by
  rw [build]
  split
  · rename_i source destination hsource hdestination
    obtain hnone | hnone := h
    · exact absurd (ServiceFunctionChain.firstIngress_eq_some_iff.1 hsource) (hnone source)
    · exact absurd (ServiceFunctionChain.lastEgress_eq_some_iff.1 hdestination) (hnone destination)
  · rfl

theorem build_ended {source destination : String} (port : Port) (fallback : List String)
    (hsource : chain.EntersAt source) (hdestination : chain.LeavesAt destination) :
    build chain port fallback =
      .draw fun id ↦ .done (between source destination port fallback id) := by
  rw [build, ServiceFunctionChain.firstIngress_eq_some_iff.2 hsource,
    ServiceFunctionChain.lastEgress_eq_some_iff.2 hdestination]
  rfl

theorem build_cases (chain : ServiceFunctionChain) (port : Port) (fallback : List String) :
    (∃ e, build chain port fallback = .fail e) ∨
      ∃ classifier : String → FlowClassifier,
        build chain port fallback = .draw fun id ↦ .done (classifier id) := by
  by_cases h : (∃ id, chain.EntersAt id) ∧ ∃ id, chain.LeavesAt id
  · obtain ⟨⟨source, hsource⟩, destination, hdestination⟩ := h
    exact .inr ⟨_, build_ended port fallback hsource hdestination⟩
  · rw [not_and_or, not_exists, not_exists] at h
    exact .inl ⟨_, build_unended port fallback h⟩

/-- Where traffic has no way in or no way out there is a conflict, before an id is drawn; else one
id is drawn, and whichever it is, the classifier steers from the one end to the other. -/
theorem build_exact (chain : ServiceFunctionChain) (port : Port) (fallback : List String) :
    (build chain port fallback = .fail (.conflict ("Service Function Chain " ++
        chain.elementId.getD "" ++ " has no inspection ports")) ↔
      (∀ id, ¬ chain.EntersAt id) ∨ ∀ id, ¬ chain.LeavesAt id) ∧
    ∀ source destination, chain.EntersAt source → chain.LeavesAt destination →
      ∃ classifier : String → FlowClassifier,
        build chain port fallback = .draw (fun id ↦ .done (classifier id)) ∧
          ∀ id, Steers (classifier id) source destination (port.addresses ++ fallback) := by
  constructor
  · refine ⟨fun hfail ↦ ?_, build_unended port fallback⟩
    by_contra! hends
    obtain ⟨⟨source, hsource⟩, destination, hdestination⟩ := hends
    rw [build_ended port fallback hsource hdestination] at hfail
    cases hfail
  · intro source destination hsource hdestination
    exact ⟨_, build_ended port fallback hsource hdestination,
      steers_between source destination port fallback⟩

def Sample.twoStages : ServiceFunctionChain where
  portPairGroups := [
    { inspectionPorts := [.between (.withId "in") (.withId "middle")] },
    { inspectionPorts := [.between (.withId "spare") (.withId "spare"),
        .between (.withId "middle") (.withId "out")] }]

/-- The first of the texts is no address; the second is, though not in its canonical form. -/
theorem sample_mapped_steered :
    Sample.twoStages.EntersAt "in" ∧ Sample.twoStages.LeavesAt "out" ∧
      Targets ["any", "::FFFF:A00:5", "10.0.0.7"] (.v6 ⟨[0, 0, 0, 0, 0, 0xFFFF, 0xA00, 5], rfl⟩) ∧
      ∃ classifier : String → FlowClassifier,
        build Sample.twoStages
            { fixedIps := [{ ipAddress := "any" }, { ipAddress := "::FFFF:A00:5" }] }
            ["10.0.0.7"] = .draw (fun id ↦ .done (classifier id)) ∧
          ∀ id, (classifier id).logicalSourcePort = some "in" ∧
            (classifier id).logicalDestinationPort = some "out" ∧
            (classifier id).ethertype = some "IPv6" ∧
            (classifier id).destinationIpPrefix = some "::ffff:10.0.0.5/128" := by
  have hsource : Sample.twoStages.EntersAt "in" := ⟨_, _, _, _, _, rfl, rfl, rfl, rfl⟩
  have hdestination : Sample.twoStages.LeavesAt "out" :=
    ⟨[_], _, [_], _, _, rfl, rfl, rfl, rfl⟩
  have htargets : Targets ["any", "::FFFF:A00:5", "10.0.0.7"]
      (.v6 ⟨[0, 0, 0, 0, 0, 0xFFFF, 0xA00, 5], rfl⟩) :=
    ⟨["any"], "::FFFF:A00:5", ["10.0.0.7"], rfl, by decide, by decide⟩
  obtain ⟨classifier, hbuild, hsteers⟩ := (build_exact Sample.twoStages
    { fixedIps := [{ ipAddress := "any" }, { ipAddress := "::FFFF:A00:5" }] } ["10.0.0.7"]).2
      "in" "out" hsource hdestination
  refine ⟨hsource, hdestination, htargets, classifier, hbuild, fun id ↦ ?_⟩
  have h := hsteers id
  obtain ⟨hfamily, hnetwork, -⟩ := h.addressed htargets
  exact ⟨h.source, h.destination, hfamily, hnetwork.trans (by decide)⟩

end HookClassifier

end TrafficSteering
