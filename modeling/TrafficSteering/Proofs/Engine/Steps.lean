import Mathlib.Logic.Relation
import TrafficSteering.Proofs.Engine.Lookups

namespace TrafficSteering

open HookTag

variable {key : String} {ids : Nat → String}

/-- A change of pairs, groups or chains; ports and flow classifiers stay as they are. -/
inductive ChainStep (ids : Nat → String) : Service → Service → Prop
  | addPair {s : Service} (r : PortPair)
      (hends : ∀ p ∈ s.portPairs, (p.ingress, p.egress) ≠ (r.ingress, r.egress)) :
      ChainStep ids s (s.add ids .portPair r)
  | addGroup {s : Service} {id : String} (r : PortPairGroup) (hpairs : r.portPairs = [id])
      (hstored : s.Stores .portPair id) (hfree : s.Free id .portPair) :
      ChainStep ids s (s.add ids .portPairGroup r)
  | join {s : Service} {l₁ l₂ : List PortPairGroup} {g : PortPairGroup} {id : String}
      (h : s.portPairGroups = l₁ ++ g :: l₂) (hstored : s.Stores .portPair id)
      (hfree : s.Free id .portPair) :
      ChainStep ids s
        (s.put .portPairGroup (l₁ ++ { g with portPairs := g.portPairs ++ [id] } :: l₂))
  | leave {s : Service} {l₁ l₂ : List PortPairGroup} {g : PortPairGroup} {id : String}
      (h : s.portPairGroups = l₁ ++ g :: l₂) (hleft : g.portPairs.filter (· ≠ id) ≠ []) :
      ChainStep ids s (s.put .portPairGroup
        (l₁ ++ { g with portPairs := g.portPairs.filter (· ≠ id) } :: l₂))
  | addChain {s : Service} (r : PortChain) (hgroups : s.Chainable r.portPairGroups none)
      (hhooks : r.flowClassifiers = []) : ChainStep ids s (s.add ids .portChain r)
  | regroup {s : Service} {l₁ l₂ : List PortChain} {c : PortChain} {groupIds : List String}
      (h : s.portChains = l₁ ++ c :: l₂) (hgroups : s.Chainable groupIds c.id) :
      ChainStep ids s (s.put .portChain (l₁ ++ { c with portPairGroups := groupIds } :: l₂))
  | attach {s : Service} {l₁ l₂ : List PortChain} {c : PortChain} {hookId : String}
      (h : s.portChains = l₁ ++ c :: l₂) (hstored : s.Stores .flowClassifier hookId)
      (hfree : s.Free hookId .flowClassifier) :
      ChainStep ids s (s.put .portChain
        (l₁ ++ { c with flowClassifiers := c.flowClassifiers ++ [hookId] } :: l₂))
  | detach {s : Service} {l₁ l₂ : List PortChain} {c : PortChain} (hookId : String)
      (h : s.portChains = l₁ ++ c :: l₂) :
      ChainStep ids s (s.put .portChain
        (l₁ ++ { c with flowClassifiers := c.flowClassifiers.filter (· ≠ hookId) } :: l₂))
  | drop {s : Service} {kind : Kind} {l₁ l₂ : List kind.Resource} {r : kind.Resource}
      (hport : kind ≠ .port) (hhook : kind ≠ .flowClassifier) (h : s.get kind = l₁ ++ r :: l₂)
      (hfree : s.Free (kind.key r) kind) : ChainStep ids s (s.put kind (l₁ ++ l₂))

inductive Step (key : String) (ids : Nat → String) : Service → Service → Prop
  | chain {s t : Service} (h : ChainStep ids s t) : Step key ids s t
  | draw {s : Service} : Step key ids s { s with drawn := s.drawn + 1 }
  | addClassifier {s : Service} (r : FlowClassifier) :
      Step key ids s (s.add ids .flowClassifier r)
  | hook {s : Service} {l₁ l₂ : List Port} {p : Port} (r : FlowClassifier)
      (h : s.ports = l₁ ++ p :: l₂) (hid : Kind.port.key p ≠ "") :
      Step key ids s ((s.add ids .flowClassifier r).put .port
        (l₁ ++ retagged key p (some (ids (s.drawn + 1))) :: l₂))
  | untag {s : Service} {l₁ l₂ : List Port} {p : Port} (h : s.ports = l₁ ++ p :: l₂) :
      Step key ids s (s.put .port (l₁ ++ retagged key p none :: l₂))
  | dropClassifier {s : Service} {l₁ l₂ : List FlowClassifier} {c : FlowClassifier}
      (h : s.flowClassifiers = l₁ ++ c :: l₂)
      (hfree : s.Free (Kind.flowClassifier.key c) .flowClassifier) :
      Step key ids s (s.put .flowClassifier (l₁ ++ l₂))

abbrev ChainSteps (ids : Nat → String) : Service → Service → Prop :=
  Relation.ReflTransGen (ChainStep ids)

abbrev Steps (key : String) (ids : Nat → String) : Service → Service → Prop :=
  Relation.ReflTransGen (Step key ids)

variable {s t : Service}

theorem ChainSteps.steps (h : ChainSteps ids s t) : Steps key ids s t := by
  induction h with
  | refl => exact .refl
  | tail _ hstep ih => exact ih.tail (.chain hstep)

theorem ChainStep.frame (h : ChainStep ids s t) :
    t.ports = s.ports ∧ t.flowClassifiers = s.flowClassifiers ∧ s.drawn ≤ t.drawn := by
  cases h with
  | addPair | addGroup | addChain => exact ⟨rfl, rfl, Nat.le_succ _⟩
  | join | leave | regroup | attach | detach => exact ⟨rfl, rfl, Nat.le_refl _⟩
  | drop hport hhook =>
    exact ⟨Service.get_put_of_ne s (Ne.symm hport) _, Service.get_put_of_ne s (Ne.symm hhook) _,
      Nat.le_refl _⟩

theorem ChainSteps.frame (h : ChainSteps ids s t) :
    t.ports = s.ports ∧ t.flowClassifiers = s.flowClassifiers := by
  induction h with
  | refl => exact ⟨rfl, rfl⟩
  | tail _ hstep ih => exact ⟨hstep.frame.1.trans ih.1, hstep.frame.2.1.trans ih.2⟩

namespace Service.Sound

theorem chainStep (hs : s.Sound ids) (hids : Function.Injective ids) (hstep : ChainStep ids s t) :
    t.Sound ids := by
  cases hstep with
  | addPair r _ => exact hs.add hids .portPair (by decide) r
  | addGroup r _ _ _ => exact hs.add hids .portPairGroup (by decide) r
  | join h _ _ => exact hs.amend .portPairGroup h rfl
  | leave h _ => exact hs.amend .portPairGroup h rfl
  | addChain r _ _ => exact hs.add hids .portChain (by decide) r
  | regroup h _ => exact hs.amend .portChain h rfl
  | attach h _ _ => exact hs.amend .portChain h rfl
  | detach _ h => exact hs.amend .portChain h rfl
  | drop _ _ h _ => exact hs.remove h

theorem step (hs : s.Sound ids) (hids : Function.Injective ids) (hstep : Step key ids s t) :
    t.Sound ids := by
  cases hstep with
  | chain h => exact hs.chainStep hids h
  | draw => exact hs.draw
  | addClassifier r => exact hs.add hids .flowClassifier (by decide) r
  | hook r h _ => exact (hs.add hids .flowClassifier (by decide) r).amend .port h rfl
  | untag h => exact hs.amend .port h rfl
  | dropClassifier h _ => exact hs.remove h

end Service.Sound

end TrafficSteering
