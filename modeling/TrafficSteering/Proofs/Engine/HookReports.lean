import TrafficSteering.Proofs.Engine.HookSweeps

namespace TrafficSteering

open Engine HookTag

variable {key : String} {ids : Nat → String} {faults : Faults} {s t : Service} {m : Memory}
  {hook hookId : String}

def Inventory.report (v : Inventory) (hookId : String) (port : Option Port)
    (chain : Option PortChain) : InspectionHook where
  hookId := some hookId
  inspectedPort := (port.map (Lookup.networkElement · none)).getD {}
  chain := (chain.map v.tree).getD {}

theorem Service.Orderly.getHook (h : s.Orderly key ids) (hvisible : Text.blank hookId = false)
    (hstored : s.Stores .flowClassifier hookId) :
    ∃ port, (∀ p, port = some p ↔ p ∈ s.ports ∧ tag? key p = some hookId) ∧
      calm ids (getHook key hookId) s =
        (.ok (some (s.report hookId port (s.chainOfClassifier hookId))), s.memory []) := by
  obtain ⟨classifier, hfind, htagged⟩ := h.exists_classifier hstored
  refine ⟨s.taggedPort key classifier, htagged, Atomic.run_eq ?_⟩
  exact .getHook_found hvisible hfind s.tree fun c hc ↦
    h.tree (Inventory.chainOfClassifier_eq_some hc).1

theorem Cleared.ports (h : Cleared key hookId s t) :
    t = s ∨ ∃ l₁ p l₂, s.ports = l₁ ++ p :: l₂ ∧ tag? key p = some hookId ∧
      t = { s with ports := l₁ ++ { p with profile := p.profile.map (·.erase key) } :: l₂ } := by
  cases h with
  | bare => exact .inl rfl
  | @tagged l₁ l₂ p hsplit htag =>
    refine .inr ⟨l₁, p, l₂, hsplit, htag, ?_⟩
    rw [retagged_none htag]
    rfl

end TrafficSteering
