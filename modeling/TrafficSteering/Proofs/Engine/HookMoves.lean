import TrafficSteering.Proofs.Engine.HookSweeps

namespace TrafficSteering

open Engine HookTag

variable {key : String} {ids : Nat → String} {faults : Faults} {s t : Service} {m : Memory}
  {hook : InspectionHook} {hookId inspectedId chainId : String} {chain c : PortChain}

/-- The chain with a classifier, which comes last where it was not listed before. -/
def PortChain.listing (hookId : String) (c : PortChain) : PortChain :=
  { c with flowClassifiers :=
      if hookId ∈ c.flowClassifiers then c.flowClassifiers else c.flowClassifiers ++ [hookId] }

def Inventory.moveHook (v : Inventory) (hookId chainId : String) : Inventory :=
  { v with portChains := v.portChains.map fun c ↦
      if c.id = some chainId then c.listing hookId else c.unlisted {hookId} }

theorem PortChain.listing_of_mem (h : hookId ∈ c.flowClassifiers) : c.listing hookId = c := by
  rw [listing, if_pos h]

theorem PortChain.listing_of_not_mem (h : hookId ∉ c.flowClassifiers) :
    c.listing hookId = { c with flowClassifiers := c.flowClassifiers ++ [hookId] } := by
  rw [listing, if_neg h]

section

variable {l₁ l₂ : List PortChain}

theorem Service.Sound.moveHook (hs : s.Sound ids) (hsplit : s.portChains = l₁ ++ chain :: l₂)
    (hookId : String) :
    (s.moveHook hookId (Kind.portChain.key chain)).portChains =
      l₁.map (PortChain.unlisted {hookId}) ++ chain.listing hookId ::
        l₂.map (PortChain.unlisted {hookId}) := by
  have hget : s.get .portChain = l₁ ++ chain :: l₂ := hsplit
  obtain ⟨hleft, hright⟩ := hs.keys_ne hget
  have hid : chain.id = some (Kind.portChain.key chain) := hs.idOf_eq .portChain (by simp [hget])
  have hothers {l : List PortChain}
      (hl : ∀ d ∈ l, Kind.portChain.key d ≠ Kind.portChain.key chain) :
      (l.map fun d ↦ if d.id = some (Kind.portChain.key chain) then d.listing hookId
        else d.unlisted {hookId}) = l.map (PortChain.unlisted {hookId}) :=
    List.map_congr_left fun d hd ↦ if_neg fun hdid ↦ hl d hd (Kind.key_eq hdid)
  rw [Inventory.moveHook]
  dsimp only
  rw [hsplit, List.map_append, List.map_cons, hothers hleft, hothers hright, if_pos hid]

theorem Service.Valid.moveHook_of_listed (hv : s.Valid ids)
    (hsplit : s.portChains = l₁ ++ chain :: l₂) (hlisted : hookId ∈ chain.flowClassifiers) :
    s.moveHook hookId (Kind.portChain.key chain) = s.toInventory := by
  have hothers := hv.attached.others hsplit hlisted
  have hchains := hv.sound.moveHook hsplit hookId
  rw [map_fixed fun d hd ↦ PortChain.unlisted_of_not_mem (hothers d (List.mem_append_left _ hd)),
    map_fixed fun d hd ↦ PortChain.unlisted_of_not_mem (hothers d (List.mem_append_right _ hd)),
    PortChain.listing_of_mem hlisted, ← hsplit] at hchains
  rw [Inventory.moveHook] at hchains ⊢
  dsimp only at hchains
  rw [hchains]

theorem Moved.eq (h : Moved hookId s chain t) (hv : s.Valid ids)
    (hsplit : s.portChains = l₁ ++ chain :: l₂) :
    t = { s with toInventory := s.moveHook hookId (Kind.portChain.key chain) } := by
  cases h with
  | stays hlisted => rw [hv.moveHook_of_listed hsplit hlisted]
  | @moved b u k₁ k₂ hlisted hu hsplit' =>
    have hchains : u.get .portChain = l₁.map (PortChain.unlisted {hookId}) ++
        chain :: l₂.map (PortChain.unlisted {hookId}) := by
      rw [hu.eq hv.attached, Service.get_put_self, hsplit, List.map_append, List.map_cons,
        PortChain.unlisted_of_not_mem hlisted]
    obtain ⟨rfl, -, rfl⟩ := (hu.sound hv.sound).split_unique hchains hsplit' rfl
    have hmoved := hv.sound.moveHook hsplit hookId
    rw [PortChain.listing_of_not_mem hlisted] at hmoved
    rw [hu.eq hv.attached, Service.put_put, ← hmoved]
    rfl

end

section

variable (hhook : Guard.requireText hook.hookId "Inspection Hook Id" = .ok hookId)
  (hinspected : Guard.requireText hook.inspectedPort.elementId "Inspected port" = .ok inspectedId)
  (hchain : Guard.requireText hook.chain.elementId "Inspection port" = .ok chainId)

include hhook hinspected hchain

variable {classifier : FlowClassifier} (hfind : s.find? .flowClassifier hookId = some classifier)

include hfind

end

theorem Service.Orderly.updateHook (h : s.Orderly key ids)
    (hmovable : Movable key s hook hookId chainId chain) :
    calm ids (updateHook key hook) s =
      (.ok (), { s with toInventory := s.moveHook hookId chainId : Service }.memory []) := by
  have hends : Ends ids .never (Engine.updateHook key hook) s _ _ :=
    Ends.updateHook_movable h.valid.sound h.valid.attached hmovable
  obtain ⟨t, ⟨_, -, ⟨-, hpossible | ⟨c, hc, -, hempty⟩⟩ | ⟨hpossible, -⟩⟩ | ⟨_, hrun, hmoved⟩⟩ :=
    hends.calm_cases
  · exact absurd hpossible Faults.not_possible_never
  · exact absurd hempty (h.id_ne .portChain (by decide) hc)
  · exact absurd hpossible Faults.not_possible_never
  · obtain ⟨rfl, l₁, l₂, hsplit⟩ := Inventory.find?_eq_some hmovable.found
    rw [hrun, hmoved.eq h.valid hsplit]

namespace Sample

/-- The last call of an installation fails, so no chain lists the hook. -/
def loose : Memory :=
  history defaultKey numberedId (seeded numberedId "project" ports)
    (events ++ [.failAfter { kind := .portChain, operation := .update, status := some 503 },
      install])

end Sample

end TrafficSteering
