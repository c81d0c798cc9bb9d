import TrafficSteering.Proofs.Engine.HookRemoval

namespace TrafficSteering

open Engine HookTag

variable {key : String} {ids : Nat → String} {faults : Faults} {s t : Service} {hookId : String}
  {inspected chain : Element} {tree : ServiceFunctionChain}

theorem Service.Tagged.taggedPort (h : s.Tagged key ids) {classifier : FlowClassifier}
    (hid : classifier.id = some hookId) {p : Port} (hp : p ∈ s.ports)
    (htag : tag? key p = some hookId) : s.taggedPort key classifier = some p := by
  cases hfind : s.taggedPort key classifier with
  | none => exact absurd htag (Inventory.taggedPort_eq_none hid hfind p hp)
  | some q =>
    obtain ⟨hq, hqtag⟩ := Inventory.taggedPort_eq_some hid hfind
    rw [h.eq_of_tag hq hp hqtag htag]

theorem Atomic.getHook_found (hid : Text.blank hookId = false) {classifier : FlowClassifier}
    (hfind : s.find? .flowClassifier hookId = some classifier)
    (trees : PortChain → ServiceFunctionChain) (htree : ∀ c ∈ s.chainOfClassifier hookId,
      Atomic ids faults (Lookup.chainTree c) s (.ok (trees c)) s) :
    Atomic ids faults (getHook key hookId) s
      (.ok (some { hookId := some hookId,
                   inspectedPort := ((s.taggedPort key classifier).map
                     (Lookup.networkElement · none)).getD {},
                   chain := ((s.chainOfClassifier hookId).map trees).getD {} })) s := by
  have hnamed : Guard.requireText (some hookId) "Inspection Hook Id" = .ok hookId :=
    Guard.requireText_eq_ok_iff.2 ⟨rfl, hid⟩
  rw [Engine.getHook, hnamed]
  refine bind (lift _) (bind (get_of_ne s .flowClassifier (Guard.ne_of_requireText hnamed)) ?_)
  rw [hfind]
  refine bind (taggedPort s key classifier) ?_
  cases s.taggedPort key classifier
  all_goals
    refine bind done (bind (chainOfClassifier s hookId) ?_)
    cases hchain : s.chainOfClassifier hookId with
    | none => exact bind done done
    | some c => exact bind (htree c hchain) done

theorem Atomic.getHook (hv : s.Valid ids) (ht : s.Tagged key ids)
    (hid : Text.blank hookId = false) (hstored : s.Stores .flowClassifier hookId) {p : Port}
    (hp : p ∈ s.ports) (htag : tag? key p = some hookId) {c : PortChain} (hc : c ∈ s.portChains)
    (hlisted : hookId ∈ c.flowClassifiers)
    (htree : Atomic ids faults (Lookup.chainTree c) s (.ok tree) s) :
    Atomic ids faults (getHook key hookId) s
      (.ok (some { hookId := some hookId, inspectedPort := Lookup.networkElement p none,
                   chain := tree })) s := by
  obtain ⟨classifier, hmem, hclassifier⟩ := hstored
  have hfind : s.find? .flowClassifier hookId = some classifier := by
    rw [← Kind.key_eq hclassifier]
    exact hv.sound.find?_of_mem .flowClassifier hmem
  have hchain := hv.attached.chainOfClassifier hc hlisted
  have hread : Atomic ids faults (Engine.getHook key hookId) s _ s :=
    getHook_found hid hfind (fun _ ↦ tree) (by rw [hchain]; rintro _ ⟨⟩; exact htree)
  rwa [ht.taggedPort hclassifier hp htag, hchain] at hread

theorem Atomic.getChain (hs : s.Sound ids) {m₁ m₂ : List PortChain} {c : PortChain}
    (hchains : s.portChains = m₁ ++ c :: m₂) {name : String}
    (hid : Guard.requireId chain name = .ok (Kind.portChain.key c))
    (htree : Atomic ids faults (Lookup.chainTree c) s (.ok tree) s) :
    Atomic ids faults (getChain chain) s (.ok tree) s := by
  have hnamed : Guard.requireId chain "Service Function Chain Id" = .ok (Kind.portChain.key c) :=
    Guard.requireText_eq_ok_iff.2 (Guard.requireText_eq_ok_iff.1 hid)
  rw [Engine.getChain, hnamed]
  refine bind (lift _) (bind ?_ htree)
  exact requireChain_stored hs hchains (Guard.ne_of_requireText hid)

def Inventory.hooked (v : Inventory) (key : String) (x : Site) (hook : FlowClassifier)
    (hookId : String) : Inventory :=
  { v with
    ports := x.portsBefore ++ retagged key x.port (some hookId) :: x.portsAfter
    portChains := x.chainsBefore ++
      { x.chain with flowClassifiers := x.chain.flowClassifiers ++ [hookId] } :: x.chainsAfter
    flowClassifiers := v.flowClassifiers ++ [hook] }

/-- An installation has led from `m` to `n`. The classifier that is built for the chain as it is
read in `m` is stored under an id that no other has, the port at the site is tagged with it, and the
chain there lists it last. -/
structure HookStored (key : String) (ids : Nat → String) (inspected chain : Element)
    (m n : Memory) (hookId : String) (x : Site) (tree : ServiceFunctionChain) (v : Inventory)
    (hook : FlowClassifier) : Prop where
  before : m.collections = v.collections
  ports : v.ports = x.portsBefore ++ x.port :: x.portsAfter
  portId : x.port.id = inspected.id
  portChains : v.portChains = x.chainsBefore ++ x.chain :: x.chainsAfter
  chainId : x.chain.id = chain.id
  chainRead : (Request.getChain chain).run key ids m = (.ok tree, m)
  built : (HookClassifier.build tree x.port inspected.portIps).run (Memory.transport ids) m =
    (.ok hook.clearServerFields, { m with drawn := m.drawn + 1 })
  named : hook.id = some hookId
  drawn : hookId = ids (m.drawn + 2)
  fresh : ∀ c ∈ v.flowClassifiers, c.id ≠ some hookId
  tagged : tag? key (retagged key x.port (some hookId)) = some hookId
  after : n.collections = (v.hooked key x hook hookId).collections

theorem Looked.drawn {l₁ l₂ : List Port} {p : Port} {found : Option String}
    (h : Looked key s l₁ l₂ p found t) : t.drawn = s.drawn := by
  cases h <;> rfl

theorem Installed.stored {x : Site} (hv : s.Valid ids) (hids : Function.Injective ids)
    (hx : x.Ready key ids s inspected chain)
    (h : Installed x inspected.portIps key ids s hookId t) :
    ∃ tree hook, (∀ faults, Atomic ids faults (Lookup.chainTree x.chain) s (.ok tree) s) ∧
      HookStored key ids inspected chain (s.memory []) (t.memory []) hookId x tree s.toInventory
        hook ∧ t.toInventory = s.toInventory.hooked key x hook hookId := by
  obtain ⟨u, classifier, hlooked, ⟨rfl, tree, htree, hbuilt⟩, rfl⟩ := h
  let hook := Service.issue ids { u with drawn := u.drawn + 1 } .flowClassifier classifier
  have hclassifier : hook.clearServerFields = classifier := by
    obtain ⟨source, destination, -, -, rfl⟩ := hbuilt
    rfl
  -- a healed tag makes no difference: it is replaced by the new one
  have hinventory : (withHook key ids { u with drawn := u.drawn + 1 } x.portsBefore x.portsAfter
      x.port x.chainsBefore x.chainsAfter x.chain classifier).toInventory =
      s.toInventory.hooked key x hook (ids (u.drawn + 1 + 1)) := by
    change u.toInventory.hooked key x hook _ = _
    obtain ⟨hsame, -⟩ | ⟨_, -, -, hsame⟩ := hlooked.inventory
    · rw [hsame]
    · rw [hsame]
      rfl
  obtain ⟨hchain, -⟩ := Guard.requireText_eq_ok_iff.1 hx.chainId
  -- the chain is read before anything is changed
  have hread : Atomic ids .never (Engine.getChain chain) s (.ok tree) s :=
    .getChain hv.sound hx.chains hx.chainId (htree _)
  refine ⟨tree, hook, htree, ?_, hinventory⟩
  exact
    { before := rfl
      ports := hx.ports
      portId := hx.portId hv
      portChains := hx.chains
      chainId := (hv.sound.idOf_eq .portChain (by simp [Inventory.get, hx.chains])).trans
        hchain.symm
      chainRead := hread.run_eq
      built := by
        rw [hclassifier]
        exact hbuilt.run (Memory.transport ids) (hlooked.drawn ▸ rfl)
      named := rfl
      drawn := by
        rw [hlooked.drawn]
        rfl
      fresh := fun c hc hid ↦ by
        have hdrawn : ({ s with drawn := s.drawn + 1 } : Service).Sound ids := hv.sound.draw
        refine hdrawn.fresh hids .flowClassifier (by decide) c hc ?_
        rw [← hlooked.drawn]
        exact Kind.key_eq hid
      tagged := tag?_retagged key x.port _
      after := congrArg Inventory.collections hinventory }

end TrafficSteering
