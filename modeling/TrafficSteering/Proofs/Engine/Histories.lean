import TrafficSteering.Proofs.Engine.HookOperations
import TrafficSteering.Proofs.Service.Numbering

namespace TrafficSteering

open Engine HookTag

inductive Engine.Request where
  | getInspectionPort (port : InspectionPort)
  | registerInspectionPort (port : InspectionPort)
  | removeInspectionPort (port : InspectionPort)
  | installHook (inspected chain : Element)
  | updateHook (hook : InspectionHook)
  | removeHook (hook : String)
  | getHook (hook : String)
  | registerChain (groups : List NetworkElement)
  | updateChain (chain : Element) (groups : List NetworkElement)
  | deleteChain (chain : Element)
  | getChain (chain : Element)
deriving DecidableEq, Inhabited

namespace Engine.Request

abbrev Value : Request → Type
  | getInspectionPort _ => Option InspectionPort
  | registerInspectionPort _ => InspectionPort
  | installHook _ _ => String
  | getHook _ => Option InspectionHook
  | registerChain _ | updateChain _ _ | getChain _ => ServiceFunctionChain
  | removeInspectionPort _ | updateHook _ | removeHook _ | deleteChain _ => Unit

def program (key : String) : (r : Request) → Program r.Value
  | getInspectionPort port => Engine.getInspectionPort port
  | registerInspectionPort port => Engine.registerInspectionPort port
  | removeInspectionPort port => Engine.removeInspectionPort port
  | installHook inspected chain => Engine.installHook key inspected chain
  | updateHook hook => Engine.updateHook key hook
  | removeHook hook => Engine.removeHook key hook
  | getHook hook => Engine.getHook key hook
  | registerChain groups => Engine.registerChain groups
  | updateChain chain groups => Engine.updateChain chain groups
  | deleteChain chain => Engine.deleteChain chain
  | getChain chain => Engine.getChain chain

def run (key : String) (ids : Nat → String) (r : Request) (m : Memory) :
    Except Error r.Value × Memory := (r.program key).run (Memory.transport ids) m

end Engine.Request

inductive Event where
  | request (r : Request)
  | failAfter (f : Failure)
deriving DecidableEq, Inhabited

def Event.apply (key : String) (ids : Nat → String) (m : Memory) : Event → Memory
  | request r => (r.run key ids m).2
  | failAfter f => m.failAfter f

def history (key : String) (ids : Nat → String) (m : Memory) (events : List Event) : Memory :=
  events.foldl (Event.apply key ids) m

def seeded (ids : Nat → String) (project : String) (ports : List Port) : Memory :=
  ports.foldl (fun m p ↦ (m.seedPort ids p).2) { project }

variable {key : String} {ids : Nat → String} {s t : Service} {failures : List Failure}

structure Service.Bare (ids : Nat → String) (s : Service) : Prop where
  sound : s.Sound ids
  portPairs : s.portPairs = []
  portPairGroups : s.portPairGroups = []
  portChains : s.portChains = []
  flowClassifiers : s.flowClassifiers = []

namespace Service.Bare

theorem valid (h : s.Bare ids) : s.Valid ids where
  sound := h.sound
  linked := by
    refine ⟨?_, ?_, ?_, ?_, ?_, ?_⟩ <;>
      simp [h.portPairs, h.portPairGroups, h.portChains]
  attached := by
    refine ⟨?_, ?_⟩ <;> simp [h.portChains]

theorem putPorts (h : s.Bare ids) {l : List Port} (hid : ∀ p ∈ l, p.id ≠ none)
    (hnodup : (l.map Kind.port.key).Nodup) : (s.put .port l).Bare ids where
  sound := h.sound.putPorts hid hnodup
  portPairs := h.portPairs
  portPairGroups := h.portPairGroups
  portChains := h.portChains
  flowClassifiers := h.flowClassifiers

theorem store (h : s.Bare ids) (failures : List Failure) (p : Port) (id : String) :
    ∃ t : Service,
      (s.memory failures).store .port id (p.encode.insert "id" (.str id)) = t.memory failures ∧
        t.Bare ids ∧ ∀ q ∈ t.ports, q ∈ s.ports ∨ q = { p with id := some id } := by
  let p' : Port := { p with id := some id }
  have hencode : p.encode.insert "id" (.str id) = Kind.port.encode p' := p.encode_named id
  have hget : (s.memory failures).collections.get .port = Kind.port.written s.ports :=
    s.get_memory failures .port
  cases hfind : s.find? .port id with
  | none =>
    -- a port under a new id comes last
    have hne : ∀ q ∈ s.ports, Kind.port.key q ≠ id := Inventory.find?_eq_none.1 hfind
    refine ⟨s.put .port (s.ports ++ [p']), ?_, h.putPorts ?_ ?_, ?_⟩
    · rw [hencode]
      exact store_memory_new .port p' failures hne
    · intro q hq
      rcases List.mem_append.1 hq with hq | hq
      · exact h.sound.identified .port q hq
      · rw [List.mem_singleton.1 hq]
        exact Option.some_ne_none id
    · rw [List.map_append, List.nodup_append]
      refine ⟨h.sound.distinct .port, List.nodup_singleton _, fun x hx y hy ↦ ?_⟩
      obtain ⟨q, hq, rfl⟩ := List.mem_map.1 hx
      rw [List.map_singleton, List.mem_singleton] at hy
      exact hy ▸ hne q hq
    · intro q hq
      exact (List.mem_append.1 hq).imp_right List.mem_singleton.1
  | some q =>
    -- a port under an id in use takes the place of the one that had it
    obtain ⟨hkey, l₁, l₂, hsplit⟩ := Inventory.find?_eq_some hfind
    have hq : Kind.port.idOf q = some (Kind.port.key q) :=
      h.sound.idOf_eq .port (by simp [hsplit])
    have hsame : Kind.port.idOf p' = Kind.port.idOf q := by
      rw [hq, hkey]
      rfl
    have hsound := h.sound.amend .port hsplit hsame
    have hleft : ∀ x ∈ l₁, Kind.port.key x ≠ id := hkey ▸ (h.sound.keys_ne hsplit).1
    refine ⟨s.put .port (l₁ ++ p' :: l₂), ?_, ⟨hsound, h.portPairs, h.portPairGroups, h.portChains,
      h.flowClassifiers⟩, ?_⟩
    · rw [memory_put, ← Kind.insert_written hleft hkey rfl, Memory.store, hencode, hget,
        show s.ports = l₁ ++ q :: l₂ from hsplit]
      rfl
    · intro x hx
      have hports : s.ports = l₁ ++ q :: l₂ := hsplit
      rw [hports]
      rcases List.mem_append.1 hx with hx | hx
      · exact .inl (List.mem_append_left _ hx)
      · rcases List.mem_cons.1 hx with rfl | hx
        · exact .inr rfl
        · exact .inl (List.mem_append_right _ (List.mem_cons_of_mem q hx))

theorem draw (h : s.Bare ids) : ({ s with drawn := s.drawn + 1 } : Service).Bare ids :=
  ⟨h.sound.draw, h.portPairs, h.portPairGroups, h.portChains, h.flowClassifiers⟩

theorem seedPort (h : s.Bare ids) (failures : List Failure) (p : Port) :
    ∃ t : Service, ((s.memory failures).seedPort ids p).2 = t.memory failures ∧ t.Bare ids ∧
      ∀ q ∈ t.ports, q ∈ s.ports ∨ q.profile = p.profile := by
  cases hid : p.id with
  | some id =>
    obtain ⟨t, hstore, ht, hports⟩ := h.store failures p id
    refine ⟨t, ?_, ht, fun q hq ↦ (hports q hq).imp_right fun hq ↦ by rw [hq]⟩
    rw [← hstore, Memory.seedPort, hid]
  | none =>
    obtain ⟨t, hstore, ht, hports⟩ := h.draw.store failures p (ids (s.drawn + 1))
    refine ⟨t, ?_, ht, fun q hq ↦ (hports q hq).imp_right fun hq ↦ by rw [hq]⟩
    rw [← hstore, Memory.seedPort, hid]
    rfl

end Service.Bare

theorem seeded_eq (ids : Nat → String) (project : String) (ports : List Port) :
    ∃ s : Service, seeded ids project ports = s.memory [] ∧ s.Bare ids ∧
      ∀ q ∈ s.ports, ∃ p ∈ ports, q.profile = p.profile := by
  have hfold (ports : List Port) (s : Service) (hs : s.Bare ids) :
      ∃ t : Service, ports.foldl (fun m p ↦ (m.seedPort ids p).2) (s.memory []) = t.memory [] ∧
        t.Bare ids ∧ ∀ q ∈ t.ports, q ∈ s.ports ∨ ∃ p ∈ ports, q.profile = p.profile := by
    induction ports generalizing s with
    | nil => exact ⟨s, rfl, hs, fun q hq ↦ .inl hq⟩
    | cons p rest ih =>
      obtain ⟨u, hu, hbare, hports⟩ := hs.seedPort [] p
      obtain ⟨t, ht, htbare, hrest⟩ := ih u hbare
      refine ⟨t, ?_, htbare, fun q hq ↦ ?_⟩
      · rw [List.foldl_cons, hu, ht]
      · rcases hrest q hq with hq | ⟨p', hp', he⟩
        · exact (hports q hq).imp_right fun he ↦ ⟨p, List.mem_cons_self, he⟩
        · exact .inr ⟨p', List.mem_cons_of_mem p hp', he⟩
  have hempty : ({ project := project } : Service).Bare ids := by
    refine ⟨⟨?_, ?_, ?_⟩, rfl, rfl, rfl, rfl⟩
    · intro kind r hr
      cases kind <;> exact absurd hr List.not_mem_nil
    · intro kind
      cases kind <;> exact List.nodup_nil
    · intro kind _ r hr
      cases kind <;> exact absurd hr List.not_mem_nil
  obtain ⟨t, ht, hbare, hports⟩ := hfold ports _ hempty
  exact ⟨t, ht, hbare, fun q hq ↦ (hports q hq).resolve_left List.not_mem_nil⟩

theorem Service.Tagged.of_untagged (h : ∀ p ∈ s.ports, tag? key p = none) : s.Tagged key ids where
  once := by
    rw [List.filterMap_eq_nil_iff.2 h]
    exact List.nodup_nil
  drawn p hp hookId htag := by
    rw [h p hp] at htag
    cases htag
  named p hp htag := absurd (h p hp) htag

theorem seeded_untagged (ids : Nat → String) (project : String) {ports : List Port}
    (h : ∀ p ∈ ports, tag? key p = none) :
    ∃ s : Service, seeded ids project ports = s.memory [] ∧ s.Bare ids ∧
      ∀ p ∈ s.ports, tag? key p = none := by
  obtain ⟨s, hs, hbare, hprofiles⟩ := seeded_eq ids project ports
  refine ⟨s, hs, hbare, fun q hq ↦ ?_⟩
  obtain ⟨p, hp, he⟩ := hprofiles q hq
  rw [← h p hp, tag?, tag?, Port.profileText, Port.profileText, he]

theorem Engine.Request.inSteps (key : String) (hv : s.Valid ids) (hids : Function.Injective ids)
    (r : Request) :
    InSteps (Step key ids) ids (r.program key) s := by
  cases r with
  | getInspectionPort port => exact (getInspectionPort_inSteps port).steps
  | registerInspectionPort port => exact (registerInspectionPort_inSteps hv hids port).steps
  | removeInspectionPort port => exact (removeInspectionPort_inSteps hv hids port).steps
  | installHook inspected chain => exact installHook_inSteps hv hids inspected chain
  | updateHook hook => exact (updateHook_inSteps hv hook).steps
  | removeHook hook => exact removeHook_inSteps hv hook
  | getHook hook => exact getHook_inSteps hv hook
  | registerChain groups => exact (registerChain_inSteps hv hids groups).steps
  | updateChain chain groups => exact (updateChain_inSteps hv hids chain groups).steps
  | deleteChain chain => exact (deleteChain_inSteps hv chain).steps
  | getChain chain => exact (getChain_inSteps chain).steps

theorem InSteps.run {α : Type} {R : Service → Service → Prop} {p : Program α}
    (h : InSteps R ids p s) (failures : List Failure) :
    ∃ rest t, (p.run (Memory.transport ids) (s.memory failures)).2 = t.memory rest ∧
      Relation.ReflTransGen R s t := by
  obtain ⟨rest, t, -, ⟨_, hrun, hsteps⟩ | ⟨_, hrun, hsteps⟩⟩ := h failures Faults.any_covers
  · exact ⟨rest, t, by rw [hrun], hsteps⟩
  · exact ⟨rest, t, by rw [hrun], hsteps⟩

theorem Event.apply_steps (key : String) (hv : s.Valid ids) (hids : Function.Injective ids)
    (failures : List Failure) (e : Event) :
    ∃ rest t, e.apply key ids (s.memory failures) = t.memory rest ∧ Steps key ids s t := by
  cases e with
  | request r => exact (r.inSteps key hv hids).run failures
  | failAfter f => exact ⟨failures ++ [f], s, rfl, .refl⟩

theorem history_steps (key : String) (hv : s.Valid ids) (hids : Function.Injective ids)
    (failures : List Failure) (events : List Event) :
    ∃ rest t, history key ids (s.memory failures) events = t.memory rest ∧ Steps key ids s t := by
  induction events generalizing s failures with
  | nil => exact ⟨failures, s, rfl, .refl⟩
  | cons e events ih =>
    obtain ⟨rest, u, he, hu⟩ := e.apply_steps key hv hids failures
    obtain ⟨rest', t, ht, hsteps⟩ := ih (hv.steps hids hu) rest
    refine ⟨rest', t, ?_, hu.trans hsteps⟩
    rw [history, List.foldl_cons, he]
    exact ht

/-- The memory can come about: it was seeded with ports that carry no tag. -/
def Reachable (key : String) (ids : Nat → String) (m : Memory) : Prop :=
  ∃ project ports events, (∀ p ∈ ports, tag? key p = none) ∧
    m = history key ids (seeded ids project ports) events

theorem Reachable.service {m : Memory} (hids : Function.Injective ids) (h : Reachable key ids m) :
    ∃ (s : Service) (failures : List Failure), m = s.memory failures ∧ s.Valid ids ∧
      s.Tagged key ids := by
  obtain ⟨project, ports, events, huntagged, rfl⟩ := h
  obtain ⟨s, hs, hbare, hnone⟩ := seeded_untagged ids project huntagged
  obtain ⟨failures, t, ht, hsteps⟩ := history_steps key hbare.valid hids [] events
  exact ⟨t, failures, by rw [hs, ht], hbare.valid.steps hids hsteps,
    .steps (.of_untagged hnone) hids hsteps⟩

/-- In every memory that comes about from ports alone, pairs, groups and chains are linked as they
should be, whatever was requested and whatever calls were made to fail. -/
theorem history_linked (hids : Function.Injective ids) (project : String) (ports : List Port)
    (events : List Event) :
    ∃ v : Inventory, (history key ids (seeded ids project ports) events).collections =
      v.collections ∧ v.Linked := by
  obtain ⟨s, hs, hbare, -⟩ := seeded_eq ids project ports
  obtain ⟨failures, t, ht, hsteps⟩ :=
    history_steps key hbare.valid hids [] events
  refine ⟨t.toInventory, ?_, (hbare.valid.steps hids hsteps).linked⟩
  rw [hs, ht]
  rfl

namespace Sample

def ports : List Port :=
  [{ id := some "left" }, { id := some "right" }, { id := some "inspected" }]

def span : InspectionPort where
  ingressPort := some { elementId := some "left" }
  egressPort := some { elementId := some "right" }

def inspected : Element := .network { elementId := some "inspected" }

def chain : Element := .chain { elementId := some (numberedId 3) }

/-- A registration that fails once, and a chain of the group that comes of it. -/
def events : List Event :=
  [.failAfter { kind := .portPairGroup, operation := .create, status := some 503 },
    .request (.registerInspectionPort span),
    .request (.registerInspectionPort span),
    .request (.registerChain [{ elementId := some (numberedId 2) }])]

def memory : Memory := history defaultKey numberedId (seeded numberedId "project" ports) events

end Sample

theorem sample_linked : Function.Injective numberedId ∧
    ∃ v : Inventory, Sample.memory.collections = v.collections ∧ v.Linked :=
  ⟨numberedId_injective, history_linked numberedId_injective "project" Sample.ports Sample.events⟩

end TrafficSteering
