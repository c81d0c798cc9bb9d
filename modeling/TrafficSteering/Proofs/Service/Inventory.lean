import TrafficSteering.Proofs.Resource.Written

namespace TrafficSteering

namespace Kind

def key (kind : Kind) (r : kind.Resource) : String := (kind.idOf r).getD ""

def written (kind : Kind) (l : List kind.Resource) : Collection :=
  l.map fun r ↦ (kind.key r, kind.encode r)

variable {kind : Kind} {l l₁ l₂ : List kind.Resource} {id : String} {r r' : kind.Resource}

theorem key_eq (h : kind.idOf r = some id) : kind.key r = id := by rw [key, h, Option.getD_some]

theorem get?_written :
    (kind.written l).get? id = (l.find? fun r ↦ kind.key r == id).map kind.encode := by
  induction l with
  | nil => rfl
  | cons r rest ih =>
    have hcons : (kind.written (r :: rest)).get? id =
        if id = kind.key r then some (kind.encode r) else (kind.written rest).get? id :=
      Entries.lookup_cons id _ _
    rw [hcons, ih]
    by_cases h : id = kind.key r
    · subst h; simp
    · have hne : (kind.key r == id) = false := beq_false_of_ne (Ne.symm h)
      rw [if_neg h, List.find?_cons, hne]

theorem insert_written (hl : ∀ x ∈ l₁, kind.key x ≠ id) (hr : kind.key r = id)
    (hr' : kind.key r' = id) :
    (kind.written (l₁ ++ r :: l₂)).insert id (kind.encode r') =
      kind.written (l₁ ++ r' :: l₂) := by
  induction l₁ with
  | nil => simp [written, Collection.insert, hr, hr']
  | cons x rest ih =>
    have hx : kind.key x ≠ id := hl x (by simp)
    have hrest := ih fun y hy ↦ hl y (List.mem_cons_of_mem x hy)
    simp only [written, List.cons_append, List.map_cons, Collection.insert, hx, if_false] at hrest ⊢
    rw [hrest]

theorem insert_written_new (hl : ∀ x ∈ l, kind.key x ≠ id) (hr : kind.key r = id) :
    (kind.written l).insert id (kind.encode r) = kind.written (l ++ [r]) := by
  induction l with
  | nil => simp [written, Collection.insert, hr]
  | cons x rest ih =>
    have hx : kind.key x ≠ id := hl x (by simp)
    have hrest := ih fun y hy ↦ hl y (List.mem_cons_of_mem x hy)
    simp only [written, List.cons_append, List.map_cons, Collection.insert, hx, if_false] at hrest ⊢
    rw [hrest]

theorem erase_written (hl : ∀ x ∈ l₁, kind.key x ≠ id) (hr : kind.key r = id) :
    (kind.written (l₁ ++ r :: l₂)).erase id = kind.written (l₁ ++ l₂) := by
  induction l₁ with
  | nil => simp [written, Collection.erase, hr]
  | cons x rest ih =>
    have hx : kind.key x ≠ id := hl x (by simp)
    have hrest := ih fun y hy ↦ hl y (List.mem_cons_of_mem x hy)
    simp only [written, List.cons_append, List.map_cons, Collection.erase, hx, if_false] at hrest ⊢
    rw [hrest]

theorem written_injective (kind : Kind) : Function.Injective kind.written := by
  intro l l' h
  refine (List.map_inj_right fun r r' hr ↦ ?_).1 h
  exact kind.encode_injective (Prod.mk.inj hr).2

end Kind

structure Inventory where
  ports : List Port := []
  portPairs : List PortPair := []
  portPairGroups : List PortPairGroup := []
  portChains : List PortChain := []
  flowClassifiers : List FlowClassifier := []
deriving DecidableEq, Inhabited

namespace Inventory

def get (v : Inventory) : (kind : Kind) → List kind.Resource
  | .port => v.ports
  | .portPair => v.portPairs
  | .portPairGroup => v.portPairGroups
  | .portChain => v.portChains
  | .flowClassifier => v.flowClassifiers

def set (v : Inventory) : (kind : Kind) → List kind.Resource → Inventory
  | .port, l => { v with ports := l }
  | .portPair, l => { v with portPairs := l }
  | .portPairGroup, l => { v with portPairGroups := l }
  | .portChain, l => { v with portChains := l }
  | .flowClassifier, l => { v with flowClassifiers := l }

def find? (v : Inventory) (kind : Kind) (id : String) : Option kind.Resource :=
  (v.get kind).find? fun r ↦ kind.key r == id

def collections (v : Inventory) : Collections where
  ports := Kind.port.written v.ports
  portPairs := Kind.portPair.written v.portPairs
  portPairGroups := Kind.portPairGroup.written v.portPairGroups
  portChains := Kind.portChain.written v.portChains
  flowClassifiers := Kind.flowClassifier.written v.flowClassifiers

theorem get_set_self (v : Inventory) (kind : Kind) (l : List kind.Resource) :
    (v.set kind l).get kind = l := by cases kind <;> rfl

theorem get_set_of_ne (v : Inventory) {kind k : Kind} (h : k ≠ kind) (l : List kind.Resource) :
    (v.set kind l).get k = v.get k := by cases kind <;> cases k <;> first | rfl | exact absurd rfl h

@[simp] theorem get_collections (v : Inventory) (kind : Kind) :
    v.collections.get kind = kind.written (v.get kind) := by cases kind <;> rfl

theorem collections_set (v : Inventory) (kind : Kind) (l : List kind.Resource) :
    (v.set kind l).collections = v.collections.set kind (kind.written l) := by cases kind <;> rfl

theorem collections_injective : Function.Injective collections := by
  intro v w h
  have hget (kind : Kind) : v.get kind = w.get kind :=
    kind.written_injective (by rw [← get_collections, h, get_collections])
  have h₁ := hget .port
  have h₂ := hget .portPair
  have h₃ := hget .portPairGroup
  have h₄ := hget .portChain
  have h₅ := hget .flowClassifier
  cases v
  cases w
  simp_all [get]

end Inventory

structure Service extends Inventory where
  nextChain : UInt64 := 1
  project : String
  drawn : Nat := 0
deriving DecidableEq

namespace Service

def put (s : Service) (kind : Kind) (l : List kind.Resource) : Service :=
  { s with toInventory := s.toInventory.set kind l }

def memory (s : Service) (failures : List Failure) : Memory where
  collections := s.collections
  failures := failures
  nextChain := s.nextChain
  project := s.project
  drawn := s.drawn

theorem memory_put (s : Service) (kind : Kind) (l : List kind.Resource) (failures : List Failure) :
    (s.put kind l).memory failures =
      { s.memory failures with collections := s.collections.set kind (kind.written l) } := by
  simp only [memory, put, Inventory.collections_set]

theorem memory_injective {s t : Service} {failures rest : List Failure}
    (h : s.memory failures = t.memory rest) : s = t := by
  injection h with hcollections _ hchain hproject hdrawn
  have hinventory := Inventory.collections_injective hcollections
  cases s
  cases t
  simp_all

variable (ids : Nat → String)

def issue (s : Service) (kind : Kind) (r : kind.Resource) : kind.Resource :=
  kind.created (ids (s.drawn + 1)) s.project s.nextChain r

def add (s : Service) (kind : Kind) (r : kind.Resource) : Service :=
  { s.put kind (s.get kind ++ [s.issue ids kind r]) with
    drawn := s.drawn + 1
    nextChain := if kind = .portChain then s.nextChain + 1 else s.nextChain }

/-- Every resource has an id, no two of one kind have the same, and all but those of ports were
drawn. -/
structure Sound (s : Service) : Prop where
  identified : ∀ kind, ∀ r ∈ s.get kind, kind.idOf r ≠ none
  distinct : ∀ kind, ((s.get kind).map kind.key).Nodup
  drawn : ∀ kind, kind ≠ .port → ∀ r ∈ s.get kind, ∃ n ≤ s.drawn, kind.key r = ids n

end Service

end TrafficSteering
