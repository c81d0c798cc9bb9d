import TrafficSteering.Proofs.Service.Calls

namespace TrafficSteering

open Json

/-- What is asked of the gateway; a port may also be put there from outside. -/
inductive Demand where
  | seedPort (port : Port)
  | create (kind : Kind) (r : kind.Resource)
  | get (kind : Kind) (id : String)
  | list (kind : Kind) (query : Query)
  | update (kind : Kind) (id : String) (change : kind.Resource)
  | delete (kind : Kind) (id : String)
  | deleteRaw (kind : Kind) (id : String)

namespace Demand

abbrev Result : Demand → Type
  | seedPort _ => String
  | create kind _ | update kind _ _ => kind.Resource
  | get kind _ => Option kind.Resource
  | list kind _ => List kind.Resource
  | delete _ _ => Unit
  | deleteRaw _ _ => ActionResponse

/-- The id that the demand names, if it names one, is not the empty text. -/
def Named : Demand → Prop
  | seedPort _ | create _ _ | list _ _ => True
  | get _ id | update _ id _ | delete _ id | deleteRaw _ id => id ≠ ""

instance : DecidablePred Named := fun d ↦ by
  cases d <;> unfold Named <;> infer_instance

variable (ids : Nat → String)

def serve : (d : Demand) → Memory → Except Error d.Result × Memory
  | seedPort p, m => (.ok (m.seedPort ids p).1, (m.seedPort ids p).2)
  | create kind r, m => (Gateway.create kind r).run (Memory.transport ids) m
  | get kind id, m => (Gateway.get kind id).run (Memory.transport ids) m
  | list kind query, m => (Gateway.list kind query).run (Memory.transport ids) m
  | update kind id change, m => (Gateway.update kind id change).run (Memory.transport ids) m
  | delete kind id, m => (Gateway.delete kind id).run (Memory.transport ids) m
  | deleteRaw kind id, m => (Gateway.deleteRaw kind id).run (Memory.transport ids) m

/-- The id under which a demand adds a resource, and how many ids have been drawn then. -/
def placed (n : Nat) : Demand → List String × Nat
  | seedPort p =>
    match p.id with
    | some id => ([id], n)
    | none => ([ids (n + 1)], n + 1)
  | create _ _ => ([ids (n + 1)], n + 1)
  | get _ _ | list _ _ | update _ _ _ | delete _ _ | deleteRaw _ _ => ([], n)

def placements : List Demand → Nat → List String
  | [], _ => []
  | d :: rest, n => (d.placed ids n).1 ++ placements rest (d.placed ids n).2

def results {σ : Type} (step : (d : Demand) → σ → Except Error d.Result × σ) :
    List Demand → σ → List (Σ d : Demand, Except Error d.Result) × σ
  | [], s => ([], s)
  | d :: rest, s =>
    (⟨d, (step d s).1⟩ :: (results step rest (step d s).2).1, (results step rest (step d s).2).2)

end Demand

def Inventory.holder? (v : Inventory) (id : String) : Kind → Option (Kind × String)
  | .portPair => (v.portPairGroups.find? fun g ↦ id ∈ g.portPairs).map fun g ↦
      (.portPairGroup, Kind.portPairGroup.key g)
  | .portPairGroup => (v.portChains.find? fun c ↦ id ∈ c.portPairGroups).map fun c ↦
      (.portChain, Kind.portChain.key c)
  | .flowClassifier => (v.portChains.find? fun c ↦ id ∈ c.flowClassifiers).map fun c ↦
      (.portChain, Kind.portChain.key c)
  | .port | .portChain => none

namespace Service

variable (ids : Nat → String)

def seedPort (s : Service) (p : Port) : String × Service :=
  match p.id with
  | some id => (id, s.put .port (s.ports ++ [p]))
  | none =>
    let id := ids (s.drawn + 1)
    (id, { s.put .port (s.ports ++ [{ p with id := some id }]) with drawn := s.drawn + 1 })

def replace (s : Service) (kind : Kind) (id : String) (r : kind.Resource) : Service :=
  s.put kind ((s.get kind).map fun x ↦ if kind.key x = id then r else x)

def drop (s : Service) (kind : Kind) (id : String) : Service :=
  s.put kind ((s.get kind).filter fun x ↦ kind.key x ≠ id)

/-- The answer to a deletion: a resource that is listed stays. -/
def removal (s : Service) (kind : Kind) (id : String) : ActionResponse × Service :=
  match s.holder? id kind, s.find? kind id with
  | some owner, _ => (.failure 409 (Memory.inUseText kind id owner), s)
  | none, none => (.failure 404 (Memory.absentText kind id), s)
  | none, some _ => (.success, s.drop kind id)

/-- The answer that the lists give, and the lists from then on. -/
def answer : (d : Demand) → Service → Except Error d.Result × Service
  | .seedPort p, s => (.ok (s.seedPort ids p).1, (s.seedPort ids p).2)
  | .create kind r, s => (.ok (s.issue ids kind r), s.add ids kind r)
  | .get kind id, s => (.ok (s.find? kind id), s)
  | .list kind query, s =>
    (.ok ((s.get kind).filter fun r ↦ Memory.satisfies (kind.encode r) query), s)
  | .update kind id change, s =>
    match s.find? kind id with
    | none =>
      let e : TransportError := { status := some 404, message := Memory.absentText kind id }
      (.error (Gateway.callFailure kind .update e), s)
    | some r => (.ok (kind.amended r change), s.replace kind id (kind.amended r change))
  | .delete kind id, s =>
    match s.holder? id kind with
    | some owner =>
      let e : TransportError := { status := some 409, message := Memory.inUseText kind id owner }
      (.error (Gateway.callFailure kind .delete e), s)
    | none => (.ok (), s.drop kind id)
  | .deleteRaw kind id, s => (.ok (s.removal kind id).1, (s.removal kind id).2)

variable {ids} {s t : Service} {kind : Kind} {id : String} {r : kind.Resource}
  {l₁ l₂ : List kind.Resource}

theorem find?_holder (k : Kind) {field : String} {refs : k.Resource → List String}
    (h : ∀ r, (k.encode r).get? field = some (texts (refs r))) (l : List k.Resource) :
    ((k.written l).find? fun e ↦ Memory.refersTo field id e.2).map (fun e ↦ (k, e.1)) =
      (l.find? fun r ↦ id ∈ refs r).map fun r ↦ (k, k.key r) := by
  have hrefers (r : k.Resource) :
      Memory.refersTo field id (k.encode r) = decide (id ∈ refs r) :=
    Bool.eq_iff_iff.2 ((Inventory.refersTo_texts (h r)).trans decide_eq_true_iff.symm)
  rw [Kind.written, List.find?_map, Option.map_map]
  simp only [Function.comp_def, hrefers]

theorem referrer?_eq_holder? (v : Inventory) (kind : Kind) (id : String) :
    Memory.referrer? v.collections kind id = v.holder? id kind := by
  have hmap {α β : Type} (o : Option α) (f : α → β) : (o.bind fun a ↦ some (f a)) = o.map f := by
    cases o <;> rfl
  cases kind with
  | port | portChain => rfl
  | portPair =>
    refine (hmap _ _).trans (find?_holder .portPairGroup (fun g ↦ ?_) _)
    simp [Kind.encode, PortPairGroup.encode, Dict.get?_ofFields, Entries.lookup_cons]
  | portPairGroup =>
    refine (hmap _ _).trans (find?_holder .portChain (fun c ↦ ?_) _)
    simp [Kind.encode, PortChain.encode, Dict.get?_ofFields, Entries.lookup_cons]
  | flowClassifier =>
    refine (hmap _ _).trans (find?_holder .portChain (fun c ↦ ?_) _)
    simp [Kind.encode, PortChain.encode, Dict.get?_ofFields, Entries.lookup_cons]

theorem holder?_eq_none {v : Inventory} : v.holder? id kind = none ↔ v.Free id kind := by
  rw [← referrer?_eq_holder?, Inventory.referrer?_eq_none_iff]

theorem replace_of_split (hs : s.Sound ids) (h : s.get kind = l₁ ++ r :: l₂) (r' : kind.Resource) :
    s.replace kind (kind.key r) r' = s.put kind (l₁ ++ r' :: l₂) := by
  obtain ⟨hleft, hright⟩ := hs.keys_ne h
  have hkeep {l : List kind.Resource} (hl : ∀ x ∈ l, kind.key x ≠ kind.key r) :
      (l.map fun x ↦ if kind.key x = kind.key r then r' else x) = l :=
    (List.map_congr_left fun x hx ↦ if_neg (hl x hx)).trans (List.map_id l)
  rw [replace, h, List.map_append, List.map_cons, hkeep hleft, hkeep hright, if_pos rfl]

theorem drop_of_split (hs : s.Sound ids) (h : s.get kind = l₁ ++ r :: l₂) :
    s.drop kind (kind.key r) = s.put kind (l₁ ++ l₂) := by
  obtain ⟨hleft, hright⟩ := hs.keys_ne h
  have hkeep {l : List kind.Resource} (hl : ∀ x ∈ l, kind.key x ≠ kind.key r) :
      (l.filter fun x ↦ kind.key x ≠ kind.key r) = l :=
    List.filter_eq_self.2 fun x hx ↦ decide_eq_true (hl x hx)
  rw [drop, h, List.filter_append, List.filter_cons_of_neg (by simp), hkeep hleft, hkeep hright]

theorem drop_absent (h : s.find? kind id = none) : s.drop kind id = s := by
  have hall : (s.get kind).filter (fun x ↦ kind.key x ≠ id) = s.get kind :=
    List.filter_eq_self.2 fun x hx ↦ decide_eq_true (Inventory.find?_eq_none.1 h x hx)
  rw [drop, hall]
  cases kind <;> rfl

theorem serve_get (s : Service) (kind : Kind) (hid : id ≠ "") :
    Demand.serve ids (.get kind id) (s.memory []) = (.ok (s.find? kind id), s.memory []) :=
  (Atomic.get_of_ne s kind hid).run_eq

theorem serve_list (s : Service) (kind : Kind) (query : Query) :
    Demand.serve ids (.list kind query) (s.memory []) =
      (.ok ((s.get kind).filter fun r ↦ Memory.satisfies (kind.encode r) query), s.memory []) :=
  (Atomic.list s kind query).run_eq

theorem serve_create (s : Service) (kind : Kind) (r : kind.Resource)
    (hfresh : ∀ x ∈ s.get kind, kind.key x ≠ ids (s.drawn + 1)) :
    Demand.serve ids (.create kind r) (s.memory []) =
      (.ok (s.issue ids kind r), (s.add ids kind r).memory []) :=
  (Atomic.createFresh kind hfresh r).run_eq

theorem serve_update (hs : s.Sound ids) (kind : Kind) (hid : id ≠ "") (change : kind.Resource) :
    Demand.serve ids (.update kind id change) (s.memory []) =
      ((s.answer ids (.update kind id change)).1,
        (s.answer ids (.update kind id change)).2.memory []) := by
  rw [answer]
  cases hfind : s.find? kind id with
  | none =>
    have hrefused : Atomic ids .never (Gateway.update kind id change) s
        (.error (Gateway.callFailure kind .update
          { status := some 404, message := Memory.absentText kind id })) s := by
      rw [Gateway.update, Gateway.requireId, if_neg hid]
      exact Ends.call (answers_update_absent hfind change) (fun _ hf ↦ hf.elim) Atomic.fail
    exact hrefused.run_eq
  | some r =>
    obtain ⟨rfl, l₁, l₂, hsplit⟩ := Inventory.find?_eq_some hfind
    dsimp only
    rw [replace_of_split hs hsplit]
    exact (Atomic.update hs kind hsplit hid change).run_eq

theorem atomic_deleteRaw {response : ActionResponse} (hid : id ≠ "")
    (h : Answers ids (.delete kind id) s (.ok response) t) :
    Atomic ids .never (Gateway.deleteRaw kind id) s (.ok response) t := by
  rw [Gateway.deleteRaw, Gateway.requireId, if_neg hid]
  exact Ends.call h (fun _ hf ↦ hf.elim) (Ends.done ⟨rfl, rfl⟩)

theorem answers_removal (hs : s.Sound ids) (kind : Kind) (id : String) :
    Answers ids (.delete kind id) s (.ok (s.removal kind id).1) (s.removal kind id).2 := by
  rw [removal]
  cases hholder : s.holder? id kind with
  | some owner => exact answers_delete_owned ((referrer?_eq_holder? _ kind id).trans hholder)
  | none =>
    have hfree : s.Free id kind := holder?_eq_none.1 hholder
    cases hfind : s.find? kind id with
    | none => exact answers_delete_absent hfree hfind
    | some r =>
      obtain ⟨rfl, l₁, l₂, hsplit⟩ := Inventory.find?_eq_some hfind
      dsimp only
      rw [drop_of_split hs hsplit]
      exact answers_delete hs hsplit hfree

theorem serve_deleteRaw (hs : s.Sound ids) (kind : Kind) (hid : id ≠ "") :
    Demand.serve ids (.deleteRaw kind id) (s.memory []) =
      (.ok (s.removal kind id).1, (s.removal kind id).2.memory []) :=
  (atomic_deleteRaw hid (answers_removal hs kind id)).run_eq

theorem serve_delete (hs : s.Sound ids) (kind : Kind) (hid : id ≠ "") :
    Demand.serve ids (.delete kind id) (s.memory []) =
      ((s.answer ids (.delete kind id)).1, (s.answer ids (.delete kind id)).2.memory []) := by
  have hraw := calm_step (f := fun response ↦
    if response.isSuccess || response.isNotFound then pure ()
    else .fail (.callFailure .delete kind.displayName (some response.code)
      (response.fault.getD ""))) (atomic_deleteRaw hid (answers_removal hs kind id))
  have hserve : Demand.serve ids (.delete kind id) (s.memory []) = _ := hraw
  rw [hserve, answer, removal]
  cases hholder : s.holder? id kind with
  | some owner => rfl
  | none =>
    cases hfind : s.find? kind id with
    | none =>
      dsimp only
      rw [drop_absent hfind]
      rfl
    | some r => rfl

theorem store_port (s : Service) (p : Port) (id : String)
    (hfresh : ∀ x ∈ s.ports, Kind.port.key x ≠ id) :
    (s.memory []).store .port id (p.encode.insert "id" (.str id)) =
      (s.put .port (s.ports ++ [{ p with id := some id }])).memory [] := by
  rw [p.encode_named]
  exact store_memory_new .port { p with id := some id } [] hfresh

theorem serve_seedPort (s : Service) (p : Port)
    (hfresh : ∀ x ∈ s.ports, Kind.port.key x ≠ (s.seedPort ids p).1) :
    Demand.serve ids (.seedPort p) (s.memory []) =
      (.ok (s.seedPort ids p).1, (s.seedPort ids p).2.memory []) := by
  rw [Demand.serve, Memory.seedPort]
  rw [seedPort] at hfresh ⊢
  cases hid : p.id with
  | some id =>
    rw [hid] at hfresh
    have hsame : ({ p with id := some id } : Port) = p := by rw [← hid]
    have hstore := store_port s p id hfresh
    rw [hsame] at hstore
    exact congrArg (Prod.mk _) hstore
  | none =>
    rw [hid] at hfresh
    have hstore := store_port { s with drawn := s.drawn + 1 } p (ids (s.drawn + 1)) hfresh
    exact congrArg (Prod.mk _) hstore

end Service

def Inventory.Unused (v : Inventory) (pending : List String) : Prop :=
  ∀ kind, ∀ r ∈ v.get kind, kind.key r ∉ pending

namespace Inventory.Unused

variable {v : Inventory} {pending : List String} {kind : Kind} {id : String} {r : kind.Resource}
  {l : List kind.Resource}

theorem set (h : v.Unused pending) (hl : ∀ r ∈ l, kind.key r ∉ pending) :
    (v.set kind l).Unused pending := by
  intro k x hx
  by_cases hk : k = kind
  · subst hk
    rw [get_set_self] at hx
    exact hl x hx
  · rw [get_set_of_ne v hk] at hx
    exact h k x hx

theorem append (h : v.Unused (id :: pending)) (hid : id ∉ pending) (hr : kind.key r = id) :
    (v.set kind (v.get kind ++ [r])).Unused pending := by
  have hlater : v.Unused pending := fun k x hx hmem ↦ h k x hx (List.mem_cons_of_mem id hmem)
  refine hlater.set fun x hx ↦ ?_
  obtain hx | hx := List.mem_append.1 hx
  · exact hlater kind x hx
  · rwa [List.mem_singleton.1 hx, hr]

theorem ne (h : v.Unused (id :: pending)) (kind : Kind) : ∀ x ∈ v.get kind, kind.key x ≠ id :=
  fun x hx he ↦ h kind x hx (he ▸ List.mem_cons_self)

end Inventory.Unused

namespace Service

variable {ids : Nat → String} {s : Service} {kind : Kind} {id : String} {pending : List String}

structure Ready (ids : Nat → String) (s : Service) (pending : List String) : Prop where
  sound : s.Sound ids
  unused : s.Unused pending

namespace Ready

theorem append_port (h : s.Ready ids (id :: pending)) (hid : id ∉ pending) {p : Port}
    (hp : p.id = some id) : (s.put .port (s.ports ++ [p])).Ready ids pending where
  sound := by
    refine h.sound.putPorts (fun x hx ↦ ?_) ?_
    · obtain hx | hx := List.mem_append.1 hx
      · exact h.sound.identified .port x hx
      · rw [List.mem_singleton.1 hx, hp]
        exact Option.some_ne_none id
    · have hkey : Kind.port.key p = id := Kind.key_eq hp
      rw [List.map_append, List.nodup_append]
      refine ⟨h.sound.distinct .port, by simp, fun x hx y hy ↦ ?_⟩
      obtain ⟨q, hq, rfl⟩ := List.mem_map.1 hx
      rw [List.map_singleton, List.mem_singleton, hkey] at hy
      exact hy ▸ h.unused.ne .port q hq
  unused := h.unused.append hid (Kind.key_eq hp)

theorem seedPort {p : Port}
    (h : s.Ready ids (((Demand.seedPort p).placed ids s.drawn).1 ++ pending))
    (hnodup : (((Demand.seedPort p).placed ids s.drawn).1 ++ pending).Nodup) :
    (∀ x ∈ s.ports, Kind.port.key x ≠ (s.seedPort ids p).1) ∧
      (s.seedPort ids p).2.Ready ids pending := by
  rw [Demand.placed] at h hnodup
  rw [Service.seedPort]
  cases hp : p.id with
  | some id =>
    rw [hp] at h hnodup
    exact ⟨h.unused.ne .port, h.append_port (List.nodup_cons.1 hnodup).1 hp⟩
  | none =>
    rw [hp] at h hnodup
    have hdrawn : ({ s with drawn := s.drawn + 1 } : Service).Ready ids
        (ids (s.drawn + 1) :: pending) := ⟨h.sound.draw, h.unused⟩
    exact ⟨h.unused.ne .port, hdrawn.append_port (List.nodup_cons.1 hnodup).1 rfl⟩

theorem create (h : s.Ready ids (ids (s.drawn + 1) :: pending))
    (hid : ids (s.drawn + 1) ∉ pending) (kind : Kind) (r : kind.Resource) :
    (s.add ids kind r).Ready ids pending where
  sound := h.sound.addFresh kind (h.unused.ne kind) r
  unused := h.unused.append hid (Kind.key_eq (Kind.idOf_created _ _ _ _ _))

theorem replace (h : s.Ready ids pending) {r : kind.Resource} (hr : s.find? kind id = some r)
    (change : kind.Resource) : (s.replace kind id (kind.amended r change)).Ready ids pending := by
  obtain ⟨rfl, l₁, l₂, hsplit⟩ := Inventory.find?_eq_some hr
  rw [replace_of_split h.sound hsplit]
  refine ⟨h.sound.amend kind hsplit (Kind.idOf_amended kind r change), h.unused.set fun x hx ↦ ?_⟩
  obtain hx | hx := List.mem_append.1 hx
  · exact h.unused kind x (hsplit ▸ List.mem_append_left _ hx)
  obtain rfl | hx := List.mem_cons.1 hx
  · rw [Kind.key, Kind.idOf_amended, ← Kind.key]
    exact h.unused kind r (hsplit ▸ List.mem_append_right _ List.mem_cons_self)
  · exact h.unused kind x (hsplit ▸ List.mem_append_right _ (List.mem_cons_of_mem r hx))

theorem drop (h : s.Ready ids pending) (kind : Kind) (id : String) :
    (s.drop kind id).Ready ids pending := by
  have hsub : ((s.get kind).filter fun x ↦ kind.key x ≠ id).Sublist (s.get kind) :=
    List.filter_sublist
  refine ⟨h.sound.put (fun x hx ↦ ⟨x, hsub.subset hx, rfl⟩)
    ((h.sound.distinct kind).sublist (hsub.map _)), h.unused.set fun x hx ↦ ?_⟩
  exact h.unused kind x (hsub.subset hx)

theorem removal (h : s.Ready ids pending) (kind : Kind) (id : String) :
    (s.removal kind id).2.Ready ids pending := by
  rw [Service.removal]
  split
  · exact h
  · exact h
  · exact h.drop kind id

end Ready

theorem drawn_answer (d : Demand) : (s.answer ids d).2.drawn = (d.placed ids s.drawn).2 := by
  cases d with
  | seedPort p =>
    rw [answer, Demand.placed, seedPort]
    cases p.id <;> rfl
  | update kind id change =>
    rw [answer]
    split <;> rfl
  | delete kind id =>
    rw [answer]
    split <;> rfl
  | deleteRaw kind id =>
    rw [answer, removal]
    split <;> rfl
  | create | get | list => rfl

/-- One demand: the memory answers as the lists do and becomes what they become. -/
theorem Ready.step {d : Demand} (h : s.Ready ids ((d.placed ids s.drawn).1 ++ pending))
    (hnodup : ((d.placed ids s.drawn).1 ++ pending).Nodup) (hd : d.Named) :
    d.serve ids (s.memory []) = ((s.answer ids d).1, (s.answer ids d).2.memory []) ∧
      (s.answer ids d).2.Ready ids pending := by
  cases d with
  | seedPort p =>
    obtain ⟨hfresh, hready⟩ := h.seedPort hnodup
    exact ⟨serve_seedPort s p hfresh, hready⟩
  | create kind r =>
    have hid := (List.nodup_cons.1 hnodup).1
    exact ⟨serve_create s kind r (h.unused.ne kind), h.create hid kind r⟩
  | get kind id => exact ⟨serve_get s kind hd, h⟩
  | list kind query => exact ⟨serve_list s kind query, h⟩
  | update kind id change =>
    refine ⟨serve_update h.sound kind hd change, ?_⟩
    rw [answer]
    split
    · exact h
    · rename_i r hr
      exact h.replace hr change
  | delete kind id =>
    refine ⟨serve_delete h.sound kind hd, ?_⟩
    rw [answer]
    split
    · exact h
    · exact h.drop kind id
  | deleteRaw kind id => exact ⟨serve_deleteRaw h.sound kind hd, h.removal kind id⟩

theorem ready_empty (ids : Nat → String) (project : String) (pending : List String) :
    ({ project := project } : Service).Ready ids pending := by
  refine ⟨⟨?_, ?_, ?_⟩, ?_⟩
  · intro kind r hr
    cases kind <;> exact absurd hr List.not_mem_nil
  · intro kind
    cases kind <;> exact List.nodup_nil
  · intro kind _ r hr
    cases kind <;> exact absurd hr List.not_mem_nil
  · intro kind r hr
    cases kind <;> exact absurd hr List.not_mem_nil

end Service

namespace Demand

variable {ids : Nat → String} {s : Service}

theorem results_ready {demands : List Demand} (h : s.Ready ids (placements ids demands s.drawn))
    (hplaced : (placements ids demands s.drawn).Nodup) (hnamed : ∀ d ∈ demands, d.Named) :
    results (serve ids) demands (s.memory []) =
      ((results (Service.answer ids) demands s).1,
        (results (Service.answer ids) demands s).2.memory []) := by
  induction demands generalizing s with
  | nil => rfl
  | cons d rest ih =>
    obtain ⟨hd, hrest⟩ := List.forall_mem_cons.1 hnamed
    obtain ⟨hserve, hready⟩ := h.step hplaced hd
    rw [← Service.drawn_answer] at hready
    have hdistinct := (List.nodup_append.1 hplaced).2.1
    rw [← Service.drawn_answer] at hdistinct
    have hlater := ih hready hdistinct hrest
    simp only [results, hserve, hlater]

/-- Whatever is asked of the gateway over a memory, each answer is that of the lists of resources,
as long as no two resources are added under one id. -/
theorem results_agree (ids : Nat → String) (project : String) (demands : List Demand)
    (hplaced : (placements ids demands 0).Nodup) (hnamed : ∀ d ∈ demands, d.Named) :
    results (serve ids) demands { project } =
      ((results (Service.answer ids) demands { project }).1,
        (results (Service.answer ids) demands { project }).2.memory []) :=
  results_ready (Service.ready_empty ids project _) hplaced hnamed

def errands : List Demand :=
  [.seedPort { id := some "in" }, .create .portPair { ingress := some "in" },
    .create .portPairGroup { portPairs := [numberedId 1] }, .delete .portPair (numberedId 1),
    .update .portPairGroup (numberedId 2) { name := some "empty" },
    .delete .portPair (numberedId 1), .update .portPair (numberedId 1) { name := some "gone" },
    .list .portPairGroup []]

theorem results_agree_errands :
    (placements numberedId errands 0).Nodup ∧ (∀ d ∈ errands, d.Named) ∧
      results (serve numberedId) errands { project := "p" } =
        ((results (Service.answer numberedId) errands { project := "p" }).1,
          (results (Service.answer numberedId) errands { project := "p" }).2.memory []) :=
  ⟨by decide +kernel, by decide +kernel,
    results_agree numberedId "p" errands (by decide +kernel) (by decide +kernel)⟩

end Demand

end TrafficSteering
