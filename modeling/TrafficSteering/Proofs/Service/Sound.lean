import TrafficSteering.Proofs.Service.Inventory

namespace TrafficSteering

open Json

namespace Inventory

variable {v : Inventory} {kind : Kind} {id : String} {r : kind.Resource}

def Free (v : Inventory) (id : String) : Kind → Prop
  | .portPair => ∀ g ∈ v.portPairGroups, id ∉ g.portPairs
  | .portPairGroup => ∀ c ∈ v.portChains, id ∉ c.portPairGroups
  | .flowClassifier => ∀ c ∈ v.portChains, id ∉ c.flowClassifiers
  | .port | .portChain => True

def Stores (v : Inventory) (kind : Kind) (id : String) : Prop :=
  ∃ r ∈ v.get kind, kind.idOf r = some id

theorem find?_eq_some (h : v.find? kind id = some r) :
    kind.key r = id ∧ ∃ l₁ l₂, v.get kind = l₁ ++ r :: l₂ := by
  obtain ⟨hkey, l₁, l₂, hsplit, -⟩ := List.find?_eq_some_iff_append.1 h
  exact ⟨by simpa using hkey, l₁, l₂, hsplit⟩

theorem find?_eq_none : v.find? kind id = none ↔ ∀ r ∈ v.get kind, kind.key r ≠ id := by
  simp [find?]

theorem find?_congr (kind : Kind) {w : Inventory} (h : w.get kind = v.get kind) (id : String) :
    w.find? kind id = v.find? kind id := by rw [find?, find?, h]

theorem stores_congr (kind : Kind) {w : Inventory} (h : w.get kind = v.get kind) :
    w.Stores kind id ↔ v.Stores kind id := by rw [Stores, Stores, h]

theorem refersTo_texts {d : Object} {field : String} {l : List String}
    (h : d.get? field = some (texts l)) : Memory.refersTo field id d = true ↔ id ∈ l := by
  simp [Memory.refersTo, h, texts, Json.text?]

theorem find?_refersTo (kind : Kind) {field : String} {refs : kind.Resource → List String}
    (h : ∀ r, (kind.encode r).get? field = some (texts (refs r))) (l : List kind.Resource) :
    ((kind.written l).find? fun e ↦ Memory.refersTo field id e.2) = none ↔
      ∀ r ∈ l, id ∉ refs r := by
  rw [Kind.written, List.find?_map, Option.map_eq_none_iff, List.find?_eq_none]
  refine forall₂_congr fun r _ ↦ not_congr ?_
  exact refersTo_texts (h r)

theorem referrer?_eq_none_iff : Memory.referrer? v.collections kind id = none ↔ v.Free id kind := by
  have hbind {α β : Type} (o : Option α) (f : α → β) :
      (o.bind fun a ↦ some (f a)) = none ↔ o = none := by cases o <;> simp
  cases kind with
  | port | portChain => simp [Memory.referrer?, Memory.owner?, Free]
  | portPair =>
    refine (hbind _ _).trans (find?_refersTo .portPairGroup (fun g ↦ ?_) _)
    simp [Kind.encode, PortPairGroup.encode, Dict.get?_ofFields, Entries.lookup_cons]
  | portPairGroup =>
    refine (hbind _ _).trans (find?_refersTo .portChain (fun c ↦ ?_) _)
    simp [Kind.encode, PortChain.encode, Dict.get?_ofFields, Entries.lookup_cons]
  | flowClassifier =>
    refine (hbind _ _).trans (find?_refersTo .portChain (fun c ↦ ?_) _)
    simp [Kind.encode, PortChain.encode, Dict.get?_ofFields, Entries.lookup_cons]

end Inventory

namespace Service

variable {ids : Nat → String} {s : Service} {kind : Kind} {l l₁ l₂ : List kind.Resource}
  {r r' : kind.Resource}

@[simp] theorem get_put_self (s : Service) (kind : Kind) (l : List kind.Resource) :
    (s.put kind l).get kind = l := Inventory.get_set_self _ _ _

theorem get_put_of_ne (s : Service) {kind k : Kind} (h : k ≠ kind) (l : List kind.Resource) :
    (s.put kind l).get k = s.get k := Inventory.get_set_of_ne _ h _

@[simp] theorem put_put (s : Service) (kind : Kind) (l l' : List kind.Resource) :
    (s.put kind l).put kind l' = s.put kind l' := by cases kind <;> rfl

theorem get_add (s : Service) (kind : Kind) (r : kind.Resource) :
    (s.add ids kind r).get kind = s.get kind ++ [s.issue ids kind r] := get_put_self s kind _

def fetch (s : Service) (kind : Kind) (id : String) : Except Error (Option kind.Resource) :=
  if id = "" then .error (.invalidArgument (kind.displayName ++ " Id")) else .ok (s.find? kind id)

theorem fetch_of_ne {id : String} (h : id ≠ "") : s.fetch kind id = .ok (s.find? kind id) :=
  if_neg h

namespace Sound

theorem keys_ne (hs : s.Sound ids) (h : s.get kind = l₁ ++ r :: l₂) :
    (∀ x ∈ l₁, kind.key x ≠ kind.key r) ∧ ∀ x ∈ l₂, kind.key x ≠ kind.key r := by
  have hnodup := hs.distinct kind
  rw [h, List.map_append, List.map_cons] at hnodup
  obtain ⟨-, hright, hleft⟩ := List.nodup_append.1 hnodup
  refine ⟨fun x hx he ↦ ?_, fun x hx he ↦ ?_⟩
  · exact hleft _ (List.mem_map_of_mem hx) _ (by simp) he
  · exact (List.nodup_cons.1 hright).1 (he ▸ List.mem_map_of_mem hx)

theorem split_unique (hs : s.Sound ids) (h : s.get kind = l₁ ++ r :: l₂) {l₁' l₂'} {r'}
    (h' : s.get kind = l₁' ++ r' :: l₂') (hkey : kind.key r' = kind.key r) :
    l₁' = l₁ ∧ r' = r ∧ l₂' = l₂ := by
  have hleft := (hs.keys_ne h).1
  have hleft' := (hs.keys_ne h').1
  have heq := h.symm.trans h'
  clear h h'
  induction l₁ generalizing l₁' with
  | nil =>
    cases l₁' with
    | nil =>
      obtain ⟨hr, hl₂⟩ := List.cons.inj heq
      exact ⟨rfl, hr.symm, hl₂.symm⟩
    | cons x l₁' =>
      obtain ⟨hx, -⟩ := List.cons.inj heq
      exact absurd (hx ▸ hkey.symm) (hleft' x (by simp))
  | cons x l₁ ih =>
    cases l₁' with
    | nil =>
      obtain ⟨hx, -⟩ := List.cons.inj heq
      exact absurd (hx ▸ hkey) (hleft x (by simp))
    | cons y l₁' =>
      obtain ⟨hx, htail⟩ := List.cons.inj heq
      obtain ⟨hl₁, hr, hl₂⟩ := ih (fun z hz ↦ hleft z (List.mem_cons_of_mem x hz))
        (fun z hz ↦ hleft' z (List.mem_cons_of_mem y hz)) htail
      exact ⟨by rw [hx, hl₁], hr, hl₂⟩

theorem find?_of_split (hs : s.Sound ids) (h : s.get kind = l₁ ++ r :: l₂) :
    s.find? kind (kind.key r) = some r := by
  refine List.find?_eq_some_iff_append.2 ⟨by simp, l₁, l₂, h, fun x hx ↦ ?_⟩
  simpa using (hs.keys_ne h).1 x hx

theorem find?_of_mem (hs : s.Sound ids) (kind : Kind) {r : kind.Resource} (h : r ∈ s.get kind) :
    s.find? kind (kind.key r) = some r := by
  obtain ⟨l₁, l₂, hsplit⟩ := List.append_of_mem h
  exact hs.find?_of_split hsplit

theorem idOf_eq (hs : s.Sound ids) (kind : Kind) {r : kind.Resource} (h : r ∈ s.get kind) :
    kind.idOf r = some (kind.key r) := by
  obtain ⟨id, hid⟩ := Option.ne_none_iff_exists'.1 (hs.identified kind r h)
  rw [hid, Kind.key_eq hid]

theorem stores_of_find? (hs : s.Sound ids) {id : String} (h : s.find? kind id = some r) :
    s.Stores kind id := by
  obtain ⟨rfl, l₁, l₂, hsplit⟩ := Inventory.find?_eq_some h
  have hr : r ∈ s.get kind := by simp [hsplit]
  exact ⟨r, hr, hs.idOf_eq kind hr⟩

theorem find?_eq_none_iff (hs : s.Sound ids) {id : String} :
    s.find? kind id = none ↔ ¬ s.Stores kind id := by
  rw [Inventory.find?_eq_none]
  constructor
  · rintro h ⟨r, hr, hid⟩
    exact h r hr (Kind.key_eq hid)
  · intro h r hr hkey
    exact h ⟨r, hr, hkey ▸ hs.idOf_eq kind hr⟩

theorem put (hs : s.Sound ids) (hl : ∀ r ∈ l, ∃ x ∈ s.get kind, kind.idOf x = kind.idOf r)
    (hnodup : (l.map kind.key).Nodup) : (s.put kind l).Sound ids where
  identified k r hr := by
    by_cases hk : k = kind
    · subst hk
      obtain ⟨x, hx, he⟩ := hl r (by simpa using hr)
      exact he ▸ hs.identified k x hx
    · exact hs.identified k r (by rwa [get_put_of_ne s hk] at hr)
  distinct k := by
    by_cases hk : k = kind
    · subst hk
      simpa using hnodup
    · rw [get_put_of_ne s hk]
      exact hs.distinct k
  drawn k hport r hr := by
    by_cases hk : k = kind
    · subst hk
      obtain ⟨x, hx, he⟩ := hl r (by simpa using hr)
      obtain ⟨n, hn, hid⟩ := hs.drawn k hport x hx
      exact ⟨n, hn, by rw [Kind.key, ← he, ← Kind.key, hid]⟩
    · exact hs.drawn k hport r (by rwa [get_put_of_ne s hk] at hr)

theorem putPorts (hs : s.Sound ids) {l : List Port} (hid : ∀ p ∈ l, p.id ≠ none)
    (hnodup : (l.map Kind.port.key).Nodup) : (s.put .port l).Sound ids where
  identified kind r hr := by
    cases kind with
    | port => exact hid r hr
    | _ => exact hs.identified _ r hr
  distinct kind := by
    cases kind with
    | port => exact hnodup
    | _ => exact hs.distinct _
  drawn kind hport r hr := by
    cases kind with
    | port => exact absurd rfl hport
    | _ => exact hs.drawn _ hport r hr

theorem amend (hs : s.Sound ids) (kind : Kind) {l₁ l₂ : List kind.Resource}
    {r r' : kind.Resource} (h : s.get kind = l₁ ++ r :: l₂) (hid : kind.idOf r' = kind.idOf r) :
    (s.put kind (l₁ ++ r' :: l₂)).Sound ids := by
  refine hs.put (fun x hx ↦ ?_) ?_
  · rcases List.mem_append.1 hx with hx | hx
    · exact ⟨x, by simp [h, hx], rfl⟩
    · rcases List.mem_cons.1 hx with rfl | hx
      · exact ⟨r, by simp [h], hid.symm⟩
      · exact ⟨x, by simp [h, hx], rfl⟩
  · have hkey : kind.key r' = kind.key r := by rw [Kind.key, hid, Kind.key]
    simpa [h, hkey] using hs.distinct kind

theorem remove (hs : s.Sound ids) (h : s.get kind = l₁ ++ r :: l₂) :
    (s.put kind (l₁ ++ l₂)).Sound ids := by
  have hsub : List.Sublist (l₁ ++ l₂) (s.get kind) := by
    rw [h]
    exact List.Sublist.append_left (List.sublist_cons_self r l₂) l₁
  exact hs.put (fun x hx ↦ ⟨x, hsub.subset hx, rfl⟩) ((hs.distinct kind).sublist (hsub.map _))

theorem draw (hs : s.Sound ids) : ({ s with drawn := s.drawn + 1 } : Service).Sound ids where
  identified := hs.identified
  distinct := hs.distinct
  drawn k hport r hr := by
    obtain ⟨n, hn, hid⟩ := hs.drawn k hport r hr
    exact ⟨n, Nat.le_succ_of_le hn, hid⟩

theorem fresh (hs : s.Sound ids) (hids : Function.Injective ids) (kind : Kind)
    (hport : kind ≠ .port) :
    ∀ x ∈ s.get kind, kind.key x ≠ ids (s.drawn + 1) := by
  intro x hx he
  obtain ⟨n, hn, hid⟩ := hs.drawn kind hport x hx
  have := hids (hid.symm.trans he)
  omega

theorem addFresh (hs : s.Sound ids) (kind : Kind)
    (hfresh : ∀ x ∈ s.get kind, kind.key x ≠ ids (s.drawn + 1)) (r : kind.Resource) :
    (s.add ids kind r).Sound ids where
  identified k x hx := by
    by_cases hk : k = kind
    · subst hk
      rw [get_add, List.mem_append, List.mem_singleton] at hx
      rcases hx with hx | rfl
      · exact hs.identified k x hx
      · simp [issue]
    · exact hs.identified k x (get_put_of_ne s hk _ ▸ hx)
  distinct k := by
    by_cases hk : k = kind
    · subst hk
      rw [get_add, List.map_append, List.nodup_append]
      refine ⟨hs.distinct k, by simp, ?_⟩
      intro x hx y hy
      obtain ⟨z, hz, rfl⟩ := List.mem_map.1 hx
      have hy : y = ids (s.drawn + 1) := by simpa [issue, Kind.key] using hy
      exact hy ▸ hfresh z hz
    · have hget : (s.add ids kind r).get k = s.get k := get_put_of_ne s hk _
      exact hget ▸ hs.distinct k
  drawn k hport x hx := by
    by_cases hk : k = kind
    · subst hk
      rw [get_add, List.mem_append, List.mem_singleton] at hx
      rcases hx with hx | rfl
      · obtain ⟨n, hn, hid⟩ := hs.drawn k hport x hx
        exact ⟨n, Nat.le_succ_of_le hn, hid⟩
      · exact ⟨s.drawn + 1, Nat.le_refl _, by simp [issue, Kind.key]⟩
    · obtain ⟨n, hn, hid⟩ := hs.drawn k hport x (get_put_of_ne s hk _ ▸ hx)
      exact ⟨n, Nat.le_succ_of_le hn, hid⟩

theorem add (hs : s.Sound ids) (hids : Function.Injective ids) (kind : Kind) (hport : kind ≠ .port)
    (r : kind.Resource) : (s.add ids kind r).Sound ids :=
  hs.addFresh kind (hs.fresh hids kind hport) r

end Sound

end Service

end TrafficSteering
