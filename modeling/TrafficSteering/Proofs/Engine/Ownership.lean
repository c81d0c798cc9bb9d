import TrafficSteering.Proofs.Engine.Conduct

namespace TrafficSteering

open Json Engine HookTag

variable {key : String} {ids : Nat → String} {m n : Memory} {kind : Kind} {d v w : Object}

/-- The fields that the engine writes to objects of the kind. -/
def Kind.owned : Kind → List String
  | port => ["binding:profile"]
  | portPairGroup => ["port_pairs"]
  | portChain => ["port_pair_groups", "flow_classifiers"]
  | portPair | flowClassifier => []

/-- The entries of a profile as it is stored; one that is absent or null has none. -/
def Port.entries? : Option Json → Option Object
  | none | some .null => some Dict.empty
  | some value => value.object?

/-- The profile is as it was, or else all its entries but the one under the key are. -/
inductive Retagged (key : String) (x : Option Json) : Option Json → Prop
  | kept : Retagged key x x
  | entry {old new : Object} (hold : Port.entries? x = some old)
      (hnew : ∀ k, k ≠ key → new.get? k = old.get? k) : Retagged key x (some (ofObject new))

/-- Of the objects that both memories hold, only what the engine owns may differ; and both hold the
same ports in the same order. -/
structure Memory.Framed (key : String) (m n : Memory) : Prop where
  ports : n.collections.ports.map Prod.fst = m.collections.ports.map Prod.fst
  kept : ∀ kind id v w, (m.collections.get kind).get? id = some v →
    (n.collections.get kind).get? id = some w →
      ∀ name, name ∉ kind.owned → w.get? name = v.get? name
  profiles : ∀ id v w, m.collections.ports.get? id = some v → n.collections.ports.get? id = some w →
    Retagged key (v.get? "binding:profile") (w.get? "binding:profile")

theorem Port.entries?_ofObject (d : Object) : Port.entries? (some (ofObject d)) = some d :=
  congrArg some (Dict.ofList_entries d)

/-- Every field of the change says what the object holds already, but for what the engine owns. -/
structure Upholds (key : String) (kind : Kind) (v change : Object) : Prop where
  kept : ∀ name, name ∉ kind.owned → ∀ x, change.get? name = some x → v.get? name = some x
  profile : kind = .port → ∀ x, change.get? "binding:profile" = some x →
    Retagged key (v.get? "binding:profile") (some x)

/-- What has been read under an id agrees with what the memory held under it at the beginning, and
so does what is sent. -/
def owning (key : String) (m : Memory) : Protocol where
  Id _ _ := True
  Res
    | .port, p => ∀ v, m.collections.ports.get? (Kind.port.key p) = some v →
        ∃ old, Port.entries? (v.get? "binding:profile") = some old ∧
          ∀ k, k ≠ key → (p.profile.getD Dict.empty).get? k = old.get? k
    | .portPairGroup, g => ∀ v,
        m.collections.portPairGroups.get? (Kind.portPairGroup.key g) = some v →
          Upholds key .portPairGroup v (Kind.portPairGroup.encode g.clearServerFields)
    | .portChain, c => ∀ v, m.collections.portChains.get? (Kind.portChain.key c) = some v →
        Upholds key .portChain v (Kind.portChain.encode c.clearServerFields)
    | .portPair, _ | .flowClassifier, _ => True
  Sends
    | .get _ _ | .list _ _ => True
    | .create kind _ | .delete kind _ => kind ≠ .port
    | .update kind id body => ∃ change, body.object? = some change ∧
        ∀ v, (m.collections.get kind).get? id = some v → Upholds key kind v change

namespace Upholds

variable {change change' : Object}

theorem of_kept (hkind : kind ≠ .port)
    (h : ∀ name, name ∉ kind.owned → ∀ x, change.get? name = some x → v.get? name = some x) :
    Upholds key kind v change := ⟨h, fun hport ↦ absurd hport hkind⟩

theorem congr (h : Upholds key kind v change) (hkind : kind ≠ .port)
    (hsame : ∀ name, name ∉ kind.owned → change'.get? name = change.get? name) :
    Upholds key kind v change' :=
  of_kept hkind fun name hname x hx ↦ h.kept name hname x (hsame name hname ▸ hx)

end Upholds

theorem get?_retag (d : Object) (hookId : Option String) {k : String} (hk : k ≠ key) :
    (retag key d hookId).get? k = d.get? k := by
  cases hookId with
  | none => rw [retag, Dict.get?_erase, if_neg hk]
  | some hookId => rw [retag, Dict.get?_insert, if_neg hk]

def labels (name description : Option String) (k : String) : Option Json :=
  if k = "name" then name.map .str else if k = "description" then description.map .str else none

theorem PortPairGroup.get?_sent (g : PortPairGroup) {k : String}
    (hk : k ∉ Kind.portPairGroup.owned) :
    (Kind.portPairGroup.encode g.clearServerFields).get? k = labels g.name g.description k := by
  have hpairs : k ≠ "port_pairs" := fun h ↦ hk (h ▸ List.mem_singleton_self _)
  refine (Dict.get?_ofFields (by simp) k).trans ?_
  simp only [clearServerFields, Entries.lookup_cons, hpairs, labels]
  split_ifs <;> simp_all

theorem PortChain.get?_sent (c : PortChain) {k : String} (hk : k ∉ Kind.portChain.owned) :
    (Kind.portChain.encode c.clearServerFields).get? k = labels c.name c.description k := by
  have hgroups : k ≠ "port_pair_groups" := fun h ↦ hk (h ▸ List.mem_cons_self)
  have hclassifiers : k ≠ "flow_classifiers" :=
    fun h ↦ hk (h ▸ List.mem_cons_of_mem _ (List.mem_singleton_self _))
  refine (Dict.get?_ofFields (by simp) k).trans ?_
  simp only [clearServerFields, Entries.lookup_cons, hgroups, hclassifiers, labels]
  split_ifs <;> simp_all

theorem Port.get?_sent (profile : Object) (k : String) :
    (Kind.port.encode (Kind.port.clearServerFields { profile := some profile })).get? k =
      if k = "binding:profile" then some (ofObject profile) else none :=
  Dict.get?_insert Dict.empty "binding:profile" k (ofObject profile)

theorem owning_serving (key : String) (m : Memory) : (owning key m).Serving key where
  get _ _ _ _ := trivial
  list _ _ := trivial
  own _ _ _ _ := trivial
  ingress _ _ _ _ := trivial
  egress _ _ _ _ := trivial
  pairs _ _ _ _ := trivial
  groups _ _ _ _ := trivial
  tag _ _ _ _ := trivial
  classifiers _ _ _ _ := trivial
  delete _ _ hkind _ _ := hkind
  createPair _ _ _ _ := Kind.noConfusion
  createGroup _ _ := Kind.noConfusion
  createChain _ _ := Kind.noConfusion
  createClassifier _ := Kind.noConfusion
  retag p hp hookId _ := by
    refine ⟨_, Service.object?_body .port _, fun v hv ↦ ⟨fun name hname x hx ↦ ?_, fun _ x hx ↦ ?_⟩⟩
    · have hprofile : name ≠ "binding:profile" := fun h ↦ hname (h ▸ List.mem_singleton_self _)
      rw [Port.get?_sent, if_neg hprofile] at hx
      cases hx
    · obtain ⟨old, hold, hsame⟩ := hp v hv
      rw [Port.get?_sent, if_pos rfl] at hx
      cases hx
      exact .entry hold fun k hk ↦ (get?_retag _ hookId hk).trans (hsame k hk)
  setPairs g hg pairIds _ := by
    refine ⟨_, Service.object?_body .portPairGroup _, fun v hv ↦ ?_⟩
    refine (hg v hv).congr Kind.noConfusion fun name hname ↦ ?_
    exact (PortPairGroup.get?_sent _ hname).trans (PortPairGroup.get?_sent g hname).symm
  setGroups c hc groupIds _ := by
    refine ⟨_, Service.object?_body .portChain _, fun v hv ↦ ?_⟩
    refine (hc v hv).congr Kind.noConfusion fun name hname ↦ ?_
    exact (PortChain.get?_sent _ hname).trans (PortChain.get?_sent c hname).symm
  setClassifiers c hc hookIds _ := by
    refine ⟨_, Service.object?_body .portChain _, fun v hv ↦ ?_⟩
    refine (hc v hv).congr Kind.noConfusion fun name hname ↦ ?_
    exact (PortChain.get?_sent _ hname).trans (PortChain.get?_sent c hname).symm

theorem Port.entries?_of_optional {x : Option Object}
    (h : optional d.entries "binding:profile" asObject = .ok x) :
    Port.entries? (d.get? "binding:profile") = some (x.getD Dict.empty) := by
  rw [Json.optional, withDefault, ← Dict.get?] at h
  cases hprofile : d.get? "binding:profile" with
  | none =>
    rw [hprofile] at h
    cases h
    rfl
  | some value =>
    rw [hprofile] at h
    cases value with
    | null | obj _ =>
      cases h
      rfl
    | _ => cases h

theorem Port.profile_of_decode {p : Port} (h : Port.decode (ofObject d) = .ok p) :
    optional d.entries "binding:profile" asObject = .ok p.profile := by
  have hyields : Yields (Port.decode (ofObject d)) fun p ↦
      optional d.entries "binding:profile" asObject = .ok p.profile := by
    refine .bind fun members hmembers ↦ ?_
    cases hmembers
    iterate 10 refine .bind fun _ _ ↦ ?_
    exact .bind fun profile hprofile ↦ .done hprofile
  exact hyields p h

theorem get?_of_labels {name description : Option String}
    (hname : optional d.entries "name" asText = .ok name)
    (hdescription : optional d.entries "description" asText = .ok description) {k : String}
    {x : Json} (hx : labels name description k = some x) : d.get? k = some x := by
  rw [labels] at hx
  split at hx
  · rename_i hk
    exact hk ▸ get?_of_optional_text hname hx
  · split at hx
    · rename_i hk
      exact hk ▸ get?_of_optional_text hdescription hx
    · cases hx

theorem PortPairGroup.get?_of_sent {g : PortPairGroup}
    (h : PortPairGroup.decode (ofObject d) = .ok g) {k : String}
    (hk : k ∉ Kind.portPairGroup.owned) {x : Json}
    (hx : (Kind.portPairGroup.encode g.clearServerFields).get? k = some x) : d.get? k = some x := by
  have hyields : Yields (PortPairGroup.decode (ofObject d)) fun g ↦
      ∀ x, labels g.name g.description k = some x → d.get? k = some x := by
    refine .bind fun members hmembers ↦ ?_
    cases hmembers
    refine .bind fun _ _ ↦ .bind fun name hname ↦ .bind fun description hdescription ↦ ?_
    iterate 4 refine .bind fun _ _ ↦ ?_
    exact .done fun x ↦ get?_of_labels hname hdescription
  exact hyields g h x (PortPairGroup.get?_sent g hk ▸ hx)

theorem PortChain.get?_of_sent {c : PortChain} (h : PortChain.decode (ofObject d) = .ok c)
    {k : String} (hk : k ∉ Kind.portChain.owned) {x : Json}
    (hx : (Kind.portChain.encode c.clearServerFields).get? k = some x) : d.get? k = some x := by
  have hyields : Yields (PortChain.decode (ofObject d)) fun c ↦
      ∀ x, labels c.name c.description k = some x → d.get? k = some x := by
    refine .bind fun members hmembers ↦ ?_
    cases hmembers
    refine .bind fun _ _ ↦ .bind fun name hname ↦ .bind fun description hdescription ↦ ?_
    iterate 6 refine .bind fun _ _ ↦ ?_
    exact .done fun x ↦ get?_of_labels hname hdescription
  exact hyields c h x (PortChain.get?_sent c hk ▸ hx)

/-- What can be read of an object agrees with what was stored before. -/
theorem Memory.Framed.known (h : m.Framed key n) (hn : n.Keyed) : n.Known (owning key m) := by
  intro kind id value r hget hr
  have hkey : kind.key r = id := Kind.key_eq (Kind.idOf_decode ((hn kind).own_of_get? hget) hr)
  subst hkey
  cases kind with
  | port =>
    intro v hv
    have hread := Port.entries?_of_optional (Port.profile_of_decode hr)
    have hprofile := h.profiles _ v value hv hget
    generalize value.get? "binding:profile" = x at hread hprofile
    cases hprofile with
    | kept => exact ⟨_, hread, fun _ _ ↦ rfl⟩
    | @entry old new hold hnew =>
      cases (Port.entries?_ofObject new).symm.trans hread
      exact ⟨old, hold, hnew⟩
  | portPairGroup =>
    refine fun v hv ↦ .of_kept Kind.noConfusion fun name hname x hx ↦ ?_
    rw [← h.kept .portPairGroup _ v value hv hget name hname]
    exact PortPairGroup.get?_of_sent hr hname hx
  | portChain =>
    refine fun v hv ↦ .of_kept Kind.noConfusion fun name hname x hx ↦ ?_
    rw [← h.kept .portChain _ v value hv hget name hname]
    exact PortChain.get?_of_sent hr hname hx
  | portPair | flowClassifier => exact trivial

/-- The second memory came of the first by calls that leave alone what the engine does not own. -/
structure Memory.Follows (key : String) (ids : Nat → String) (m n : Memory) : Prop where
  keyed : n.Keyed
  drawn : n.Drawn ids
  later : m.drawn ≤ n.drawn
  framed : m.Framed key n

theorem Memory.Framed.refl (key : String) (m : Memory) : m.Framed key m where
  ports := rfl
  kept _ _ v w hv hw _ _ := by cases hv.symm.trans hw; rfl
  profiles _ v w hv hw := by
    cases hv.symm.trans hw
    exact .kept

theorem Memory.Replied.ports {c : Call} {r : c.Reply} {m' : Memory} (h : Replied ids n c r m')
    (hc : (owning key m).Sends c) :
    m'.collections.ports.map Prod.fst = n.collections.ports.map Prod.fst := by
  cases h with
  | kept | found | listed => rfl
  | created kind => cases kind with
    | port => exact absurd rfl hc
    | _ => rfl
  | @deleted kind => cases kind with
    | port => exact absurd rfl hc
    | _ => rfl
  | @updated kind id body old change failures hbody hget => cases kind with
    | port => exact Collection.keys_insert_of_mem (Collection.mem_keys hget) _
    | _ => rfl

theorem Memory.get?_amended_of_ne (old change : Object) {name : String}
    (h : ∀ x, change.get? name = some x → old.get? name = some x) :
    (amended old change).get? name = old.get? name := by
  rw [amended, Dict.get?_insertAll_entries, Dict.get?_erase]
  split
  · rfl
  · cases hx : change.get? name with
    | none => rfl
    | some x => exact (h x hx).symm

namespace Memory.Follows

variable {c : Call}

theorem refl (hkeyed : m.Keyed) (hdrawn : m.Drawn ids) : m.Follows key ids m :=
  ⟨hkeyed, hdrawn, Nat.le_refl _, .refl key m⟩

/-- An object that is stored after a call of the engine was stored before under its id, if the
first memory holds that id; the change that was made of it is one that upholds what was there. -/
theorem origin (hids : Function.Injective ids) (hm : m.Drawn ids) (h : m.Follows key ids n)
    (hc : (owning key m).Sends c) {id : String} (hv : (m.collections.get kind).get? id = some v)
    (hw : ((reply ids c n).2.collections.get kind).get? id = some w) :
    (n.collections.get kind).get? id = some w ∨
      ∃ old change, (n.collections.get kind).get? id = some old ∧ w = amended old change ∧
        Upholds key kind v change := by
  cases (replied ids n c).origin h.keyed hw with
  | kept hget => exact .inl hget
  | created hbody hid =>
    -- the id is drawn for the object, so nothing was stored under it before
    obtain ⟨k, hk, he⟩ := hm kind hc id v hv
    have hdrawn : n.drawn + 1 = k := hids (hid.symm.trans he)
    have hlater := h.later
    omega
  | @updated body old change hbody hget hvalue =>
    obtain ⟨change', hbody', hchange⟩ := hc
    cases hbody.symm.trans hbody'
    exact .inr ⟨old, change, hget, hvalue, hchange v hv⟩

theorem reply (hids : Function.Injective ids) (hm : m.Drawn ids) (h : m.Follows key ids n)
    (hc : (owning key m).Sends c) : m.Follows key ids (Memory.reply ids c n).2 where
  keyed := h.keyed.reply c
  drawn := h.drawn.replied h.keyed (replied ids n c)
  later := Nat.le_trans h.later (replied ids n c).drawn_le
  framed :=
    { ports := ((replied ids n c).ports hc).trans h.framed.ports
      kept := fun kind id v w hv hw name hname ↦ by
        obtain hget | ⟨old, change, hget, rfl, hchange⟩ := h.origin hids hm hc hv hw
        · exact h.framed.kept kind id v w hv hget name hname
        · have hold := h.framed.kept kind id v old hv hget name hname
          rw [get?_amended_of_ne old change fun x hx ↦ hold ▸ hchange.kept name hname x hx, hold]
      profiles := fun id v w hv hw ↦ by
        change (m.collections.get .port).get? id = some v at hv
        obtain hget | ⟨old, change, hget, rfl, hchange⟩ := h.origin hids hm hc hv hw
        · exact h.framed.profiles id v w hv hget
        · rw [amended, Dict.get?_insertAll_entries, Dict.get?_erase, if_neg (by decide)]
          cases hx : change.get? "binding:profile" with
          | none => exact h.framed.profiles id v old hv hget
          | some x => exact hchange.profile rfl x hx }

theorem draw (h : m.Follows key ids n) : m.Follows key ids (Memory.draw ids n).2 where
  keyed := h.keyed
  drawn kind hkind id value hget := by
    obtain ⟨k, hk, he⟩ := h.drawn kind hkind id value hget
    exact ⟨k, Nat.le_succ_of_le hk, he⟩
  later := Nat.le_succ_of_le h.later
  framed := { h.framed with }

theorem request (hids : Function.Injective ids) (hm : m.Drawn ids) (h : m.Follows key ids n)
    (r : Request) : m.Follows key ids (r.run key ids n).2 := by
  have hnames : r.Names (owning key m) := by
    cases r <;> simp [Request.Names, owning]
  refine (Program.Conforms.run (I := m.Follows key ids) (fun c s hc hs ↦ ?_) (fun s hs ↦ hs.draw) h
    (Program.Conforms.request (owning_serving key m) hnames)).1
  have hnext := hs.reply hids hm hc
  exact ⟨(hnext.framed.known hnext.keyed).hears hs.keyed, hnext⟩

end Memory.Follows

/-- Whatever is asked of the engine, and whichever calls fail, it changes nothing of what was stored
but what it owns. -/
theorem history_framed (hids : Function.Injective ids) (hm : m.Stocked ids) (key : String)
    (events : List Event) : m.Framed key (history key ids m events) := by
  suffices hfollows : ∀ n, m.Follows key ids n → m.Follows key ids (history key ids n events) from
    (hfollows m (.refl hm.keyed hm.drawn)).framed
  induction events with
  | nil => exact fun _ hn ↦ hn
  | cons e rest ih =>
    intro n hn
    refine ih _ ?_
    cases e with
    | request r => exact hn.request hids hm.drawn r
    | failAfter f => exact ⟨hn.keyed, hn.drawn, hn.later, { hn.framed with }⟩

namespace Sample

def pinned : Call :=
  .update .port "inspected" (.obj [("binding:profile", .obj [("card", .str "pf0")]),
    ("qos", .str "gold")])

def labelled : Memory :=
  (Memory.reply numberedId pinned (seeded numberedId "project" ports)).2

end Sample

theorem sample_framed : Function.Injective numberedId ∧ Sample.labelled.Stocked numberedId ∧
    Sample.labelled.Framed defaultKey (history defaultKey numberedId Sample.labelled
      (Sample.events ++ [.request (.installHook Sample.inspected Sample.chain)])) := by
  have hstocked : Sample.labelled.Stocked numberedId :=
    .reply (.seedPort (.seedPort (.seedPort (.empty "project") _) _) _) Sample.pinned
  exact ⟨numberedId_injective, hstocked, history_framed numberedId_injective hstocked _ _⟩

example :
    let last := history defaultKey numberedId Sample.labelled
      (Sample.events ++ [.request (.installHook Sample.inspected Sample.chain)])
    (last.collections.ports.get? "inspected").bind (·.get? "binding:profile") =
      some (.obj [("card", .str "pf0"), (defaultKey, .str (numberedId 5))]) := rfl

end TrafficSteering
