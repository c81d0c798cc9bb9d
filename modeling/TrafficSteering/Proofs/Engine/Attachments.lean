import TrafficSteering.Proofs.Engine.Conduct
import TrafficSteering.Proofs.Engine.Installation
import TrafficSteering.Proofs.Service.Clients
import Mathlib.Order.Interval.Set.LinearOrder

namespace TrafficSteering

open Engine HookTag

variable {key : String} {ids : Nat → String} {s t u w : Service} {α β : Type}

/-- Later by calls that may have added classifiers, tags and hooks of chains. -/
def Service.Later (ids : Nat → String) (s t : Service) : Prop :=
  s.drawn ≤ t.drawn ∧ (s.Sound ids → t.Sound ids)

instance : IsPreorder Service (Service.Later ids) where
  refl _ := ⟨Nat.le_refl _, id⟩
  trans _ _ _ h h' := ⟨Nat.le_trans h.1 h'.1, h'.2 ∘ h.2⟩

/-- The service beside the numbers that one of its clients has drawn in its own calls. -/
structure Share where
  service : Service
  own : Set Nat

namespace Share

variable {v w z : Share}

/-- The client's own calls have led to this service. -/
def spend (w : Share) (u : Service) : Share := ⟨u, w.own ∪ Set.Ioc w.service.drawn u.drawn⟩

def Later (ids : Nat → String) (v w : Share) : Prop :=
  v.service.Later ids w.service ∧ v.own ⊆ w.own

def Onward (ids : Nat → String) (v w : Share) : Prop :=
  v.service.Later ids w.service ∧ w = v.spend w.service

/-- Later by calls of the client that leave chains as they were. -/
def Aside (ids : Nat → String) (v w : Share) : Prop :=
  v.Onward ids w ∧ w.service.portChains = v.service.portChains

theorem spend_self (w : Share) : w.spend w.service = w := by
  rw [spend, Set.Ioc_self, Set.union_empty]

theorem spend_spend (h : w.service.drawn ≤ s.drawn) (h' : s.drawn ≤ t.drawn) :
    (w.spend s).spend t = w.spend t := by
  rw [spend, spend, Set.union_assoc, Set.Ioc_union_Ioc_eq_Ioc h h', spend]

instance : IsPreorder Share (Later ids) where
  refl w := ⟨refl_of (Service.Later ids) w.service, subset_rfl⟩
  trans _ _ _ h h' := ⟨trans_of (Service.Later ids) h.1 h'.1, h.2.trans h'.2⟩

instance : IsPreorder Share (Onward ids) where
  refl w := ⟨refl_of (Service.Later ids) w.service, w.spend_self.symm⟩
  trans v w z h h' := by
    refine ⟨trans_of (Service.Later ids) h.1 h'.1, ?_⟩
    calc
      z = w.spend z.service := h'.2
      _ = (v.spend w.service).spend z.service := by rw [← h.2]
      _ = v.spend z.service := spend_spend h.1.1 h'.1.1

instance : IsPreorder Share (Aside ids) where
  refl w := ⟨refl_of (Onward ids) w, rfl⟩
  trans _ _ _ h h' := ⟨trans_of (Onward ids) h.1 h'.1, h'.2.trans h.2⟩

theorem Onward.later (h : v.Onward ids w) : v.Later ids w := by
  refine ⟨h.1, ?_⟩
  rw [h.2]
  exact Set.subset_union_left

theorem Aside.later (h : v.Aside ids w) : v.Later ids w := h.1.later

theorem aside_spend (h : w.service.Later ids u) (hchains : u.portChains = w.service.portChains) :
    w.Aside ids (w.spend u) :=
  ⟨⟨h, rfl⟩, hchains⟩

/-- The id was drawn in the client's own calls, after the first `d` of all. -/
def Drew (ids : Nat → String) (d : Nat) (w : Share) (id : String) : Prop :=
  ∃ n ∈ w.own, d < n ∧ n ≤ w.service.drawn ∧ id = ids n

theorem Drew.mono {d d' : Nat} {id : String} (h : v.Drew ids d id) (hd : d' ≤ d)
    (hw : v.Later ids w) : w.Drew ids d' id := by
  obtain ⟨n, hown, hn, hv, he⟩ := h
  exact ⟨n, hw.2 hown, Nat.lt_of_le_of_lt hd hn, Nat.le_trans hv hw.1.1, he⟩

theorem Drew.bound {d : Nat} {id : String} (h : w.Drew ids d id) :
    ∃ n ≤ w.service.drawn, id = ids n := by
  obtain ⟨n, -, -, hn, he⟩ := h
  exact ⟨n, hn, he⟩

theorem Drew.not_mem {d : Nat} {id : String} (h : w.Drew ids d id) (hids : Function.Injective ids)
    {l : List String} (hl : ∀ x ∈ l, ∃ n ≤ d, x = ids n) : id ∉ l := by
  intro hmem
  obtain ⟨n, -, hn, -, rfl⟩ := h
  obtain ⟨k, hk, he⟩ := hl _ hmem
  cases hids he
  exact absurd hn (Nat.not_lt_of_le hk)

end Share

/-- Numbers of two clients, out of those drawn so far. -/
structure Apart (own own' : Set Nat) (drawn : Nat) : Prop where
  apart : ∀ n ∈ own, n ∉ own'
  left : ∀ n ∈ own, n ≤ drawn
  right : ∀ n ∈ own', n ≤ drawn

namespace Apart

variable {own own' : Set Nat} {d d' : Nat}

theorem empty (d : Nat) : Apart ∅ ∅ d := ⟨fun _ h ↦ h.elim, fun _ h ↦ h.elim, fun _ h ↦ h.elim⟩

theorem symm (h : Apart own own' d) : Apart own' own d :=
  ⟨fun n hn hown ↦ h.apart n hown hn, h.right, h.left⟩

theorem spend (h : Apart own own' d) (hd : d ≤ d') : Apart (own ∪ Set.Ioc d d') own' d' where
  apart n hn hmem := by
    obtain hn | hn := hn
    · exact h.apart n hn hmem
    · exact absurd hn.1 (Nat.not_lt_of_le (h.right n hmem))
  left n hn := hn.elim (fun hn ↦ Nat.le_trans (h.left n hn) hd) And.right
  right n hn := Nat.le_trans (h.right n hn) hd

theorem ne (h : Apart own own' d) (hids : Function.Injective ids) {n : Nat} {id id' : String}
    (hown : Share.Drew ids n ⟨t, own⟩ id) (hown' : Share.Drew ids n ⟨t, own'⟩ id') : id ≠ id' := by
  rintro rfl
  obtain ⟨k, hk, -, -, rfl⟩ := hown
  obtain ⟨k', hk', -, -, he⟩ := hown'
  cases hids he
  exact h.apart k hk hk'

end Apart

/-- Reads, and writes to ports. -/
def quiet : Protocol where
  Id _ _ := True
  Res _ _ := True
  Sends
    | .get _ _ | .list _ _ => True
    | .update kind _ body => kind = .port ∧ ∃ r, body = Gateway.body .port r
    | .create _ _ | .delete _ _ => False

theorem quiet_tagging (key : String) : quiet.Tagging key where
  get _ _ _ _ := trivial
  list _ _ := trivial
  own _ _ _ _ := trivial
  ingress _ _ _ _ := trivial
  egress _ _ _ _ := trivial
  pairs _ _ _ _ := trivial
  groups _ _ _ _ := trivial
  tag _ _ _ _ := trivial
  retag _ _ _ _ := ⟨rfl, _, rfl⟩

theorem Kind.get?_encode_id (kind : Kind) (r : kind.Resource) :
    (kind.encode r).get? "id" = (kind.idOf r).map .str := by
  cases kind <;> simp [Kind.encode, Port.encode, PortPair.encode, PortPairGroup.encode,
    PortChain.encode, FlowClassifier.encode, Dict.get?_ofFields, Kind.idOf]

theorem Service.Sound.keyed (hs : s.Sound ids) (failures : List Failure) :
    (s.memory failures).Keyed := by
  intro kind
  rw [Service.get_memory]
  refine ⟨?_, fun e he ↦ ?_⟩
  · rw [Kind.written, List.map_map]
    exact hs.distinct kind
  · obtain ⟨r, hr, rfl⟩ := List.mem_map.1 he
    rw [Kind.get?_encode_id, hs.idOf_eq kind hr]
    rfl

theorem quiet_reply (hs : s.Sound ids) {c : Call} (hc : quiet.Sends c) :
    ∃ t, (Memory.reply ids c (s.memory [])).2 = t.memory [] ∧ s.Later ids t ∧
      t.portChains = s.portChains := by
  have hsame : s.Later ids s ∧ s.portChains = s.portChains :=
    ⟨refl_of (Service.Later ids) s, rfl⟩
  cases c with
  | create kind body => exact hc.elim
  | get kind id => exact ⟨s, congrArg Prod.snd (Service.answers_get s kind id [] [] rfl), hsame⟩
  | list kind query =>
    exact ⟨s, congrArg Prod.snd (Service.answers_list s kind query [] [] rfl), hsame⟩
  | update kind id body =>
    obtain ⟨rfl, change, rfl⟩ := hc
    cases hfind : s.find? .port id with
    | none =>
      exact ⟨s, congrArg Prod.snd (Service.answers_update_absent hfind change [] [] rfl), hsame⟩
    | some r =>
      obtain ⟨rfl, l₁, l₂, hsplit⟩ := Inventory.find?_eq_some hfind
      refine ⟨_, congrArg Prod.snd (Service.answers_update hs hsplit change [] [] rfl), ?_, rfl⟩
      exact ⟨Nat.le_refl _, fun _ ↦ hs.amend .port hsplit (Kind.idOf_amended _ _ _)⟩
  | delete kind id => exact hc.elim

/-- While others make their calls, the program leaves chains as they are; `Q` tells of its value. -/
abbrev Alongside (ids : Nat → String) (Q : α → Share → Prop) (p : Program α) (w : Share) :
    Prop :=
  Abides (Memory.transport ids) (fun v ↦ v.service.memory []) (Share.Later ids) (Share.Aside ids)
    (fun r v ↦ ∀ a, r = .ok a → Q a v) p w

namespace Alongside

variable {Q : α → Share → Prop} {R : β → Share → Prop} {p : Program α} {f : α → Program β}
  {w : Share}

theorem bind (hp : Alongside ids Q p w) (hf : ∀ a v, Q a v → Alongside ids R (f a) v) :
    Alongside ids R (p >>= f) w := by
  refine Abides.bind hp ?_ ?_
  · rintro e t - b ⟨⟩
  · exact fun a v ha ↦ hf a v (ha a rfl)

theorem mapError (hp : Alongside ids Q p w) (g : Error → Error) :
    Alongside ids Q (p.mapError g) w := by
  refine Abides.mapError (Abides.mono hp ?_)
  rintro (e | a) t h b hb
  · cases hb
  · exact h b hb

theorem of_conforms {P : α → Prop} (hp : p.Conforms quiet P) (hw : w.service.Sound ids) :
    Alongside ids (fun a v ↦ w.Later ids v ∧ P a) p w := by
  suffices hlater : ∀ v, w.Later ids v → Alongside ids (fun a v ↦ w.Later ids v ∧ P a) p v from
    hlater w (refl_of (Share.Later ids) w)
  induction p with
  | done a =>
    rintro v hv z hz _ ⟨⟩
    exact ⟨trans_of (Share.Later ids) hv hz, hp⟩
  | fail e =>
    rintro v hv z hz _ ⟨⟩
  | call c next ih =>
    intro v hv z hz
    have hwz := trans_of (Share.Later ids) hv hz
    have hsound := hwz.1.2 hw
    obtain ⟨u, hu, hzu, hchains⟩ := quiet_reply hsound hp.1
    have haside := Share.aside_spend hzu hchains
    refine ⟨z.spend u, hu, haside, ih _ (hp.2 _ ?_) _ (trans_of (Share.Later ids) hwz haside.later)⟩
    exact Memory.Known.hears (fun _ _ _ _ _ _ ↦ trivial) (hsound.keyed [])
  | draw next ih =>
    intro v hv z hz
    have hwz := trans_of (Share.Later ids) hv hz
    have hdraw : z.service.Later ids { z.service with drawn := z.service.drawn + 1 } :=
      ⟨Nat.le_succ _, Service.Sound.draw⟩
    have haside := Share.aside_spend hdraw rfl
    exact ⟨_, rfl, haside, ih _ (hp _) _ (trans_of (Share.Later ids) hwz haside.later)⟩

theorem pass {P : α → Prop} (hp : p.Conforms quiet P) (hw : w.service.Sound ids)
    (hf : ∀ a v, w.Later ids v → v.service.Sound ids → Alongside ids R (f a) v) :
    Alongside ids R (p >>= f) w :=
  bind (of_conforms hp hw) fun a v hv ↦ hf a v hv.1 (hv.1.1.2 hw)

/-- A classifier is created under an id that no one has had before. -/
theorem create (hids : Function.Injective ids) (hw : w.service.Sound ids) (c : FlowClassifier) :
    Alongside ids
      (fun created v ↦ w.Later ids v ∧
        ∃ id, created.id = some id ∧ v.Drew ids w.service.drawn id)
      (Gateway.create .flowClassifier c) w := by
  refine Abides.single (Gateway.single_create .flowClassifier c) fun v hv ↦ ?_
  have hsound := hv.1.2 hw
  have hcreate : Atomic ids .never (Gateway.create .flowClassifier c) v.service _ _ :=
    .create hsound hids .flowClassifier (by decide) c
  let v' := v.spend (v.service.add ids .flowClassifier c)
  have hadd : v.Aside ids v' := Share.aside_spend
    ⟨Nat.le_succ _, fun _ ↦ hsound.add hids .flowClassifier (by decide) c⟩ rfl
  have hdrew : v'.Drew ids v.service.drawn (ids (v.service.drawn + 1)) :=
    ⟨v.service.drawn + 1, .inr ⟨Nat.lt_succ_self _, Nat.le_refl _⟩, Nat.lt_succ_self _,
      Nat.le_refl _, rfl⟩
  refine ⟨_, v', hcreate.run_eq, hadd, ?_⟩
  rintro z hz _ ⟨⟩
  exact ⟨trans_of (Share.Later ids) hv (trans_of (Share.Later ids) hadd.later hz), _, rfl,
    hdrew.mono hv.1.1 hz⟩

end Alongside

/-- All that comes between the first call and the last: a classifier is created for the chain as it
was read, and the port is tagged with it. -/
def Engine.prepareHook (key inspectedId chainId : String) (addresses : List String)
    (chain : PortChain) : Program String := do
  let found ← Gateway.get .port inspectedId
  let port ← Guard.requireFound found "Port" inspectedId
  match ← HookTag.liveHook key port with
  | some _ => .fail (hookPresent inspectedId chainId)
  | none =>
    let tree ← Lookup.chainTree chain
    let classifier ← HookClassifier.build tree port addresses
    let created ← Gateway.create .flowClassifier classifier
    let hookId := created.id.getD ""
    let _ ← (HookTag.set key port (some hookId)).afterChanges true
      s!"tag Port {inspectedId} with inspection hook {hookId}"
    return hookId

/-- The last call writes back the list that was read, with the hook at its end. -/
def Engine.attachHook (chainId : String) (chain : PortChain) (hookId : String) :
    Program String := do
  let _ ← (attachClassifier chain hookId).afterChanges true (attachStep hookId chainId)
  return hookId

theorem installHook_eq {inspected chain : Element} {inspectedId chainId : String}
    (hinspected : Guard.requireId inspected "Inspected port" = .ok inspectedId)
    (hchain : Guard.requireId chain "Inspection port" = .ok chainId) :
    installHook key inspected chain = requireChain chainId >>= fun stored ↦
      prepareHook key inspectedId chainId inspected.portIps stored >>=
        attachHook chainId stored := by
  rw [installHook, hinspected, hchain]
  refine congrArg (requireChain chainId >>= ·) (funext fun stored ↦ ?_)
  simp only [prepareHook, bind_assoc]
  refine congrArg (_ >>= ·) (funext fun found ↦ congrArg (_ >>= ·) (funext fun port ↦ ?_))
  refine congrArg (_ >>= ·) (funext fun live ↦ ?_)
  cases live with
  | some _ => rfl
  | none => simp only [attachHook, bind_assoc, pure_bind]

theorem Alongside.prepareHook (hids : Function.Injective ids) {w : Share}
    (hw : w.service.Sound ids) (inspectedId chainId : String) (addresses : List String)
    (chain : PortChain) :
    Alongside ids (fun hookId v ↦ v.Drew ids w.service.drawn hookId)
      (prepareHook key inspectedId chainId addresses chain) w := by
  have hquiet := quiet_tagging key
  refine pass (.read hquiet.toReading trivial) hw fun found a hwa ha ↦ ?_
  refine pass (.requireFound (Q := fun _ ↦ True) fun _ _ ↦ trivial) ha fun port b hab hb ↦ ?_
  refine pass (.liveHook hquiet trivial) hb fun live c hbc hc ↦ ?_
  cases live with
  | some _ =>
    rintro v hv _ ⟨⟩
  | none =>
    refine pass (.chainTree hquiet.toReading trivial) hc fun tree d hcd hd ↦ ?_
    refine pass (.build tree port addresses) hd fun classifier e hde he ↦ ?_
    have hwe : w.service.drawn ≤ e.service.drawn :=
      calc
        w.service.drawn ≤ a.service.drawn := hwa.1.1
        _ ≤ b.service.drawn := hab.1.1
        _ ≤ c.service.drawn := hbc.1.1
        _ ≤ d.service.drawn := hcd.1.1
        _ ≤ e.service.drawn := hde.1.1
    refine bind (create hids he classifier) fun created z hz ↦ ?_
    obtain ⟨hez, hookId, hid, hdrew⟩ := hz
    refine bind (mapError (of_conforms (.setTag hquiet trivial fun _ _ ↦ trivial)
      (hez.1.2 he)) _) ?_
    rintro _ v ⟨hzv, -⟩ v' hv _ ⟨⟩
    rw [hid]
    exact hdrew.mono hwe (trans_of (Share.Later ids) hzv hv)

/-- How far an installation is: it has made no call, it holds the list of hooks that it has read,
or it has ended. -/
inductive Progress where
  | waiting
  | holding (read : List String)
  | ended (outcome : Except Error String)

def Progress.outcome? : Progress → Option (Except Error String)
  | ended o => some o
  | waiting | holding _ => none

/-- The chain among all, with these hooks, all of them drawn before. -/
structure Service.Lists (ids : Nat → String) (l₁ : List PortChain) (x : PortChain)
    (l₂ : List PortChain) (hooks : List String) (t : Service) : Prop where
  sound : t.Sound ids
  chains : t.portChains = l₁ ++ { x with flowClassifiers := hooks } :: l₂
  drawn : ∀ h ∈ hooks, ∃ n ≤ t.drawn, h = ids n

theorem drawn_mono {l : List String} {d d' : Nat} (h : ∀ x ∈ l, ∃ n ≤ d, x = ids n)
    (hd : d ≤ d') : ∀ x ∈ l, ∃ n ≤ d', x = ids n := by
  intro x hx
  obtain ⟨n, hn, he⟩ := h x hx
  exact ⟨n, Nat.le_trans hn hd, he⟩

theorem Service.Lists.aside {x : PortChain} {l₁ l₂ : List PortChain} {hooks : List String}
    {v w : Share} (hv : v.service.Lists ids l₁ x l₂ hooks) (hw : v.Aside ids w) :
    w.service.Lists ids l₁ x l₂ hooks where
  sound := hw.1.1.2 hv.sound
  chains := hw.2.trans hv.chains
  drawn := drawn_mono hv.drawn hw.1.1.1

/-- What is left of the program of a client that has come so far; the hook that it attaches is not
among the first `d` ids drawn. -/
inductive Stands (key : String) (ids : Nat → String) (x : PortChain) (d : Nat) (w : Share) :
    Progress → Program String → Prop
  | waiting {inspected chain : Element} {inspectedId : String}
      (hinspected : Guard.requireId inspected "Inspected port" = .ok inspectedId)
      (hchain : Guard.requireId chain "Inspection port" = .ok (Kind.portChain.key x))
      (hd : d ≤ w.service.drawn) : Stands key ids x d w .waiting (installHook key inspected chain)
  | holding {read : List String} {p : Program String}
      (hread : ∀ h ∈ read, ∃ n ≤ w.service.drawn, h = ids n)
      (hp : Alongside ids (fun h v ↦ h ∉ read ∧ v.Drew ids d h) p w)
      (hgoes : ∀ e, p.outcome? ≠ some (.error e)) :
      Stands key ids x d w (.holding read)
        (p >>= attachHook (Kind.portChain.key x) { x with flowClassifiers := read })
  | ended {o : Except Error String} {p : Program String} (hp : p.outcome? = some o)
      (ho : ∀ h, o = .ok h → w.Drew ids d h) : Stands key ids x d w (.ended o) p

/-- What one turn of a client makes of its progress and of the list of hooks. -/
inductive Progress.Turns : Progress → List String → Progress → List String → Prop
  | read (hooks : List String) : Turns .waiting hooks (.holding hooks) hooks
  | prepare (read hooks : List String) : Turns (.holding read) hooks (.holding read) hooks
  | fail (read hooks : List String) (e : Error) :
      Turns (.holding read) hooks (.ended (.error e)) hooks
  | attach (read hooks : List String) (h : String) :
      Turns (.holding read) hooks (.ended (.ok h)) (read ++ [h])

theorem single_requireChain {chainId : String} (hid : chainId ≠ "") :
    (requireChain chainId).Single := by
  refine (Gateway.single_get hid).bind fun found ↦ ?_
  cases found <;> exact Option.some_ne_none _

theorem single_attachHook {x : PortChain} (hid : Kind.portChain.key x ≠ "") (read : List String)
    (chainId hookId : String) :
    (attachHook chainId { x with flowClassifiers := read } hookId).Single :=
  ((Gateway.single_update hid _).mapError _).bind fun _ ↦ Option.some_ne_none _

/-- Whatever the chain lists by now, it lists what was read and the hook afterwards. -/
theorem calm_attachHook {x : PortChain} {l₁ l₂ : List PortChain} {read hooks : List String}
    {h : String} (ht : t.Lists ids l₁ x l₂ hooks) (hid : Kind.portChain.key x ≠ "")
    (hread : ∀ h ∈ read, ∃ n ≤ t.drawn, h = ids n) (hnew : h ∉ read)
    (hdrawn : ∃ n ≤ t.drawn, h = ids n) (chainId : String) :
    ∃ u, calm ids (attachHook chainId { x with flowClassifiers := read } h) t =
      (.ok h, u.memory []) ∧ t.Later ids u ∧ u.Lists ids l₁ x l₂ (read ++ [h]) := by
  let after : Service := t.put .portChain (l₁ ++ { x with flowClassifiers := read ++ [h] } :: l₂)
  have hset : Atomic ids .never (Engine.setClassifiers { x with flowClassifiers := hooks }
      (read ++ [h])) t (.ok { x with flowClassifiers := read ++ [h] }) after :=
    .setClassifiers ht.sound ht.chains hid (read ++ [h])
  have hattach : attachClassifier { x with flowClassifiers := read } h =
      Engine.setClassifiers { x with flowClassifiers := hooks } (read ++ [h]) :=
    attachClassifier_eq hnew
  rw [← hattach] at hset
  have hmapped : Atomic ids .never ((attachClassifier { x with flowClassifiers := read }
      h).afterChanges true (attachStep h chainId)) t _ after :=
    .of_calm (calm_mapError.2 hset.run_eq)
  have hsound : after.Sound ids := ht.sound.amend .portChain ht.chains rfl
  refine ⟨after, (Atomic.last hmapped).run_eq, ⟨Nat.le_refl _, fun _ ↦ hsound⟩, hsound, rfl, ?_⟩
  intro k hk
  rcases List.mem_append.1 hk with hk | hk
  · exact hread k hk
  · exact List.mem_singleton.1 hk ▸ hdrawn

namespace Stands

variable {x : PortChain} {l₁ l₂ : List PortChain} {a : Progress} {p p' : Program String}
  {hooks : List String} {m : Memory} {d : Nat} {v w : Share}

theorem later (h : Stands key ids x d w a p) (hw : w.Later ids v) : Stands key ids x d v a p := by
  cases h with
  | waiting hinspected hchain hd => exact .waiting hinspected hchain (Nat.le_trans hd hw.1.1)
  | holding hread hp hgoes =>
    exact .holding (drawn_mono hread hw.1.1) (hp.later hw) hgoes
  | ended hp ho => exact .ended hp fun h hh ↦ (ho h hh).mono (Nat.le_refl d) hw

theorem outcome? (h : Stands key ids x d w a p) (hid : Kind.portChain.key x ≠ "") :
    p.outcome? = a.outcome? := by
  cases h with
  | waiting hinspected hchain =>
    rw [installHook_eq hinspected hchain, Engine.requireChain, Gateway.get, Gateway.requireId,
      if_neg hid]
    rfl
  | @holding read p hread hp hgoes =>
    cases p with
    | done h =>
      exact (single_attachHook hid read (Kind.portChain.key x) h).outcome?
    | fail e => exact absurd rfl (hgoes e)
    | call | draw => rfl
  | ended hp => exact hp

theorem starts (h : Stands key ids x d w .waiting p) (hid : Kind.portChain.key x ≠ "")
    (hw : w.service.Lists ids l₁ x l₂ hooks) :
    p.step? (Memory.transport ids) (w.service.memory []) ≠ none := by
  cases h with
  | @waiting inspected chain inspectedId hinspected hchain =>
    have hget : Atomic ids .never (requireChain (Kind.portChain.key x)) w.service _ _ :=
      .requireChain_stored (c := { x with flowClassifiers := hooks }) hw.sound hw.chains hid
    rw [installHook_eq hinspected hchain, (single_requireChain hid).step?_bind hget.run_eq]
    exact Option.some_ne_none _

theorem read_step (hids : Function.Injective ids) (hid : Kind.portChain.key x ≠ "")
    (hw : w.service.Lists ids l₁ x l₂ hooks) (hd : d ≤ w.service.drawn)
    {inspected chain : Element} {inspectedId : String}
    (hinspected : Guard.requireId inspected "Inspected port" = .ok inspectedId)
    (hchain : Guard.requireId chain "Inspection port" = .ok (Kind.portChain.key x))
    (hstep : (installHook key inspected chain).step? (Memory.transport ids)
      (w.service.memory []) = some (p', m)) :
    m = w.service.memory [] ∧ Stands key ids x d w (.holding hooks) p' := by
  have hget : Atomic ids .never (requireChain (Kind.portChain.key x)) w.service _ _ :=
    .requireChain_stored (c := { x with flowClassifiers := hooks }) hw.sound hw.chains hid
  rw [installHook_eq hinspected hchain, (single_requireChain hid).step?_bind hget.run_eq] at hstep
  cases hstep
  have hprepare : Alongside ids _ (Engine.prepareHook key _ _ _ _) w :=
    .prepareHook hids hw.sound inspectedId (Kind.portChain.key x) inspected.portIps
      { x with flowClassifiers := hooks }
  refine ⟨rfl, .holding hw.drawn (Abides.mono hprepare fun r v hr h hh ↦ ?_) ?_⟩
  · exact ⟨(hr h hh).not_mem hids hw.drawn, (hr h hh).mono hd (refl_of (Share.Later ids) v)⟩
  · intro e
    rw [Engine.prepareHook, Gateway.get, Gateway.requireId,
      if_neg (Guard.ne_of_requireText hinspected)]
    exact Option.some_ne_none _ ∘ Eq.symm

/-- The last call writes the list that was read, with the hook behind it. -/
theorem attach_step (hid : Kind.portChain.key x ≠ "") (hw : w.service.Lists ids l₁ x l₂ hooks)
    {read : List String} (hread : ∀ h ∈ read, ∃ n ≤ w.service.drawn, h = ids n)
    {q : Program String} (hq : Alongside ids (fun h v ↦ h ∉ read ∧ v.Drew ids d h) q w) {h : String}
    (hrun : q.run (Memory.transport ids) (w.service.memory []) = (.ok h, m)) {m' : Memory}
    (hstep : (attachHook (Kind.portChain.key x) { x with flowClassifiers := read } h).step?
      (Memory.transport ids) m = some (p', m')) :
    ∃ z : Service, m' = z.memory [] ∧ w.service.Later ids z ∧ z.Lists ids l₁ x l₂ (read ++ [h]) ∧
      Stands key ids x d (w.spend z) (.ended (.ok h)) p' := by
  obtain ⟨v, hm, hwv, hresult⟩ := hq.run (fun _ _ h ↦ h)
  rw [hrun] at hm hresult
  cases hm
  obtain ⟨hnew, hdrew⟩ := hresult h rfl
  obtain ⟨z, hz, hvz, hlisted⟩ := calm_attachHook (hw.aside hwv) hid
    (drawn_mono hread hwv.1.1.1) hnew hdrew.bound (Kind.portChain.key x)
  obtain ⟨q', hq', hend⟩ := (single_attachHook hid read (Kind.portChain.key x) h).step?
    (Memory.transport ids) (v.service.memory [])
  rw [show Program.run _ (attachHook _ _ h) (v.service.memory []) = _ from hz] at hq' hend
  cases hq'.symm.trans hstep
  have hspent : w.Onward ids (v.spend z) := trans_of (Share.Onward ids) hwv.1 ⟨hvz, rfl⟩
  refine ⟨z, rfl, hspent.1, hlisted, .ended hend ?_⟩
  rintro _ ⟨⟩
  rw [← show v.spend z = w.spend z from hspent.2]
  exact hdrew.mono (Nat.le_refl d) (Share.Onward.later ⟨hvz, rfl⟩)

theorem step (hids : Function.Injective ids) (h : Stands key ids x d w a p)
    (hid : Kind.portChain.key x ≠ "") (hw : w.service.Lists ids l₁ x l₂ hooks)
    (hstep : p.step? (Memory.transport ids) (w.service.memory []) = some (p', m)) :
    ∃ (u : Service) (a' : Progress) (hooks' : List String), m = u.memory [] ∧
      w.service.Later ids u ∧ u.Lists ids l₁ x l₂ hooks' ∧ Stands key ids x d (w.spend u) a' p' ∧
      a.Turns hooks a' hooks' := by
  cases h with
  | waiting hinspected hchain hd =>
    obtain ⟨hm, hnext⟩ := read_step hids hid hw hd hinspected hchain hstep
    refine ⟨w.service, .holding hooks, hooks, hm, refl_of (Service.Later ids) w.service, hw, ?_,
      .read hooks⟩
    rw [w.spend_self]
    exact hnext
  | @holding read p hread hp hgoes =>
    obtain ⟨q, hq, rfl⟩ | ⟨h, m', hrun, hattach⟩ := Program.step?_bind hstep
    · obtain ⟨v, rfl, hv, hq⟩ := hp.step? (fun _ _ h ↦ h) hq
      have hspent : v = w.spend v.service := hv.1.2
      by_cases hfail : ∃ e, q.outcome? = some (.error e)
      · obtain ⟨e, he⟩ := hfail
        refine ⟨v.service, .ended (.error e), hooks, rfl, hv.1.1, hw.aside hv, .ended ?_ ?_,
          .fail read hooks e⟩
        · rw [Program.eq_fail he]
          rfl
        · rintro _ ⟨⟩
      · refine ⟨v.service, .holding read, hooks, rfl, hv.1.1, hw.aside hv, ?_,
          .prepare read hooks⟩
        rw [← hspent]
        exact .holding (drawn_mono hread hv.1.1.1) hq fun e he ↦ hfail ⟨e, he⟩
    · obtain ⟨z, hm, hwz, hlists, hnext⟩ := attach_step hid hw hread hp hrun hattach
      exact ⟨z, .ended (.ok h), read ++ [h], hm, hwz, hlists, hnext, .attach read hooks h⟩
  | ended hp =>
    cases p with
    | done | fail => cases hstep
    | call | draw => cases hp

end Stands

section

variable (ids) (c : Clients String Memory) (i j : Nat) (before : List String)

/-- What the second client has read, where the first has attached this hook. -/
def Took (xs : List Nat) (h : String) (read : List String) : Prop :=
  c.Precedes (Memory.transport ids) xs i j ∧ read = before ++ [h] ∨
    ¬ c.Precedes (Memory.transport ids) xs i j ∧ read = before

/-- How far two clients may be, and the hooks that the chain lists, if the second is the last to
end. -/
inductive Course (xs : List Nat) : Progress → Progress → List String → Prop
  | failed {a b : Progress} {hooks : List String} (e : Error)
      (h : a = .ended (.error e) ∨ b = .ended (.error e)) : Course xs a b hooks
  | behind {a b : Progress} {hooks : List String}
      (hfirst : ¬ c.EndsFirst (Memory.transport ids) xs i j) (hb : b.outcome? ≠ none) :
      Course xs a b hooks
  | early {a : Progress} (ha : a = .waiting ∨ a = .holding before) (hj : j ∉ xs) :
      Course xs a .waiting before
  | ready (h : String) (hj : j ∉ xs) : Course xs (.ended (.ok h)) .waiting (before ++ [h])
  | beside {a : Progress} (ha : a.outcome? = none) (hj : j ∈ xs) (hooks : List String) :
      Course xs a (.holding before) hooks
  | second {h : String} {read : List String} (hj : j ∈ xs)
      (hread : Took ids c i j before xs h read) (hooks : List String) :
      Course xs (.ended (.ok h)) (.holding read) hooks
  | both {h : String} {read : List String} (hj : j ∈ xs)
      (hread : Took ids c i j before xs h read) (h' : String) :
      Course xs (.ended (.ok h)) (.ended (.ok h')) (read ++ [h'])

end

namespace Course

variable {c : Clients String Memory} {i j k : Nat} {before hooks hooks' : List String}
  {xs : List Nat} {a a' b b' : Progress}

theorem took_snoc {h : String} {read : List String} (hread : Took ids c i j before xs h read)
    (hj : j ∈ xs) (k : Nat) : Took ids c i j before (xs ++ [k]) h read := by
  have hsnoc := Clients.precedes_snoc (c := c) (t := Memory.transport ids) (i := i)
    (List.mem_append_left [k] hj)
  rwa [Took, hsnoc]

theorem left (h : Course ids c i j before xs a b hooks) (hturn : a.Turns hooks a' hooks')
    (hij : i ≠ j) (hi : (c.interleave (Memory.transport ids) xs).outcome? i = a.outcome?)
    (hend : (c.interleave (Memory.transport ids) (xs ++ [i])).outcome? j = b.outcome?) :
    Course ids c i j before (xs ++ [i]) a' b hooks' := by
  have hnot (hj : j ∉ xs) : j ∉ xs ++ [i] := by simp [hj, Ne.symm hij]
  cases h with
  | failed e h =>
    rcases h with rfl | rfl
    · cases hturn
    · exact .failed e (.inr rfl)
  | behind hfirst hb => exact .behind (Clients.not_endsFirst_snoc hfirst (hend ▸ hb)) hb
  | early ha hj =>
    rcases ha with rfl | rfl
    · cases hturn
      exact .early (.inr rfl) (hnot hj)
    · cases hturn with
      | prepare => exact .early (.inr rfl) (hnot hj)
      | fail _ _ e => exact .failed e (.inl rfl)
      | attach _ _ h => exact .ready h (hnot hj)
  | ready => cases hturn
  | beside ha hj =>
    have hj' := List.mem_append_left [i] hj
    cases hturn with
    | read => exact .beside rfl hj' _
    | prepare => exact .beside rfl hj' _
    | fail _ _ e => exact .failed e (.inl rfl)
    | attach _ _ h =>
      -- what the second holds was read before the first attached its hook
      have hlate : ¬ c.Precedes (Memory.transport ids) xs i j :=
        Clients.not_precedes (hi.trans ha)
      exact .second hj' (took_snoc (.inr ⟨hlate, rfl⟩) hj i) _
  | second => cases hturn
  | both => cases hturn

theorem right (h : Course ids c i j before xs a b hooks) (hturn : b.Turns hooks b' hooks')
    (hi : (c.interleave (Memory.transport ids) xs).outcome? i = a.outcome?)
    (hi' : (c.interleave (Memory.transport ids) (xs ++ [j])).outcome? i = a.outcome?) :
    Course ids c i j before (xs ++ [j]) a b' hooks' := by
  have hmem : j ∈ xs ++ [j] := by simp
  cases h with
  | failed e h =>
    rcases h with rfl | rfl
    · exact .failed e (.inl rfl)
    · cases hturn
  | behind hfirst hb => cases hturn <;> exact absurd rfl hb
  | early ha hj =>
    cases hturn
    refine .beside ?_ hmem _
    rcases ha with rfl | rfl <;> rfl
  | ready h hj =>
    cases hturn
    have hended : (c.interleave (Memory.transport ids) xs).outcome? i ≠ none := by
      rw [hi]
      exact Option.some_ne_none _
    exact .second hmem (.inl ⟨⟨xs, List.prefix_append xs [j], hended, hj⟩, rfl⟩) _
  | beside ha hj =>
    cases hturn with
    | prepare => exact .beside ha hmem _
    | fail _ _ e => exact .failed e (.inr rfl)
    | attach => exact .behind (Clients.not_endsFirst (hi'.trans ha)) (Option.some_ne_none _)
  | second hj hread =>
    cases hturn with
    | prepare => exact .second hmem (took_snoc hread hj j) _
    | fail _ _ e => exact .failed e (.inr rfl)
    | attach _ _ h' => exact .both hmem (took_snoc hread hj j) h'
  | both => cases hturn

theorem idle (h : Course ids c i j before xs a b hooks) (hb : k = j → b ≠ .waiting)
    (hend : (c.interleave (Memory.transport ids) (xs ++ [k])).outcome? j = b.outcome?) :
    Course ids c i j before (xs ++ [k]) a b hooks := by
  have hnot (hw : b = .waiting) (hj : j ∉ xs) : j ∉ xs ++ [k] := by
    have hk : k ≠ j := fun hk ↦ hb hk hw
    simp [hj, Ne.symm hk]
  cases h with
  | failed e h => exact .failed e h
  | behind hfirst hb => exact .behind (Clients.not_endsFirst_snoc hfirst (hend ▸ hb)) hb
  | early ha hj => exact .early ha (hnot rfl hj)
  | ready h hj => exact .ready h (hnot rfl hj)
  | beside ha hj => exact .beside ha (List.mem_append_left [k] hj) _
  | second hj hread => exact .second (List.mem_append_left [k] hj) (took_snoc hread hj k) _
  | both hj hread h' => exact .both (List.mem_append_left [k] hj) (took_snoc hread hj k) h'

end Course

section

variable {c : Clients String Memory} {x : PortChain} {l₁ l₂ : List PortChain} {d i j : Nat}

/-- The two clients as they stand after the calls, with the chain that they install on. -/
def Paired (key : String) (ids : Nat → String) (c : Clients String Memory) (x : PortChain)
    (l₁ l₂ : List PortChain) (d i j : Nat) (xs : List Nat) : Prop :=
  ∃ t own own' p q a b hooks, (c.interleave (Memory.transport ids) xs).state = t.memory [] ∧
    (c.interleave (Memory.transport ids) xs).programs[i]? = some p ∧
    (c.interleave (Memory.transport ids) xs).programs[j]? = some q ∧
    t.Lists ids l₁ x l₂ hooks ∧ Stands key ids x d ⟨t, own⟩ a p ∧ Stands key ids x d ⟨t, own'⟩ b q ∧
    Apart own own' t.drawn ∧ Course ids c i j x.flowClassifiers xs a b hooks

theorem Paired.start {p q : Program String} (hlists : s.Lists ids l₁ x l₂ x.flowClassifiers)
    (hstate : c.state = s.memory []) (hp : c.programs[i]? = some p) (hq : c.programs[j]? = some q)
    (ha : Stands key ids x s.drawn ⟨s, ∅⟩ .waiting p)
    (hb : Stands key ids x s.drawn ⟨s, ∅⟩ .waiting q) :
    Paired key ids c x l₁ l₂ s.drawn i j [] :=
  ⟨s, ∅, ∅, p, q, .waiting, .waiting, x.flowClassifiers, hstate, hp, hq, hlists, ha, hb,
    .empty s.drawn, .early (.inl rfl) List.not_mem_nil⟩

theorem Paired.turn (hids : Function.Injective ids) (hid : Kind.portChain.key x ≠ "") (hij : i ≠ j)
    (honly : ∀ k, k ≠ i → k ≠ j → c.programs.length ≤ k) {xs : List Nat}
    (h : Paired key ids c x l₁ l₂ d i j xs) (k : Nat) :
    Paired key ids c x l₁ l₂ d i j (xs ++ [k]) := by
  obtain ⟨t, own, own', p, q, a, b, hooks, hstate, hp, hq, hlists, ha, hb, hapart, hcourse⟩ := h
  have hlength := Clients.length_interleave (t := Memory.transport ids) c xs
  have hturn : c.interleave (Memory.transport ids) (xs ++ [k]) =
      (c.interleave (Memory.transport ids) xs).turn (Memory.transport ids) k :=
    Clients.interleave_append c xs [k]
  have hi : (c.interleave (Memory.transport ids) xs).outcome? i = a.outcome? := by
    rw [Clients.outcome?, hp]
    exact ha.outcome? hid
  obtain ⟨hnone, hsame⟩ | ⟨r, r', m, hr, hstep, hnext⟩ :=
    (c.interleave (Memory.transport ids) xs).turn_cases (Memory.transport ids) k
  -- the client has ended: its turn changes nothing
  · refine ⟨t, own, own', p, q, a, b, hooks, ?_⟩
    have hend : (c.interleave (Memory.transport ids) (xs ++ [k])).outcome? j = b.outcome? := by
      rw [hturn, hsame, Clients.outcome?, hq]
      exact hb.outcome? hid
    rw [hturn, hsame]
    refine ⟨hstate, hp, hq, hlists, ha, hb, hapart, hcourse.idle ?_ hend⟩
    rintro rfl rfl
    rw [hq, hstate] at hnone
    exact hb.starts hid hlists hnone
  · have hlt : k < (c.interleave (Memory.transport ids) xs).programs.length :=
      (List.getElem?_eq_some_iff.1 hr).1
    rw [hstate] at hstep
    rw [← hturn] at hnext
    by_cases hk : k = i
    · subst hk
      cases hp.symm.trans hr
      obtain ⟨u, a', hooks', rfl, htu, hlists', ha', hmove⟩ := ha.step hids hid hlists hstep
      have hq' : (c.interleave (Memory.transport ids) (xs ++ [k])).programs[j]? = some q := by
        rw [hnext, List.getElem?_set_ne hij]
        exact hq
      have hend : (c.interleave (Memory.transport ids) (xs ++ [k])).outcome? j = b.outcome? := by
        rw [Clients.outcome?, hq']
        exact hb.outcome? hid
      refine ⟨u, _, own', r', q, a', b, hooks', ?_, ?_, hq', hlists', ha',
        hb.later ⟨htu, subset_rfl⟩, hapart.spend htu.1, hcourse.left hmove hij hi hend⟩
      · rw [hnext]
      · rw [hnext]
        exact List.getElem?_set_self hlt
    · by_cases hk' : k = j
      · subst hk'
        cases hq.symm.trans hr
        obtain ⟨u, b', hooks', rfl, htu, hlists', hb', hmove⟩ := hb.step hids hid hlists hstep
        have hp' : (c.interleave (Memory.transport ids) (xs ++ [k])).programs[i]? = some p := by
          rw [hnext, List.getElem?_set_ne hk]
          exact hp
        have hend : (c.interleave (Memory.transport ids) (xs ++ [k])).outcome? i = a.outcome? := by
          rw [Clients.outcome?, hp']
          exact ha.outcome? hid
        refine ⟨u, own, _, p, r', a, b', hooks', ?_, hp', ?_, hlists',
          ha.later ⟨htu, subset_rfl⟩, hb', (hapart.symm.spend htu.1).symm,
          hcourse.right hmove hi hend⟩
        · rw [hnext]
        · rw [hnext]
          exact List.getElem?_set_self hlt
      · exact absurd hlt (Nat.not_lt_of_le (hlength ▸ honly k hk hk'))

theorem Paired.interleave (hids : Function.Injective ids) (hid : Kind.portChain.key x ≠ "")
    (hij : i ≠ j) (honly : ∀ k, k ≠ i → k ≠ j → c.programs.length ≤ k)
    (h : Paired key ids c x l₁ l₂ d i j []) (schedule : List Nat) :
    Paired key ids c x l₁ l₂ d i j schedule := by
  induction schedule using List.reverseRecOn with
  | nil => exact h
  | append_singleton xs k ih => exact ih.turn hids hid hij honly k

theorem Paired.ended {xs : List Nat} (h : Paired key ids c x l₁ l₂ d i j xs)
    (hids : Function.Injective ids) (hid : Kind.portChain.key x ≠ "")
    (hbefore : ∀ h ∈ x.flowClassifiers, ∃ n ≤ d, h = ids n)
    (hfirst : c.EndsFirst (Memory.transport ids) xs i j) {hook hook' : String}
    (hi : (c.interleave (Memory.transport ids) xs).outcome? i = some (.ok hook))
    (hj : (c.interleave (Memory.transport ids) xs).outcome? j = some (.ok hook')) :
    ∃ (t : Service) (listed : List String),
      (c.interleave (Memory.transport ids) xs).state = t.memory [] ∧
      t.portChains = l₁ ++ { x with flowClassifiers := x.flowClassifiers ++ listed } :: l₂ ∧
      (c.Precedes (Memory.transport ids) xs i j → listed = [hook, hook']) ∧
      (¬ c.Precedes (Memory.transport ids) xs i j →
        listed = [hook'] ∧ hook ∉ x.flowClassifiers ++ listed) := by
  obtain ⟨t, own, own', p, q, a, b, hooks, hstate, hp, hq, hlists, ha, hb, hapart, hcourse⟩ := h
  rw [Clients.outcome?, hp] at hi
  rw [Clients.outcome?, hq] at hj
  have hi : a.outcome? = some (.ok hook) := (ha.outcome? hid).symm.trans hi
  have hj : b.outcome? = some (.ok hook') := (hb.outcome? hid).symm.trans hj
  cases hcourse with
  | failed e h =>
    rcases h with rfl | rfl
    · cases hi
    · cases hj
  | behind hnot => exact absurd hfirst hnot
  | early | ready | beside | second => cases hj
  | both hmem hread =>
    cases hi
    cases hj
    rcases hread with ⟨hprecedes, rfl⟩ | ⟨hlate, rfl⟩
    -- the second has read the hook of the first and keeps it
    · refine ⟨t, [hook, hook'], hstate, ?_, fun _ ↦ rfl, fun hlate ↦ absurd hprecedes hlate⟩
      rw [hlists.chains, List.append_assoc]
      rfl
    -- the second has read the list without it; ids that are drawn later are in no earlier list
    · refine ⟨t, [hook'], hstate, hlists.chains, fun hprecedes ↦ absurd hprecedes hlate,
        fun _ ↦ ⟨rfl, fun hlisted ↦ ?_⟩⟩
      cases ha with
      | ended _ ha =>
        cases hb with
        | ended _ hb =>
          rcases List.mem_append.1 hlisted with hlisted | hlisted
          · exact (ha hook rfl).not_mem hids hbefore hlisted
          · exact hapart.ne hids (ha hook rfl) (hb hook' rfl) (List.mem_singleton.1 hlisted)

end

def Engine.installs (key : String) (first second : Element × Element) (m : Memory) :
    Clients String Memory where
  programs := [installHook key first.1 first.2, installHook key second.1 second.2]
  state := m

/-- A client whose arguments are refused has ended in an error from the beginning. -/
theorem Stands.start {x : PortChain} {inspected chain : Element} (hchain : chain.id = x.id)
    (h : ∀ e, (installHook key inspected chain).outcome? ≠ some (.error e)) (s : Service) :
    Stands key ids x s.drawn ⟨s, ∅⟩ .waiting (installHook key inspected chain) ∧
      Kind.portChain.key x ≠ "" := by
  rw [installHook] at h
  cases hinspected : Guard.requireId inspected "Inspected port" with
  | error e =>
    rw [hinspected] at h
    exact absurd rfl (h e)
  | ok inspectedId =>
    rw [hinspected] at h
    cases hrequired : Guard.requireId chain "Inspection port" with
    | error e =>
      rw [hrequired] at h
      exact absurd rfl (h e)
    | ok chainId =>
      have hid := Guard.ne_of_requireText hrequired
      obtain rfl : Kind.portChain.key x = chainId :=
        Kind.key_eq (hchain.symm.trans (Guard.requireText_eq_ok_iff.1 hrequired).1)
      exact ⟨.waiting hinspected hrequired (Nat.le_refl _), hid⟩

/-- Of two hooks that are installed on one chain at once, the one whose installation ends last is
listed after all that were listed before. The other stands before it if its installation had ended
when the last one began, and is lost otherwise. -/
theorem installs_listed (hids : Function.Injective ids) (hm : Reachable key ids (s.memory []))
    {x : PortChain} (hx : x ∈ s.portChains) {first second : Element × Element}
    (hfirst : first.2.id = x.id) (hsecond : second.2.id = x.id) (schedule : List Nat)
    {hooks : Nat → String} :
    let start := installs key first second (s.memory [])
    let last := start.interleave (Memory.transport ids) schedule
    (∀ i < 2, last.outcome? i = some (.ok (hooks i))) →
      ∃ i j, (i = 0 ∧ j = 1 ∨ i = 1 ∧ j = 0) ∧
        start.EndsFirst (Memory.transport ids) schedule i j ∧
        ∃ (t : Service) (l₁ l₂ : List PortChain) (listed : List String),
          last.state = t.memory [] ∧ s.portChains = l₁ ++ x :: l₂ ∧
          t.portChains = l₁ ++ { x with flowClassifiers := x.flowClassifiers ++ listed } :: l₂ ∧
          (start.Precedes (Memory.transport ids) schedule i j → listed = [hooks i, hooks j]) ∧
          (¬ start.Precedes (Memory.transport ids) schedule i j →
            listed = [hooks j] ∧ hooks i ∉ x.flowClassifiers ++ listed) := by
  intro start last hends
  obtain ⟨s', failures, hs, hv, -⟩ := hm.service hids
  cases Service.memory_injective hs
  obtain ⟨l₁, l₂, hsplit⟩ := List.append_of_mem hx
  have hlists : s.Lists ids l₁ x l₂ x.flowClassifiers :=
    { sound := hv.sound
      chains := hsplit
      drawn := fun h hh ↦ by
        obtain ⟨r, hr, hid⟩ := hv.attached.stored x hx h hh
        obtain ⟨n, hn, he⟩ := hv.sound.drawn .flowClassifier (by decide) r hr
        exact ⟨n, hn, (Kind.key_eq hid).symm.trans he⟩ }
  have hgood {i : Nat} (hi : i < 2) (e : Error) : start.outcome? i ≠ some (.error e) := by
    intro he
    cases (Clients.outcome?_interleave he schedule).symm.trans (hends i hi)
  obtain ⟨hwaiting, hid⟩ : Stands key ids x s.drawn ⟨s, ∅⟩ .waiting _ ∧ _ :=
    Stands.start hfirst (hgood Nat.zero_lt_two) s
  obtain ⟨hwaiting', -⟩ : Stands key ids x s.drawn ⟨s, ∅⟩ .waiting _ ∧ _ :=
    Stands.start hsecond (hgood Nat.one_lt_two) s
  have hsettled {i j : Nat} (hi : i < 2) (hj : j < 2) (hij : i ≠ j)
      (hpaired : Paired key ids start x l₁ l₂ s.drawn i j [])
      (hend : start.EndsFirst (Memory.transport ids) schedule i j) :=
    have honly (k : Nat) (hi : k ≠ i) (hj : k ≠ j) : start.programs.length ≤ k := by
      change 2 ≤ k
      omega
    (hpaired.interleave hids hid hij honly schedule).ended hids hid hlists.drawn hend (hends i hi)
      (hends j hj)
  have hended {i : Nat} (hi : i < 2) : last.outcome? i ≠ none := by
    rw [hends i hi]
    exact Option.some_ne_none _
  have hopen : start.outcome? 0 = none := hwaiting.outcome? hid
  obtain hend | hend := Clients.endsFirst_or Nat.zero_ne_one hopen (hended Nat.zero_lt_two)
    (hended Nat.one_lt_two)
  · obtain ⟨t, listed, hstate, hchains, hlisted⟩ := hsettled Nat.zero_lt_two Nat.one_lt_two
      Nat.zero_ne_one (.start hlists rfl rfl rfl hwaiting hwaiting') hend
    exact ⟨0, 1, .inl ⟨rfl, rfl⟩, hend, t, l₁, l₂, listed, hstate, hsplit, hchains, hlisted⟩
  · obtain ⟨t, listed, hstate, hchains, hlisted⟩ := hsettled Nat.one_lt_two Nat.zero_lt_two
      Nat.one_ne_zero (.start hlists rfl rfl rfl hwaiting' hwaiting) hend
    exact ⟨1, 0, .inr ⟨rfl, rfl⟩, hend, t, l₁, l₂, listed, hstate, hsplit, hchains, hlisted⟩

namespace Sample

def other : Element := .network { elementId := some "other" }

def crowded : Memory :=
  history defaultKey numberedId (seeded numberedId "project" (ports ++ [{ id := some "other" }]))
    events

/-- Both read the chain; then one makes all its other calls, and the other after it. -/
def together : List Nat := [0, 1] ++ List.replicate 8 0 ++ List.replicate 8 1

def inTurn : List Nat := List.replicate 9 0 ++ List.replicate 9 1

end Sample

/-- Two different ports, neither of them tagged, and no failure is scheduled; both installations
report success, and only one of the hooks is listed. -/
theorem sample_hook_lost :
    Reachable defaultKey numberedId Sample.crowded ∧ Sample.crowded.failures = [] ∧
      Sample.inspected.id ≠ Sample.other.id ∧
      (Sample.crowded.collections.ports.map fun p ↦ p.2.get? "binding:profile") =
        List.replicate 4 none ∧
      let last := (installs defaultKey (Sample.inspected, Sample.chain)
        (Sample.other, Sample.chain) Sample.crowded).interleave (Memory.transport numberedId)
          Sample.together
      last.outcome? 0 = some (.ok (numberedId 5)) ∧
        last.outcome? 1 = some (.ok (numberedId 7)) ∧ numberedId 5 ≠ numberedId 7 ∧
        (last.state.collections.portChains.get? (numberedId 3)).bind (·.get? "flow_classifiers") =
          some (.arr [.str (numberedId 7)]) :=
  ⟨⟨"project", _, Sample.events, by decide, rfl⟩, rfl, by decide, rfl, rfl, rfl, by decide, rfl⟩

theorem sample_installs_listed : Function.Injective numberedId ∧
    ∃ (s : Service) (x : PortChain), s.memory [] = Sample.crowded ∧
      Reachable defaultKey numberedId (s.memory []) ∧ x ∈ s.portChains ∧
      Sample.chain.id = x.id ∧ ∃ hooks : Nat → String,
        let last := (installs defaultKey (Sample.inspected, Sample.chain)
          (Sample.other, Sample.chain) (s.memory [])).interleave (Memory.transport numberedId)
            Sample.inTurn
        (∀ i < 2, last.outcome? i = some (.ok (hooks i))) ∧
          ∃ (t : Service) (l₁ l₂ : List PortChain) (listed : List String),
            last.state = t.memory [] ∧
            t.portChains = l₁ ++ { x with flowClassifiers := x.flowClassifiers ++ listed } :: l₂ ∧
            listed ≠ [] := by
  have hreachable : Reachable defaultKey numberedId Sample.crowded :=
    ⟨"project", _, Sample.events, by decide, rfl⟩
  obtain ⟨s, failures, hs, hv, -⟩ := hreachable.service numberedId_injective
  cases (congrArg Memory.failures hs : [] = failures)
  have hs : s.memory [] = Sample.crowded := hs.symm
  have hchains : Kind.portChain.written s.portChains = Sample.crowded.collections.portChains := by
    rw [← hs]
    rfl
  obtain ⟨x, hx⟩ : ∃ x, s.portChains = [x] := List.length_eq_one_iff.1 (by
    have hlength := congrArg List.length hchains
    rwa [Kind.written, List.length_map] at hlength)
  have hmem : x ∈ s.portChains := by simp [hx]
  have hid : some (numberedId 3) = x.id := by
    have hkeys := congrArg (List.map Prod.fst) hchains
    rw [hx] at hkeys
    have hkey : Kind.portChain.key x = numberedId 3 := (List.cons.inj hkeys).1
    exact hkey ▸ (hv.sound.idOf_eq .portChain hmem).symm
  have hfirst : (Sample.inspected, Sample.chain).2.id = x.id := hid
  have hsecond : (Sample.other, Sample.chain).2.id = x.id := hid
  have hreachable' : Reachable defaultKey numberedId (s.memory []) := hs ▸ hreachable
  let hooks (i : Nat) := if i = 0 then numberedId 5 else numberedId 7
  let last := (installs defaultKey (Sample.inspected, Sample.chain) (Sample.other, Sample.chain)
    (s.memory [])).interleave (Memory.transport numberedId) Sample.inTurn
  have hlast (i : Nat) (hi : i < 2) : last.outcome? i = some (.ok (hooks i)) := by
    rw [show last = _ from congrArg (fun m ↦ (installs defaultKey (Sample.inspected, Sample.chain)
      (Sample.other, Sample.chain) m).interleave (Memory.transport numberedId) Sample.inTurn) hs]
    cases i with
    | zero => rfl
    | succ i =>
      obtain rfl : i = 0 := by omega
      rfl
  obtain ⟨i, j, -, -, t, l₁, l₂, listed, hstate, -, hlisted, hboth, hone⟩ :=
    installs_listed numberedId_injective hreachable' hmem hfirst hsecond Sample.inTurn hlast
  refine ⟨numberedId_injective, s, x, hs, hreachable', hmem, hid, hooks, hlast, t, l₁, l₂,
    listed, hstate, hlisted, ?_⟩
  by_cases hprecedes : (installs defaultKey (Sample.inspected, Sample.chain)
      (Sample.other, Sample.chain) (s.memory [])).Precedes (Memory.transport numberedId)
        Sample.inTurn i j
  · simp [hboth hprecedes]
  · simp [(hone hprecedes).1]

end TrafficSteering
