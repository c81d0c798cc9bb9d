import TrafficSteering.Proofs.Service.Replies

namespace TrafficSteering

open Json

variable {α β σ τ : Type}

/-- The ids that may be named, what is known of the resources that are read, and the calls that may
be made. -/
structure Protocol where
  Id : Kind → String → Prop
  Res : (kind : Kind) → kind.Resource → Prop
  Sends : Call → Prop

/-- What is read from an answer is known, and it is what was asked for. -/
def Protocol.Hears (P : Protocol) (c : Call) (r : c.Reply) : Prop :=
  ∀ value ∈ c.values r, ∀ x, c.kind.decode value = .ok x →
    P.Res c.kind x ∧ ∀ id ∈ c.target, c.kind.key x = id

/-- As long as answers keep to the protocol, so do the calls; `Q` tells of the value. -/
def Program.Conforms (P : Protocol) (Q : α → Prop) : Program α → Prop
  | .done a => Q a
  | .fail _ => True
  | .call c next => P.Sends c ∧ ∀ r, P.Hears c r → (next r).Conforms P Q
  | .draw next => ∀ id, (next id).Conforms P Q

namespace Program.Conforms

variable {P : Protocol} {Q Q' : α → Prop} {R : β → Prop} {p : Program α} {f : α → Program β}

theorem done {a : α} (h : Q a) : (pure a : Program α).Conforms P Q := h

theorem fail {e : Error} : (Program.fail e : Program α).Conforms P Q := trivial

theorem lift {x : Except Error α} (h : ∀ a, x = .ok a → Q a) :
    (liftM x : Program α).Conforms P Q := by
  cases x with
  | ok a => exact h a rfl
  | error e => trivial

theorem mono (hp : p.Conforms P Q') (h : ∀ a, Q' a → Q a) : p.Conforms P Q := by
  induction p with
  | done a => exact h a hp
  | fail e => trivial
  | call c next ih => exact ⟨hp.1, fun r hr ↦ ih r (hp.2 r hr)⟩
  | draw next ih => exact fun id ↦ ih id (hp id)

theorem bind (hp : p.Conforms P Q) (hf : ∀ a, Q a → (f a).Conforms P R) :
    (p >>= f).Conforms P R := by
  induction p with
  | done a => exact hf a hp
  | fail e => trivial
  | call c next ih => exact ⟨hp.1, fun r hr ↦ ih r (hp.2 r hr)⟩
  | draw next ih => exact fun id ↦ ih id (hp id)

theorem mapError (hp : p.Conforms P Q) (g : Error → Error) : (p.mapError g).Conforms P Q := by
  induction p with
  | done a => exact hp
  | fail e => trivial
  | call c next ih => exact ⟨hp.1, fun r hr ↦ ih r (hp.2 r hr)⟩
  | draw next ih => exact fun id ↦ ih id (hp id)

section

variable {kind : Kind} {id : String} {S : kind.Resource → Prop}

theorem decode {value : Json} (h : ∀ r, kind.decode value = .ok r → S r) :
    (Gateway.decode kind value).Conforms P S := by
  obtain ⟨r, hr, hdecode⟩ | ⟨e, he, -⟩ := Gateway.decode_cases kind value
  · rw [hr]
    exact h r hdecode
  · rw [he]
    exact fail

theorem decodeResult {operation : Operation} {found : Option Json}
    (h : ∀ value ∈ found, ∀ r, kind.decode value = .ok r → S r) :
    (Gateway.decodeResult kind operation found).Conforms P S := by
  unfold Gateway.decodeResult
  split
  · exact fail
  · exact fail
  · refine bind (decode (h _ rfl)) fun r hr ↦ ?_
    split
    · exact fail
    · exact hr

theorem decodeAll {values : List Json}
    (h : ∀ value ∈ values, ∀ r, kind.decode value = .ok r → S r) :
    (Gateway.decodeAll kind values).Conforms P fun l ↦ ∀ r ∈ l, S r := by
  obtain ⟨l, hl, hread⟩ | ⟨e, he, -⟩ := Gateway.decodeAll_cases kind values
  · rw [hl]
    intro r hr
    obtain ⟨value, hvalue, hdecode⟩ := hread r hr
    exact h value hvalue r hdecode
  · rw [he]
    exact fail

theorem requireId (h : id ≠ "" → p.Conforms P Q) :
    (Gateway.requireId kind id >>= fun _ ↦ p).Conforms P Q := by
  by_cases hid : id = ""
  · rw [Gateway.requireId, if_pos hid]
    exact fail
  · rw [Gateway.requireId, if_neg hid]
    exact h hid

theorem get (hsends : id ≠ "" → P.Sends (.get kind id)) :
    (Gateway.get kind id).Conforms P fun found ↦ ∀ r ∈ found, P.Res kind r ∧ kind.key r = id := by
  refine requireId fun hid ↦ ⟨hsends hid, fun x hx ↦ ?_⟩
  rcases x with e | _ | value
  · exact fail
  · exact fun r hr ↦ absurd hr (Option.not_mem_none r)
  · change (Gateway.decode kind value >>= fun r ↦ pure (some r)).Conforms P _
    refine bind (Q := fun r ↦ P.Res kind r ∧ kind.key r = id) (decode fun r hr ↦ ?_) ?_
    · obtain ⟨hres, hkey⟩ := hx value (List.mem_singleton.2 rfl) r hr
      exact ⟨hres, hkey id rfl⟩
    · rintro r hr _ ⟨⟩
      exact hr

theorem list {query : Query} (hsends : P.Sends (.list kind query)) :
    (Gateway.list kind query).Conforms P fun l ↦ ∀ r ∈ l, P.Res kind r := by
  refine ⟨hsends, fun x hx ↦ ?_⟩
  rcases x with e | values
  · exact fail
  · exact decodeAll fun value hvalue r hr ↦ (hx value hvalue r hr).1

theorem create {r : kind.Resource} (hsends : P.Sends (.create kind (Gateway.body kind r))) :
    (Gateway.create kind r).Conforms P (P.Res kind) := by
  refine ⟨hsends, fun x hx ↦ ?_⟩
  rcases x with e | found
  · exact fail
  · exact decodeResult fun value hvalue r hr ↦ (hx value (Option.mem_toList.2 hvalue) r hr).1

theorem update {r : kind.Resource}
    (hsends : id ≠ "" → P.Sends (.update kind id (Gateway.body kind r))) :
    (Gateway.update kind id r).Conforms P fun r ↦ P.Res kind r ∧ kind.key r = id := by
  refine requireId fun hid ↦ ⟨hsends hid, fun x hx ↦ ?_⟩
  rcases x with e | found
  · exact fail
  · refine decodeResult fun value hvalue r hr ↦ ?_
    obtain ⟨hres, hkey⟩ := hx value (Option.mem_toList.2 hvalue) r hr
    exact ⟨hres, hkey id rfl⟩

theorem deleteRaw (hsends : id ≠ "" → P.Sends (.delete kind id)) :
    (Gateway.deleteRaw kind id).Conforms P fun _ ↦ True := by
  refine requireId fun hid ↦ ⟨hsends hid, fun x _ ↦ ?_⟩
  cases x with
  | error e => exact fail
  | ok response => exact done trivial

theorem delete (hsends : id ≠ "" → P.Sends (.delete kind id)) :
    (Gateway.delete kind id).Conforms P fun _ ↦ True := by
  refine bind (deleteRaw hsends) fun response _ ↦ ?_
  split
  · exact done trivial
  · exact fail

end

/-- What every call of the protocol keeps is kept by a run. -/
theorem run {t : Transport σ} {I : σ → Prop}
    (hcall : ∀ c s, P.Sends c → I s → P.Hears c (t.reply c s).1 ∧ I (t.reply c s).2)
    (hdraw : ∀ s, I s → I (t.draw s).2) {s : σ} (hs : I s) (hp : p.Conforms P Q) :
    I (p.run t s).2 ∧ ∀ a, (p.run t s).1 = .ok a → Q a := by
  induction p generalizing s with
  | done a =>
    refine ⟨hs, fun b hb ↦ ?_⟩
    cases hb
    exact hp
  | fail e => exact ⟨hs, fun b hb ↦ by cases hb⟩
  | call c next ih =>
    obtain ⟨hhears, hI⟩ := hcall c s hp.1 hs
    exact ih _ hI (hp.2 _ hhears)
  | draw next ih => exact ih _ (hdraw s hs) (hp _)

/-- Two transports that answer every call of the protocol alike give the same outcome. -/
theorem agree {t : Transport σ} {u : Transport τ} {I : σ → τ → Prop} {F : Exchange → Prop}
    (hcall : ∀ c s s', P.Sends c → F ⟨c, (t.reply c s).1⟩ → I s s' →
      (u.reply c s').1 = (t.reply c s).1 ∧ I (t.reply c s).2 (u.reply c s').2 ∧
        P.Hears c (t.reply c s).1)
    (hdraw : ∀ s s', I s s' → (u.draw s').1 = (t.draw s).1 ∧ I (t.draw s).2 (u.draw s').2)
    {s : σ} {s' : τ} (hs : I s s') (hp : p.Conforms P Q) (hmade : ∀ x ∈ p.exchanges t s, F x) :
    (p.run u s').1 = (p.run t s).1 ∧ I (p.run t s).2 (p.run u s').2 := by
  induction p generalizing s s' with
  | done a => exact ⟨rfl, hs⟩
  | fail e => exact ⟨rfl, hs⟩
  | call c next ih =>
    obtain ⟨hfirst, hrest⟩ := List.forall_mem_cons.1 hmade
    obtain ⟨hreply, hnext, hhears⟩ := hcall c s s' hp.1 hfirst hs
    rw [Program.run, Program.run, hreply]
    exact ih _ hnext (hp.2 _ hhears) hrest
  | draw next ih =>
    obtain ⟨hid, hnext⟩ := hdraw s s' hs
    rw [Program.run, Program.run, hid]
    exact ih _ hnext (hp _) hmade

end Program.Conforms

namespace Memory

variable {ids : Nat → String} {m n : Memory}

def Known (P : Protocol) (m : Memory) : Prop :=
  ∀ kind id value r, (m.collections.get kind).get? id = some value →
    kind.decode (ofObject value) = .ok r → P.Res kind r

theorem Known.hears {P : Protocol} {c : Call} (h : Known P (reply ids c m).2) (hm : m.Keyed) :
    P.Hears c (reply ids c m).1 := by
  intro value hvalue x hx
  obtain ⟨id, object, rfl, hget, htarget⟩ := (replied ids m c).stored hm hvalue
  refine ⟨h _ id object x hget hx, fun i hi ↦ ?_⟩
  rw [htarget i hi]
  exact Kind.key_eq (Kind.idOf_decode ((hm.reply c c.kind).own_of_get? hget) hx)

end Memory

end TrafficSteering
