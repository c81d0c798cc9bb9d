import TrafficSteering.Gateway
import TrafficSteering.Proofs.Service.Outcome

namespace TrafficSteering

abbrev Exchange := (c : Call) × c.Reply

def Program.isDone {α : Type} : Program α → Bool
  | .done _ => true
  | _ => false

def Program.exchanges {α σ : Type} (t : Transport σ) : Program α → σ → List Exchange
  | .done _, _ => []
  | .fail _, _ => []
  | .call c next, s => ⟨c, (t.reply c s).1⟩ :: (next (t.reply c s).1).exchanges t (t.reply c s).2
  | .draw next, s => (next (t.draw s).1).exchanges t (t.draw s).2

namespace Exchange

/-- The gateway reads from the answer that the call has succeeded; a delete of anything but a chain
has succeeded as well where the resource was gone. -/
def accepted : Exchange → Bool
  | ⟨.create kind _, .ok found⟩ => (Gateway.decodeResult kind .create found).isDone
  | ⟨.get _ _, .ok none⟩ => true
  | ⟨.get kind _, .ok (some value)⟩ => (Gateway.decode kind value).isDone
  | ⟨.list kind _, .ok values⟩ => (Gateway.decodeAll kind values).isDone
  | ⟨.update kind _ _, .ok found⟩ => (Gateway.decodeResult kind .update found).isDone
  | ⟨.delete kind _, .ok response⟩ =>
    response.isSuccess || (kind != .portChain && response.isNotFound)
  | ⟨_, _⟩ => false

def applied (x : Exchange) : Bool := x.1.operation != .get && x.1.operation != .list && x.accepted

end Exchange

def changed (xs : List Exchange) : Bool := xs.any Exchange.applied

@[simp] theorem changed_append (xs : List Exchange) (x : Exchange) :
    changed (xs ++ [x]) = (changed xs || x.applied) := by simp [changed]

section

variable (known : (kind : Kind) → String → Prop)

def Call.Grounded : Call → Prop
  | .create kind body => ∃ r, body = Gateway.body kind r
  | .update kind id body => known kind id ∧ ∃ r, body = Gateway.body kind r
  | .get _ _ | .list _ _ | .delete _ _ => True

def Exchange.Shows : Exchange → Prop
  | ⟨.get kind id, .ok (some value)⟩ =>
    ∀ r, kind.decode value = .ok r → known kind id ∧ known kind (kind.key r)
  | ⟨.list kind _, .ok values⟩ =>
    ∀ value ∈ values, ∀ r, kind.decode value = .ok r → known kind (kind.key r)
  | ⟨_, _⟩ => True

/-- However the calls are answered, the program ends in an error as `E` has it or with a value as
`Q` has it, by the exchanges up to then. As long as nothing is changed, its calls are grounded in
what earlier answers have shown. -/
def Concludes {α : Type} (p : Program α) (xs : List Exchange) (E : Error → List Exchange → Prop)
    (Q : α → List Exchange → Prop) : Prop :=
  match p with
  | .done a => Q a xs
  | .fail e => E e xs
  | .call c next => (changed xs = false → c.Grounded known) ∧
      ∀ r, (changed xs = false → Exchange.Shows known ⟨c, r⟩) →
        Concludes (next r) (xs ++ [⟨c, r⟩]) E Q
  | .draw next => ∀ id, Concludes (next id) xs E Q

/-- A single call, whose answer is accepted just where there is a value. As long as nothing was
changed before it, `P` tells what is known of the value. -/
def Asks {α : Type} (p : Program α) (c : Call) (P : α → Prop) : Prop :=
  ∀ xs, (changed xs = false → c.Grounded known) → Concludes known p xs
    (fun e ys ↦ e.isPartial = false ∧ ∃ r, ys = xs ++ [⟨c, r⟩] ∧ Exchange.accepted ⟨c, r⟩ = false)
    fun a ys ↦ ∃ r, ys = xs ++ [⟨c, r⟩] ∧ Exchange.accepted ⟨c, r⟩ = true ∧
      (changed xs = false → P a)

/-- A part of an operation, begun with something changed or nothing: its error is a plain one, and
then there is no further change. `Q` tells of its value whether there was one. -/
def Acts {α : Type} (p : Program α) (b : Bool) (Q : α → Bool → Prop) : Prop :=
  ∀ xs, changed xs = b → Concludes known p xs (fun e ys ↦ e.isPartial = false ∧ changed ys = b)
    fun a ys ↦ Q a (changed ys)

/-- The operation reports its errors as partial just where something was changed. -/
def Marks {α : Type} (p : Program α) (b : Bool) : Prop :=
  ∀ xs, changed xs = b → Concludes known p xs (fun e ys ↦ e.isPartial = changed ys) fun _ _ ↦ True

end

variable {known : (kind : Kind) → String → Prop} {α β σ : Type} {p : Program α} {f : α → Program β}
  {xs : List Exchange} {E E' : Error → List Exchange → Prop} {Q Q' : α → List Exchange → Prop}
  {R : β → List Exchange → Prop}

namespace Concludes

theorem mono (hp : Concludes known p xs E' Q') (he : ∀ e ys, E' e ys → E e ys)
    (hq : ∀ a ys, Q' a ys → Q a ys) : Concludes known p xs E Q := by
  induction p generalizing xs with
  | done a => exact hq a xs hp
  | fail e => exact he e xs hp
  | call c next ih => exact ⟨hp.1, fun r hr ↦ ih r (hp.2 r hr)⟩
  | draw next ih => exact fun id ↦ ih id (hp id)

theorem bind (hp : Concludes known p xs E' Q) (he : ∀ e ys, E' e ys → E e ys)
    (hf : ∀ a ys, Q a ys → Concludes known (f a) ys E R) : Concludes known (p >>= f) xs E R := by
  induction p generalizing xs with
  | done a => exact hf a xs hp
  | fail e => exact he e xs hp
  | call c next ih => exact ⟨hp.1, fun r hr ↦ ih r (hp.2 r hr)⟩
  | draw next ih => exact fun id ↦ ih id (hp id)

theorem mapError {g : Error → Error} (hp : Concludes known p xs (fun e ↦ E (g e)) Q) :
    Concludes known (p.mapError g) xs E Q := by
  induction p generalizing xs with
  | done a => exact hp
  | fail e => exact hp
  | call c next ih => exact ⟨hp.1, fun r hr ↦ ih r (hp.2 r hr)⟩
  | draw next ih => exact fun id ↦ ih id (hp id)

theorem of_run (hp : Concludes (fun _ _ ↦ True) p xs E Q) (t : Transport σ) (s : σ) {e : Error}
    (hrun : (p.run t s).1 = .error e) : E e (xs ++ p.exchanges t s) := by
  -- each call adds its exchange to those before it, so they are general in the induction
  induction p generalizing xs s with
  | done a => cases hrun
  | fail e' =>
    cases hrun
    rw [Program.exchanges, List.append_nil]
    exact hp
  | call c next ih =>
    have hshows : Exchange.Shows (fun _ _ ↦ True) ⟨c, (t.reply c s).1⟩ := by
      unfold Exchange.Shows
      split
      · exact fun _ _ ↦ ⟨trivial, trivial⟩
      · exact fun _ _ _ _ ↦ trivial
      · trivial
    have h := ih _ (hp.2 _ fun _ ↦ hshows) _ hrun
    rwa [List.append_assoc, List.singleton_append] at h
  | draw next ih => exact ih _ (hp _) _ hrun

end Concludes

namespace Acts

variable {b : Bool} {P P' : α → Bool → Prop} {S : β → Bool → Prop}

theorem done {a : α} (h : P a b) : Acts known (pure a) b P := by
  intro xs hxs
  exact show P a (changed xs) from hxs ▸ h

theorem fail {e : Error} (h : e.isPartial = false) : Acts known (.fail e : Program α) b P :=
  fun _ hxs ↦ ⟨h, hxs⟩

theorem lift {x : Except Error α} (herror : ∀ e, x = .error e → e.isPartial = false) :
    Acts known (liftM x) b fun a c ↦ c = b ∧ x = .ok a := by
  cases x with
  | ok a => exact done ⟨rfl, rfl⟩
  | error e => exact fail (herror e rfl)

theorem mono (hp : Acts known p b P') (hq : ∀ a c, P' a c → P a c) : Acts known p b P :=
  fun xs hxs ↦ (hp xs hxs).mono (fun _ _ h ↦ h) fun _ _ h ↦ hq _ _ h

theorem bind (hp : Acts known p b fun a c ↦ c = b ∧ P a c)
    (hf : ∀ a, P a b → Acts known (f a) b S) : Acts known (p >>= f) b S := by
  intro xs hxs
  refine (hp xs hxs).bind (fun _ _ h ↦ h) ?_
  intro a ys h
  obtain ⟨hys, ha⟩ := h
  exact hf a (hys ▸ ha) ys hys

theorem last {g : α → β} (hp : Acts known p b P) (hg : ∀ a c, P a c → S (g a) c) :
    Acts known (p >>= fun a ↦ pure (g a)) b S :=
  fun xs hxs ↦ (hp xs hxs).bind (fun _ _ h ↦ h) fun a _ ha ↦ hg a _ ha

theorem afterChanges {step : String} (hp : Acts known p b P) (hxs : changed xs = b) :
    Concludes known (p.afterChanges b step) xs (fun e ys ↦ e.isPartial = changed ys)
      fun a ys ↦ P a (changed ys) := by
  refine .mapError ((hp xs hxs).mono ?_ fun _ _ h ↦ h)
  intro e ys h
  obtain ⟨he, hys⟩ := h
  cases b with
  | true => exact hys.symm
  | false => exact he.trans hys.symm

end Acts

namespace Marks

variable {b : Bool} {P : α → Bool → Prop}

theorem done (a : α) : Marks known (pure a) b := fun _ _ ↦ trivial

theorem fail {e : Error} (h : e.isPartial = b) : Marks known (.fail e : Program α) b :=
  fun _ hxs ↦ h.trans hxs.symm

theorem bind (hp : Acts known p false P) (hf : ∀ a c, P a c → Marks known (f a) c) :
    Marks known (p >>= f) false := by
  intro xs hxs
  refine (hp xs hxs).bind (fun e ys h ↦ h.1.trans h.2.symm) ?_
  intro a ys ha
  exact hf a _ ha ys rfl

theorem after {step : String} (hp : Acts known p b P) :
    Marks known (p.afterChanges b step) b := fun _ hxs ↦
  (hp.afterChanges hxs).mono (fun _ _ h ↦ h) fun _ _ _ ↦ trivial

theorem bindAfter {step : String} (hp : Acts known p b P)
    (hf : ∀ a c, P a c → Marks known (f a) c) :
    Marks known (p.afterChanges b step >>= f) b := fun _ hxs ↦
  (hp.afterChanges hxs).bind (fun _ _ h ↦ h) fun a ys ha ↦ hf a _ ha ys rfl

theorem of_acts (hp : Acts known p false P) : Marks known p false :=
  fun xs hxs ↦ (hp xs hxs).mono (fun _ _ h ↦ h.1.trans h.2.symm) fun _ _ _ ↦ trivial

end Marks

namespace Gateway

variable (kind : Kind)

theorem decode_cases (value : Json) :
    (∃ r, decode kind value = .done r ∧ kind.decode value = .ok r) ∨
      ∃ e : Error, decode kind value = .fail e ∧ e.isPartial = false := by
  rw [decode]
  cases kind.decode value with
  | ok r => exact .inl ⟨r, rfl, rfl⟩
  | error fault => exact .inr ⟨.json fault, rfl, rfl⟩

theorem decodeAll_cases (values : List Json) :
    (∃ l, decodeAll kind values = .done l ∧
        ∀ r ∈ l, ∃ value ∈ values, kind.decode value = .ok r) ∨
      ∃ e : Error, decodeAll kind values = .fail e ∧ e.isPartial = false := by
  induction values with
  | nil => exact .inl ⟨[], rfl, nofun⟩
  | cons value rest ih =>
    rw [decodeAll]
    obtain ⟨r, hr, hdecode⟩ | ⟨e, he, hplain⟩ := decode_cases kind value
    · rw [hr]
      obtain ⟨l, hl, hread⟩ | ⟨e, he, hplain⟩ := ih
      · refine .inl ⟨r :: l, by rw [hl]; rfl, fun x hx ↦ ?_⟩
        rcases List.mem_cons.1 hx with rfl | hx
        · exact ⟨value, List.mem_cons_self, hdecode⟩
        · obtain ⟨v, hv, hvx⟩ := hread x hx
          exact ⟨v, List.mem_cons_of_mem value hv, hvx⟩
      · exact .inr ⟨e, by rw [he]; rfl, hplain⟩
    · exact .inr ⟨e, by rw [he]; rfl, hplain⟩

theorem decodeResult_cases (operation : Operation) (found : Option Json) :
    (∃ r, decodeResult kind operation found = .done r) ∨
      ∃ e : Error, decodeResult kind operation found = .fail e ∧ e.isPartial = false := by
  unfold decodeResult
  split
  · exact .inr ⟨_, rfl, rfl⟩
  · exact .inr ⟨_, rfl, rfl⟩
  · rename_i value _
    obtain ⟨r, hr, -⟩ | ⟨e, he, hplain⟩ := decode_cases kind value
    · rw [hr]
      by_cases hid : (kind.idOf r).isNone
      · exact .inr ⟨nullResult kind operation, if_pos hid, rfl⟩
      · exact .inl ⟨r, if_neg hid⟩
    · exact .inr ⟨e, by rw [he]; rfl, hplain⟩

end Gateway

namespace Asks

variable {kind : Kind} {id : String}

theorem get (hid : id ≠ "") : Asks known (Gateway.get kind id) (.get kind id) fun found ↦
    ∀ r ∈ found, known kind id ∧ known kind (kind.key r) := by
  intro xs _
  rw [Gateway.get, Gateway.requireId, if_neg hid]
  refine ⟨fun _ ↦ trivial, fun x hx ↦ ?_⟩
  rcases x with e | _ | value
  · exact ⟨rfl, .error e, rfl, rfl⟩
  · exact ⟨.ok none, rfl, rfl, fun _ _ h ↦ nomatch h⟩
  · have haccepted : Exchange.accepted ⟨.get kind id, .ok (some value)⟩ =
        (Gateway.decode kind value).isDone := rfl
    obtain ⟨r, hr, hdecode⟩ | ⟨e, he, hplain⟩ := Gateway.decode_cases kind value
    · simp only [Program.done_bind, hr]
      refine ⟨.ok (some value), rfl, by rw [haccepted, hr]; rfl, fun hxs a ha ↦ ?_⟩
      cases ha
      exact hx hxs r hdecode
    · simp only [Program.done_bind, he]
      exact ⟨hplain, .ok (some value), rfl, by rw [haccepted, he]; rfl⟩

theorem list (kind : Kind) (query : Query) : Asks known (Gateway.list kind query)
    (.list kind query) fun l ↦ ∀ r ∈ l, known kind (kind.key r) := by
  intro xs _
  refine ⟨fun _ ↦ trivial, fun x hx ↦ ?_⟩
  rcases x with e | values
  · exact ⟨rfl, .error e, rfl, rfl⟩
  · have haccepted : Exchange.accepted ⟨.list kind query, .ok values⟩ =
        (Gateway.decodeAll kind values).isDone := rfl
    obtain ⟨l, hl, hall⟩ | ⟨e, he, hplain⟩ := Gateway.decodeAll_cases kind values
    · simp only [Program.done_bind, hl]
      refine ⟨.ok values, rfl, by rw [haccepted, hl]; rfl, fun hxs r hr ↦ ?_⟩
      obtain ⟨value, hvalue, hdecode⟩ := hall r hr
      exact hx hxs value hvalue r hdecode
    · simp only [Program.done_bind, he]
      exact ⟨hplain, .ok values, rfl, by rw [haccepted, he]; rfl⟩

theorem result {operation : Operation} {found : Option Json} {c : Call} {r : c.Reply}
    (hr : Exchange.accepted ⟨c, r⟩ = (Gateway.decodeResult kind operation found).isDone) :
    Concludes known (Gateway.decodeResult kind operation found) (xs ++ [⟨c, r⟩])
      (fun e ys ↦ e.isPartial = false ∧
        ∃ r, ys = xs ++ [⟨c, r⟩] ∧ Exchange.accepted ⟨c, r⟩ = false)
      fun _ ys ↦ ∃ r, ys = xs ++ [⟨c, r⟩] ∧ Exchange.accepted ⟨c, r⟩ = true ∧
        (changed xs = false → True) := by
  obtain ⟨a, ha⟩ | ⟨e, he, hplain⟩ := Gateway.decodeResult_cases kind operation found
  · rw [ha] at hr ⊢
    exact ⟨r, rfl, hr, fun _ ↦ trivial⟩
  · rw [he] at hr ⊢
    exact ⟨hplain, r, rfl, hr⟩

theorem create (kind : Kind) (r : kind.Resource) : Asks known (Gateway.create kind r)
    (.create kind (Gateway.body kind r)) fun _ ↦ True := by
  intro xs hxs
  refine ⟨hxs, fun x _ ↦ ?_⟩
  rcases x with e | found
  · exact ⟨rfl, .error e, rfl, rfl⟩
  · exact result rfl

theorem update (hid : id ≠ "") (r : kind.Resource) : Asks known (Gateway.update kind id r)
    (.update kind id (Gateway.body kind r)) fun _ ↦ True := by
  intro xs hxs
  rw [Gateway.update, Gateway.requireId, if_neg hid]
  refine ⟨hxs, fun x _ ↦ ?_⟩
  rcases x with e | found
  · exact ⟨rfl, .error e, rfl, rfl⟩
  · exact result rfl

end Asks

namespace Acts

variable {b : Bool} {kind : Kind} {id : String} {c : Call}

theorem of_reading {P : α → Prop} (hp : Asks known p c P) (hc : c.Grounded known)
    (hread : ∀ r, Exchange.applied ⟨c, r⟩ = false) :
    Acts known p b fun a d ↦ d = b ∧ (b = false → P a) := by
  intro xs hxs
  have hkeep (r : c.Reply) : changed (xs ++ [⟨c, r⟩]) = b := by
    rw [changed_append, hread, hxs, Bool.or_false]
  refine (hp xs fun _ ↦ hc).mono ?_ ?_
  · intro e ys h
    obtain ⟨he, r, rfl, -⟩ := h
    exact ⟨he, hkeep r⟩
  · intro a ys h
    obtain ⟨r, rfl, -, ha⟩ := h
    exact ⟨hkeep r, fun hb ↦ ha (hxs.trans hb)⟩

theorem of_change {P : α → Prop} (hp : Asks known p c P) (hc : b = false → c.Grounded known)
    (hchange : ∀ r, Exchange.applied ⟨c, r⟩ = Exchange.accepted ⟨c, r⟩) :
    Acts known p b fun _ d ↦ d = true := by
  intro xs hxs
  refine (hp xs fun h ↦ hc (hxs.symm.trans h)).mono ?_ ?_
  · intro e ys h
    obtain ⟨he, r, rfl, hr⟩ := h
    rw [changed_append, hchange, hr, Bool.or_false]
    exact ⟨he, hxs⟩
  · intro a ys h
    obtain ⟨r, rfl, hr, -⟩ := h
    rw [changed_append, hchange, hr, Bool.or_true]

theorem get (kind : Kind) (id : String) : Acts known (Gateway.get kind id) b fun found c ↦
    c = b ∧ (b = false → ∀ r ∈ found, known kind id ∧ known kind (kind.key r)) := by
  by_cases hid : id = ""
  · rw [Gateway.get, Gateway.requireId, if_pos hid]
    exact fail rfl
  · exact of_reading (.get hid) trivial fun _ ↦ rfl

theorem list (kind : Kind) (query : Query) : Acts known (Gateway.list kind query) b fun l c ↦
    c = b ∧ (b = false → ∀ r ∈ l, known kind (kind.key r)) :=
  of_reading (.list kind query) trivial fun _ ↦ rfl

theorem create (kind : Kind) (r : kind.Resource) :
    Acts known (Gateway.create kind r) b fun _ c ↦ c = true :=
  of_change (.create kind r) (fun _ ↦ ⟨r, rfl⟩) fun _ ↦ rfl

theorem update (kind : Kind) {id : String} (hid : b = false → known kind id) (r : kind.Resource) :
    Acts known (Gateway.update kind id r) b fun _ c ↦ c = true := by
  by_cases hblank : id = ""
  · rw [Gateway.update, Gateway.requireId, if_pos hblank]
    exact fail rfl
  · exact of_change (.update hblank r) (fun hb ↦ ⟨hid hb, r, rfl⟩) fun _ ↦ rfl

theorem deleteRaw (kind : Kind) (id : String) : Acts known (Gateway.deleteRaw kind id) b
    fun response c ↦
      c = (b || (response.isSuccess || (kind != .portChain && response.isNotFound))) := by
  intro xs hxs
  by_cases hblank : id = ""
  · rw [Gateway.deleteRaw, Gateway.requireId, if_pos hblank]
    exact ⟨rfl, hxs⟩
  rw [Gateway.deleteRaw, Gateway.requireId, if_neg hblank]
  refine ⟨fun _ ↦ trivial, fun x _ ↦ ?_⟩
  rcases x with e | response
  · refine ⟨rfl, ?_⟩
    rw [changed_append, hxs]
    exact Bool.or_false b
  · exact show changed (xs ++ [_]) = _ by rw [changed_append, hxs]; rfl

theorem delete {kind : Kind} (hkind : kind ≠ .portChain) (id : String) :
    Acts known (Gateway.delete kind id) b fun _ c ↦ c = true := by
  intro xs hxs
  have hchain : (kind != .portChain) = true := by simpa using hkind
  refine (deleteRaw kind id xs hxs).bind ?_ ?_
  · exact fun _ _ h ↦ h
  · intro response ys hys
    rw [hchain, Bool.true_and] at hys
    by_cases hgone : (response.isSuccess || response.isNotFound) = true
    · rw [if_pos hgone]
      exact hys.trans (by rw [hgone, Bool.or_true])
    · rw [if_neg hgone]
      have hnot : (response.isSuccess || response.isNotFound) = false := by simpa using hgone
      exact ⟨rfl, hys.trans (by rw [hnot, Bool.or_false])⟩

end Acts

end TrafficSteering
