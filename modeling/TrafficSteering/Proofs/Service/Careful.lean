import TrafficSteering.Proofs.Service.Replies

namespace TrafficSteering

variable {α β : Type} {ids : Nat → String} {m : Memory}

def PortPair.Ended (p : PortPair) : Prop := p.ingress ≠ some "" ∧ p.egress ≠ some ""

def Call.Careful : Call → Prop
  | .create .portPair body => ∃ p : PortPair, body = Gateway.body .portPair p ∧ p.Ended
  | .update .portPair _ _ => False
  | _ => True

/-- However its calls are answered, the program does not end by blaming an argument, and all of them
are careful. -/
def Program.Careful : Program α → Prop
  | .done _ => True
  | .fail e => e.kind ≠ .invalidArgument
  | .call c next => c.Careful ∧ ∀ r, (next r).Careful
  | .draw next => ∀ id, (next id).Careful

def Memory.Ended (m : Memory) : Prop :=
  ∀ id value p, (m.collections.get .portPair).get? id = some value →
    Kind.portPair.decode (Json.ofObject value) = .ok p → PortPair.Ended p

theorem Memory.Ended.reply (h : m.Ended) (hm : m.Keyed) {c : Call} (hc : c.Careful) :
    (Memory.reply ids c m).2.Ended := by
  intro id value p hget hp
  cases (Memory.replied ids m c).origin hm hget with
  | kept hold => exact h id value p hold hp
  | created hbody hid hdrawn hvalue =>
    obtain ⟨q, rfl, hq⟩ := hc
    cases (Service.object?_body .portPair q).symm.trans hbody
    rw [Memory.issued, Kind.completed_encode] at hvalue
    subst hvalue
    cases (Kind.decode_encode .portPair _).symm.trans hp
    exact hq
  | updated => exact hc.elim

theorem Memory.Keyed.run (hm : m.Keyed) (p : Program α) :
    (p.run (Memory.transport ids) m).2.Keyed := by
  induction p generalizing m with
  | done a => exact hm
  | fail e => exact hm
  | call c next ih => exact ih _ (hm.reply c)
  | draw next ih => exact ih _ hm

namespace Program.Careful

variable {p : Program α} {f : α → Program β} {kind : Kind} {id : String}

theorem done (a : α) : (pure a : Program α).Careful := trivial

theorem fail {e : Error} (h : e.kind ≠ .invalidArgument) : (Program.fail e : Program α).Careful :=
  h

theorem bind (hp : p.Careful) (hf : ∀ a, (f a).Careful) : (p >>= f).Careful := by
  induction p with
  | done a => exact hf a
  | fail e => exact hp
  | call c next ih => exact ⟨hp.1, fun r ↦ ih r (hp.2 r)⟩
  | draw next ih => exact fun id ↦ ih id (hp id)

theorem afterChanges (hp : p.Careful) (changed : Bool) (step : String) :
    (p.afterChanges changed step).Careful := by
  induction p with
  | done a => trivial
  | fail e => cases changed <;> exact hp
  | call c next ih => exact ⟨hp.1, fun r ↦ ih r (hp.2 r)⟩
  | draw next ih => exact fun id ↦ ih id (hp id)

theorem single {c : Call} (hc : c.Careful) : (Program.call c Program.done).Careful :=
  ⟨hc, fun _ ↦ trivial⟩

theorem run (hp : p.Careful) (hm : m.Keyed) (h : m.Ended) :
    (∀ e, (p.run (Memory.transport ids) m).1 = .error e → e.kind ≠ .invalidArgument) ∧
      (p.run (Memory.transport ids) m).2.Ended := by
  induction p generalizing m with
  | done a => exact ⟨nofun, h⟩
  | fail e =>
    refine ⟨fun e' he ↦ ?_, h⟩
    cases he
    exact hp
  | call c next ih => exact ih _ (hp.2 _) (hm.reply c) (h.reply hm hp.1)
  | draw next ih => exact ih _ (hp _) hm h

theorem requireId (hid : id ≠ "") : (Gateway.requireId kind id).Careful := by
  rw [Gateway.requireId, if_neg hid]
  trivial

theorem decode (value : Json) : (Gateway.decode kind value).Careful := by
  unfold Gateway.decode
  split
  · trivial
  · exact fail nofun

theorem decodeResult (operation : Operation) (found : Option Json) :
    (Gateway.decodeResult kind operation found).Careful := by
  unfold Gateway.decodeResult
  split
  · exact fail nofun
  · exact fail nofun
  · refine bind (decode _) fun r ↦ ?_
    split
    · exact fail nofun
    · trivial

theorem decodeAll (values : List Json) : (Gateway.decodeAll kind values).Careful := by
  induction values with
  | nil => trivial
  | cons value rest ih => exact bind (decode value) fun _ ↦ bind ih fun _ ↦ done _

theorem get (hid : id ≠ "") : (Gateway.get kind id).Careful := by
  refine bind (requireId hid) fun _ ↦ bind (single trivial) fun r ↦ ?_
  rcases r with e | _ | value
  · exact fail nofun
  · trivial
  · exact bind (decode value) fun _ ↦ done _

theorem list (kind : Kind) (query : Query) : (Gateway.list kind query).Careful := by
  refine bind (single trivial) fun r ↦ ?_
  rcases r with e | values
  · exact fail nofun
  · exact decodeAll values

theorem create {r : kind.Resource} (hc : (Call.create kind (Gateway.body kind r)).Careful) :
    (Gateway.create kind r).Careful := by
  refine bind (single hc) fun x ↦ ?_
  rcases x with e | found
  · exact fail nofun
  · exact decodeResult .create found

theorem update {r : kind.Resource} (hid : id ≠ "")
    (hc : (Call.update kind id (Gateway.body kind r)).Careful) :
    (Gateway.update kind id r).Careful := by
  refine bind (requireId hid) fun _ ↦ bind (single hc) fun x ↦ ?_
  rcases x with e | found
  · exact fail nofun
  · exact decodeResult .update found

theorem deleteRaw (hid : id ≠ "") : (Gateway.deleteRaw kind id).Careful := by
  refine bind (requireId hid) fun _ ↦ bind (single trivial) fun x ↦ ?_
  rcases x with e | response
  · exact fail nofun
  · trivial

theorem delete (hid : id ≠ "") : (Gateway.delete kind id).Careful := by
  refine bind (deleteRaw hid) fun response ↦ ?_
  split
  · exact done ()
  · exact fail nofun

end Program.Careful

end TrafficSteering
