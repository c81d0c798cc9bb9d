import TrafficSteering.Proofs.Engine.Mentions
import TrafficSteering.Proofs.Rest.Peers

namespace TrafficSteering

open Engine HookTag Json Net Rest

variable {σ : Type} {key : String} {ids : Nat → String}

inductive Action where
  | request (r : Request)
  | call (c : Call)
deriving DecidableEq, Inhabited

namespace Action

abbrev Outcome : Action → Type
  | request r => Except Error r.Value
  | call c => c.Reply

def run (key : String) (t : Transport σ) : (a : Action) → σ → a.Outcome × σ
  | request r, s => (r.program key).run t s
  | call c, s => t.reply c s

def exchanges (key : String) (t : Transport σ) : Action → σ → List Exchange
  | request r, s => (r.program key).exchanges t s
  | call c, s => [⟨c, (t.reply c s).1⟩]

/-- The ids in the arguments are plain, and what is sent by a single call is an object. -/
def Plain (key : String) : Action → Prop
  | request r => r.Names (plain key)
  | call c => (plain key).Sends c

end Action

/-- The client and the peer draw ids from one counter. -/
def Rest.shared (c : NeutronConfig) (ids : Nat → String) (status : Call → Nat) :
    Transport (State Memory) :=
  { transport c (peer ids status) ids with
    draw := fun s ↦ ((s.peer.draw ids).1, { s with peer := (s.peer.draw ids).2 }) }

theorem regular_of_sends {c : Call} (h : (plain key).Sends c) : Regular c := by
  cases c with
  | create kind body => exact h.imp fun _ hd ↦ hd.1
  | get kind id => exact h
  | list kind query => trivial
  | update kind id body => exact ⟨h.1, h.2.imp fun _ hd ↦ hd.1⟩
  | delete kind id => exact h

/-- The peer of the client's holds the memory, in which no failure is scheduled and all ids are
plain. -/
structure Memory.Served (key : String) (m : Memory) (s : State Memory) : Prop where
  held : s.peer = m
  keyed : m.Keyed
  calm : m.failures = []
  named : m.Plain key

section

variable {c : NeutronConfig} {host name token : String} {port : Nat} {status : Call → Nat}
  {m : Memory} {s : State Memory}

namespace Memory.Served

variable (hids : ∀ n, IsPlain (ids n)) (h : m.Served key s)
include h

theorem draw : (s.peer.draw ids).1 = (m.draw ids).1 ∧
    (m.draw ids).2.Served key { s with peer := (s.peer.draw ids).2 } := by
  rw [h.held]
  exact ⟨rfl, rfl, h.keyed, h.calm, h.named⟩

include hids

/-- A call that may be made is answered alike. -/
theorem call (hreaches : Reaches c host name port token)
    (hstatus : ∀ c, 200 ≤ status c ∧ status c < 300) {call : Call}
    (hcall : (plain key).Sends call) (hfits : Fits c call)
    (hsurvives : Survives call (reply ids call m).1) :
    ((shared c ids status).reply call s).1 = (reply ids call m).1 ∧
      (reply ids call m).2.Served key ((shared c ids status).reply call s).2 ∧
      (plain key).Hears call (reply ids call m).1 := by
  have hreply : (shared c ids status).reply call s =
      ((reply ids call m).1, { s with peer := (reply ids call m).2 }) := by
    have hcalm : s.peer.failures = [] := h.held ▸ h.calm
    rw [← h.held] at hsurvives ⊢
    exact reply_peer hreaches hstatus hcalm (regular_of_sends hcall) hfits hsurvives
  have hkeyed : (reply ids call m).2.Keyed := h.keyed.reply call
  have hplain := h.named.reply hids h.keyed hcall
  rw [hreply]
  exact ⟨rfl, ⟨rfl, hkeyed, Memory.reply_undisturbed call h.calm, hplain⟩,
    (hplain.known hkeyed).hears h.keyed⟩

theorem action (hreaches : Reaches c host name port token)
    (hstatus : ∀ c, 200 ≤ status c ∧ status c < 300) {a : Action} (ha : a.Plain key)
    (hmade : ∀ x ∈ a.exchanges key (Memory.transport ids) m, Fits c x.1 ∧ Survives x.1 x.2) :
    (a.run key (shared c ids status) s).1 = (a.run key (Memory.transport ids) m).1 ∧
      (a.run key (Memory.transport ids) m).2.Served key (a.run key (shared c ids status) s).2 := by
  cases a with
  | request r =>
    refine Program.Conforms.agree (I := Memory.Served key)
      (F := fun x ↦ Fits c x.1 ∧ Survives x.1 x.2) ?_ ?_ h
      (Program.Conforms.request (plain_serving key) ha) hmade
    · intro call n t hcall hmade hn
      exact hn.call hids hreaches hstatus hcall hmade.1 hmade.2
    · intro n t hn
      exact hn.draw
  | call call =>
    obtain ⟨hfits, hsurvives⟩ := hmade _ (List.mem_singleton_self _)
    obtain ⟨hreply, hnext, -⟩ := h.call hids hreaches hstatus ha hfits hsurvives
    exact ⟨hreply, hnext⟩

end Memory.Served

end

namespace Sample

def vacant : State Memory := { peer := { project := "project" } }

end Sample

namespace Sample

/-- The number 51.248178375505404, whose text is read as the one after it. -/
def weight : Decimal.Binary64 := ⟨4632409357216853856⟩

def created (name : Json) : Json :=
  .obj [("id", .str (numberedId 1)), ("name", name), ("project_id", .str "project"),
    ("tenant_id", .str "project")]

end Sample

end TrafficSteering
