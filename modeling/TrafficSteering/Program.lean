import TrafficSteering.Error
import TrafficSteering.Json.Basic
import TrafficSteering.Resource.Port
import TrafficSteering.Resource.Kind

namespace TrafficSteering

/-- One call to the network service. -/
inductive Call where
  | create (kind : Kind) (body : Json)
  | get (kind : Kind) (id : String)
  | list (kind : Kind) (query : Query)
  | update (kind : Kind) (id : String) (body : Json)
  | delete (kind : Kind) (id : String)
deriving DecidableEq, Inhabited

namespace Call

/-- What a call is answered with. A get finds nothing, and a create or an update succeeds without a
body, where the answer is none. -/
abbrev Reply : Call → Type
  | create _ _ | get _ _ | update _ _ _ => Except TransportError (Option Json)
  | list _ _ => Except TransportError (List Json)
  | delete _ _ => Except TransportError ActionResponse

def kind : Call → Kind
  | create kind _ | get kind _ | list kind _ | update kind _ _ | delete kind _ => kind

def operation : Call → Operation
  | create _ _ => .create
  | get _ _ => .get
  | list _ _ => .list
  | update _ _ _ => .update
  | delete _ _ => .delete

end Call

/-- Answers calls one by one, and draws fresh ids. -/
structure Transport (σ : Type) where
  name : String
  reply : (call : Call) → σ → call.Reply × σ
  draw : σ → String × σ

/-- A tree of single calls: each node holds a call and, for every answer to it, the program that
follows. -/
inductive Program (α : Type) where
  | done (value : α)
  | fail (error : Error)
  | call (call : Call) (next : call.Reply → Program α)
  | draw (next : String → Program α)

namespace Program

variable {α β : Type} {σ : Type}

instance : Inhabited (Program α) := ⟨.fail default⟩

def bind : Program α → (α → Program β) → Program β
  | done value, f => f value
  | fail error, _ => fail error
  | call c next, f => call c fun r ↦ (next r).bind f
  | draw next, f => draw fun id ↦ (next id).bind f

instance : Monad Program where
  pure := done
  bind := bind

def mapError (f : Error → Error) : Program α → Program α
  | done value => done value
  | fail error => fail (f error)
  | call c next => call c fun r ↦ (next r).mapError f
  | draw next => draw fun id ↦ (next id).mapError f

/-- One step of a longer operation: once earlier steps have changed something, its failure leaves
the operation applied in part. -/
def afterChanges (changed : Bool) (step : String) (p : Program α) : Program α :=
  p.mapError fun e ↦ if changed then .partialApply step e else e

def ofExcept : Except Error α → Program α
  | .ok value => done value
  | .error error => fail error

instance : MonadLift (Except Error) Program := ⟨ofExcept⟩

def create (kind : Kind) (body : Json) : Program (Except TransportError (Option Json)) :=
  call (.create kind body) done

def get (kind : Kind) (id : String) : Program (Except TransportError (Option Json)) :=
  call (.get kind id) done

def list (kind : Kind) (query : Query) : Program (Except TransportError (List Json)) :=
  call (.list kind query) done

def update (kind : Kind) (id : String) (body : Json) :
    Program (Except TransportError (Option Json)) :=
  call (.update kind id body) done

def delete (kind : Kind) (id : String) : Program (Except TransportError ActionResponse) :=
  call (.delete kind id) done

def freshId : Program String := draw done

def run (t : Transport σ) : Program α → σ → Except Error α × σ
  | done value, s => (.ok value, s)
  | fail error, s => (.error error, s)
  | call c next, s => (next (t.reply c s).1).run t (t.reply c s).2
  | draw next, s => (next (t.draw s).1).run t (t.draw s).2

/-- Draws ids up to the next call and makes that call; none when the program has ended. -/
def step? (t : Transport σ) : Program α → σ → Option (Program α × σ)
  | done _, _ => none
  | fail _, _ => none
  | call c next, s => some (next (t.reply c s).1, (t.reply c s).2)
  | draw next, s => (next (t.draw s).1).step? t (t.draw s).2

@[simp] theorem done_bind (value : α) (f : α → Program β) : (done value).bind f = f value := rfl

@[simp] theorem fail_bind (error : Error) (f : α → Program β) :
    (fail error).bind f = fail error := rfl

theorem bind_done (p : Program α) : p.bind done = p := by
  induction p with
  | done | fail => rfl
  | call c next ih => simp only [bind, ih]
  | draw next ih => simp only [bind, ih]

theorem bind_assoc {γ : Type} (p : Program α) (f : α → Program β) (g : β → Program γ) :
    (p.bind f).bind g = p.bind fun a ↦ (f a).bind g := by
  induction p with
  | done | fail => rfl
  | call c next ih => simp only [bind, ih]
  | draw next ih => simp only [bind, ih]

instance : LawfulMonad Program :=
  LawfulMonad.mk' Program bind_done (fun _ _ ↦ rfl) bind_assoc

theorem run_bind (t : Transport σ) (p : Program α) (f : α → Program β) (s : σ) :
    (p.bind f).run t s =
      match p.run t s with
      | (.ok value, s') => (f value).run t s'
      | (.error error, s') => (.error error, s') := by
  induction p generalizing s with
  | done | fail => rfl
  | call c next ih => simp only [bind, run, ih]
  | draw next ih => simp only [bind, run, ih]

theorem run_mapError (t : Transport σ) (f : Error → Error) (p : Program α) (s : σ) :
    (p.mapError f).run t s = ((p.run t s).1.mapError f, (p.run t s).2) := by
  induction p generalizing s with
  | done | fail => rfl
  | call c next ih => simp only [mapError, run, ih]
  | draw next ih => simp only [mapError, run, ih]

end Program

namespace Transport

variable {σ : Type}

def recorded (t : Transport σ) : Transport (σ × List Call) where
  name := t.name
  reply c s :=
    let (r, s') := t.reply c s.1
    (r, s', c :: s.2)
  draw s :=
    let (id, s') := t.draw s.1
    (id, s', s.2)

end Transport

def numberedId (n : Nat) : String :=
  let digits := Nat.toDigits 16 n
  String.ofList (List.replicate (8 - digits.length) '0' ++ digits) ++ "-0000-4000-8000-000000000000"

end TrafficSteering
