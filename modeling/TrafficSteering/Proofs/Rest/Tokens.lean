import Mathlib.Data.List.DropRight
import TrafficSteering.Rest

namespace TrafficSteering

open Net Http

variable {π : Type}

namespace Net.Http

theorem trimHeader_sublist (text : String) : (trimHeader text).toList.Sublist text.toList := by
  rw [trimHeader, String.toList_ofList, ← List.reverse_sublist, List.reverse_reverse]
  exact (List.dropWhile_sublist _).trans (List.dropWhile_sublist _).reverse

theorem isHeaderValue_trimHeader {text : String} (h : isVisible text = true) :
    isHeaderValue (trimHeader text) = true := by
  refine List.all_eq_true.2 fun c hc ↦ ?_
  have hvisible := List.all_eq_true.1 h c ((trimHeader_sublist text).subset hc)
  simp only [Bool.or_eq_true, Bool.and_eq_true, decide_eq_true_eq, beq_iff_eq, bne_iff_ne]
    at hvisible ⊢
  refine hvisible.imp_left fun hc ↦ ⟨hc.1, ?_⟩
  omega

theorem trimHeader_trimHeader (text : String) : trimHeader (trimHeader text) = trimHeader text := by
  have htrim (cs : List Char) (p : Char → Bool) :
      ((cs.dropWhile p).rdropWhile p).dropWhile p = (cs.dropWhile p).rdropWhile p := by
    obtain ⟨rest, hrest⟩ := List.rdropWhile_prefix p (cs.dropWhile p)
    cases hkept : (cs.dropWhile p).rdropWhile p with
    | nil => rfl
    | cons x kept =>
      have hfront : cs.dropWhile p = x :: (kept ++ rest) := by rw [← hrest, hkept]; rfl
      have hx : p x = false := by
        have hhead := List.head?_dropWhile_not p cs
        rwa [hfront] at hhead
      exact List.dropWhile_cons_of_neg (by simp [hx])
  have hvalue (text : String) : trimHeader text = String.ofList
      ((text.toList.dropWhile fun c ↦ c == ' ' || c == '\t').rdropWhile
        fun c ↦ c == ' ' || c == '\t') := rfl
  rw [hvalue (trimHeader text), hvalue text, String.toList_ofList, htrim,
    List.rdropWhile_idempotent]

structure RoundTrip where
  request : Request
  response : Option Response
deriving DecidableEq

def Peer.logged (p : Peer π) : Peer (π × List RoundTrip) where
  exchange r s :=
    let (answer, s') := p.exchange r s.1
    (answer, s', s.2 ++ [⟨r, answer⟩])

namespace RoundTrip

def isLogin (x : RoundTrip) : Bool := x.request.token.isNone

/-- The token that a login is answered with: one that can be read, in a response of success. -/
def grant? (x : RoundTrip) : Option String :=
  match x.response with
  | some r =>
    if x.isLogin && r.isSuccess then
      ((r.header? "X-Subject-Token").filter isVisible).map trimHeader
    else none
  | none => none

def isRejected (x : RoundTrip) : Bool := x.response.any (·.status == 401)

/-- The token that is held after a round trip. -/
def held (token : Option String) (x : RoundTrip) : Option String :=
  if x.isLogin then x.grant? else if x.isRejected then none else token

end RoundTrip

end Net.Http

namespace Rest

/-- A call with all that was sent for it, and the tokens held before and after it. -/
structure Turn where
  call : Call
  before : Option String
  trips : List RoundTrip
  reply : call.Reply
  after : Option String

namespace Turn

def logins (t : Turn) : List RoundTrip := t.trips.filter RoundTrip.isLogin

def services (t : Turn) : List RoundTrip := t.trips.filter fun x ↦ !x.isLogin

end Turn

def State.withLog (s : State π) (log : List RoundTrip) : State (π × List RoundTrip) where
  token := s.token
  peer := (s.peer, log)
  drawn := s.drawn

def turn (c : NeutronConfig) (p : Peer π) (call : Call) (s : State π) : Turn where
  call := call
  before := s.token
  trips := (reply c p.logged call (s.withLog [])).2.peer.2
  reply := (reply c p call s).1
  after := (reply c p call s).2.token

def turns (c : NeutronConfig) (p : Peer π) : List Call → State π → List Turn
  | [], _ => []
  | call :: rest, s => turn c p call s :: turns c p rest (reply c p call s).2

def login? (c : NeutronConfig) : Option Request :=
  ((Url.parse? (tokensUrl c)).filter Url.isSendable).map fun url ↦
    { method := .post, url, body := some (credentials c) }

/-- How a call may come by a token: what is sent for it, the outcome, and what is held then. -/
inductive Supplied (c : NeutronConfig) : Option String → List RoundTrip →
    Except TransportError String → Option String → Prop
  | given {token : String} (before : Option String) (h : c.token = some token) :
      Supplied c before [] (.ok token) before
  | kept (token : String) (h : c.token = none) : Supplied c (some token) [] (.ok token) (some token)
  | unreachable (h : c.token = none) (hlogin : login? c = none) :
      Supplied c none [] (.error unusable) none
  | granted {x : RoundTrip} {token : String} (h : c.token = none)
      (hlogin : login? c = some x.request) (hgrant : x.grant? = some token) :
      Supplied c none [x] (.ok token) (some token)
  | denied {x : RoundTrip} (e : TransportError) (h : c.token = none)
      (hlogin : login? c = some x.request) (hgrant : x.grant? = none) :
      Supplied c none [x] (.error e) none

/-- How a call may go. -/
inductive Conversed (c : NeutronConfig) (call : Call) : Option String → List RoundTrip →
    call.Reply → Option String → Prop
  | stopped {before after : Option String} {xs : List RoundTrip} {e : TransportError}
      (h : Supplied c before xs (.error e) after) :
      Conversed c call before xs (refused call e) after
  | unsent {before after : Option String} {xs : List RoundTrip} {token : String}
      (h : Supplied c before xs (.ok token) after)
      (hno : request c call = none ∨ isHeaderValue token = false) :
      Conversed c call before xs (refused call unusable) after
  | lost {before after : Option String} {xs : List RoundTrip} {token : String}
      {f : String → Request} (h : Supplied c before xs (.ok token) after)
      (hrequest : request c call = some f) :
      Conversed c call before (xs ++ [⟨f token, none⟩]) (refused call (lost (f token).url)) after
  | answered {before after : Option String} {xs : List RoundTrip} {token : String}
      {f : String → Request} (h : Supplied c before xs (.ok token) after)
      (hrequest : request c call = some f) (r : Response) :
      Conversed c call before (xs ++ [⟨f token, some r⟩]) (readReply call r)
        (if r.status = 401 ∧ c.token = none then none else after)

variable {c : NeutronConfig} {p : Peer π}

theorem login?_token {r : Request} (h : login? c = some r) : r.token = none := by
  obtain ⟨url, -, rfl⟩ := Option.map_eq_some_iff.1 h
  rfl

theorem request_token {call : Call} {f : String → Request} (h : request c call = some f)
    (token : String) : (f token).token = some (trimHeader token) := by
  have hdraft (method : Method) (url : Option Url) (body : Option Json)
      (h : draft method url body = some f) : (f token).token = some (trimHeader token) := by
    obtain ⟨url, -, rfl⟩ := Option.map_eq_some_iff.1 h
    rfl
  cases call <;> exact hdraft _ _ _ h

theorem grant?_login {x : RoundTrip} (hx : x.request.token = none) {r : Response}
    (hr : x.response = some r) : x.grant? = (subjectToken r).toOption := by
  have hlogin : x.isLogin = true := congrArg Option.isNone hx
  rw [RoundTrip.grant?, hr, hlogin, subjectToken]
  dsimp only
  cases r.isSuccess with
  | false => rfl
  | true =>
    cases r.header? "X-Subject-Token" with
    | none => rfl
    | some token => cases hvisible : isVisible token <;> simp [hvisible, Except.toOption]

theorem exchange_logged (p : Peer π) (r : Request) (s : π) (log : List RoundTrip) :
    p.logged.exchange r (s, log) =
      ((p.exchange r s).1, (p.exchange r s).2, log ++ [⟨r, (p.exchange r s).1⟩]) := rfl

theorem exchange_of_logged {r : Request} {s s' : π} {answer : Option Response}
    (h : p.exchange r s = (answer, s')) (log : List RoundTrip) :
    p.logged.exchange r (s, log) = (answer, s', log ++ [⟨r, answer⟩]) := by
  rw [exchange_logged, h]

theorem authenticate_supplied (p : Peer π) {s : State π} (log : List RoundTrip)
    (hc : c.token = none) (hs : s.token = none) :
    ∃ xs, authenticate c p.logged (s.withLog log) =
        ((authenticate c p s).1, (authenticate c p s).2.withLog (log ++ xs)) ∧
      Supplied c none xs (authenticate c p s).1 (authenticate c p s).2.token := by
  obtain ⟨token, state, drawn⟩ := s
  obtain rfl : token = none := hs
  have hlogin : login? c = ((Url.parse? (tokensUrl c)).filter Url.isSendable).map fun url ↦
      { method := .post, url, body := some (credentials c) } := rfl
  cases hurl : (Url.parse? (tokensUrl c)).filter Url.isSendable with
  | none =>
    rw [hurl] at hlogin
    simp only [authenticate, hurl]
    exact ⟨[], by rw [List.append_nil], .unreachable hc hlogin⟩
  | some url =>
    rw [hurl, Option.map_some] at hlogin
    rcases hexchange : p.exchange { method := .post, url, body := some (credentials c) } state with
      ⟨answer, s'⟩
    have hlogged := exchange_of_logged hexchange log
    simp only [authenticate, hurl, State.withLog, hexchange, hlogged]
    refine ⟨[⟨{ method := .post, url, body := some (credentials c) }, answer⟩], ?_⟩
    cases answer with
    | none => exact ⟨rfl, .denied _ hc hlogin rfl⟩
    | some response =>
      have hgrant : RoundTrip.grant? ⟨_, some response⟩ = (subjectToken response).toOption :=
        grant?_login (login?_token hlogin) rfl
      cases htoken : subjectToken response with
      | error e =>
        rw [htoken] at hgrant
        simp only [htoken, true_and]
        exact .denied e hc hlogin hgrant
      | ok token =>
        rw [htoken] at hgrant
        simp only [htoken, true_and]
        exact .granted hc hlogin hgrant

theorem obtainToken_supplied (c : NeutronConfig) (p : Peer π) (s : State π)
    (log : List RoundTrip) :
    ∃ xs, obtainToken c p.logged (s.withLog log) =
        ((obtainToken c p s).1, (obtainToken c p s).2.withLog (log ++ xs)) ∧
      Supplied c s.token xs (obtainToken c p s).1 (obtainToken c p s).2.token := by
  have hlogged : (s.withLog log).token = s.token := rfl
  cases hc : c.token with
  | some token =>
    simp only [obtainToken, hc]
    exact ⟨[], by rw [List.append_nil], .given s.token hc⟩
  | none =>
    cases hs : s.token with
    | some token =>
      simp only [obtainToken, hc, hlogged, hs]
      exact ⟨[], by rw [List.append_nil], .kept token hc⟩
    | none =>
      simp only [obtainToken, hc, hlogged, hs]
      exact authenticate_supplied p log hc hs

/-- Every call goes in one of these ways, and the log tells how. -/
theorem reply_conversed (c : NeutronConfig) (p : Peer π) (call : Call) (s : State π)
    (log : List RoundTrip) :
    ∃ xs, reply c p.logged call (s.withLog log) =
        ((reply c p call s).1, (reply c p call s).2.withLog (log ++ xs)) ∧
      Conversed c call s.token xs (reply c p call s).1 (reply c p call s).2.token := by
  obtain ⟨xs, hlogged, hsupplied⟩ := obtainToken_supplied c p s log
  rcases hobtained : obtainToken c p s with ⟨e | token, t⟩
  · rw [hobtained] at hlogged hsupplied
    simp only [reply, send, hlogged, hobtained]
    exact ⟨xs, rfl, .stopped hsupplied⟩
  · rw [hobtained] at hlogged hsupplied
    cases hrequest : request c call with
    | none =>
      simp only [reply, send, hlogged, hobtained, hrequest]
      exact ⟨xs, rfl, .unsent hsupplied (.inl hrequest)⟩
    | some f =>
      cases hsendable : isHeaderValue token with
      | false =>
        simp only [reply, send, hlogged, hobtained, hrequest, hsendable]
        exact ⟨xs, rfl, .unsent hsupplied (.inr hsendable)⟩
      | true =>
        rcases hexchange : p.exchange (f token) t.peer with ⟨answer, s'⟩
        have hexchanged := exchange_of_logged hexchange (log ++ xs)
        simp only [State.withLog] at hlogged
        simp only [reply, send, hlogged, hobtained, hrequest, hsendable, State.withLog, hexchange,
          hexchanged, if_true, List.append_assoc]
        refine ⟨xs ++ [⟨f token, answer⟩], ?_⟩
        cases answer with
        | none => exact ⟨rfl, .lost hsupplied hrequest⟩
        | some r =>
          have hanswered := Conversed.answered hsupplied hrequest r
          -- status 401 takes a token away only where it was not given by the settings
          by_cases hdropped : r.status = 401 ∧ c.token = none
          · simp only [if_pos hdropped, true_and] at hanswered ⊢
            exact hanswered
          · simp only [if_neg hdropped, true_and] at hanswered ⊢
            exact hanswered

def latest? (log : List RoundTrip) : Option String := log.reverse.findSome? RoundTrip.grant?

/-- The token that is held, as the round trips so far tell it. -/
structure Tracked (c : NeutronConfig) (earlier : List RoundTrip) (token : Option String) :
    Prop where
  held : token = earlier.foldl RoundTrip.held none
  given : c.token ≠ none → token = none
  latest : token ≠ none → token = latest? earlier
  sendable : ∀ t ∈ token, isHeaderValue t = true ∧ trimHeader t = t

/-- What a call does with the round trips `earlier` before it. -/
structure Orderly (c : NeutronConfig) (earlier : List RoundTrip) (t : Turn) : Prop where
  before : t.before = earlier.foldl RoundTrip.held none
  after : t.after = t.trips.foldl RoundTrip.held t.before
  /-- A login comes before the request of the call. -/
  parts : t.trips = t.logins ++ t.services
  login : ∀ x ∈ t.logins, login? c = some x.request
  service : ∀ x ∈ t.services, ∃ f token, request c t.call = some f ∧ x.request = f token
  once : t.services.length ≤ 1
  given : ∀ token ∈ c.token,
    t.logins = [] ∧ ∀ x ∈ t.services, x.request.token = some (trimHeader token)
  asked : c.token = none → t.logins.length = if t.before = none then 1 else 0
  denied : ∀ x ∈ t.logins, x.grant? = none →
    t.services = [] ∧ t.after = none ∧ ∃ e, t.reply = refused t.call e
  carried : c.token = none →
    ∀ x ∈ t.services, x.request.token = latest? (earlier ++ t.logins)
  dropped : c.token = none → t.logins.foldl RoundTrip.held t.before ≠ none →
    (t.after = none ↔ ∃ x ∈ t.services, x.isRejected = true)
  /-- A call that has a token and an address is sent. -/
  sent : (∀ x ∈ t.logins, x.grant? ≠ none) → request c t.call ≠ none → t.services ≠ []

theorem Turn.eq_parts {t : Turn} {xs ys : List RoundTrip} (h : t.trips = xs ++ ys)
    (hxs : ∀ x ∈ xs, x.isLogin = true) (hys : ∀ y ∈ ys, y.isLogin = false) :
    t.logins = xs ∧ t.services = ys := by
  have hlogins : ys.filter RoundTrip.isLogin = [] :=
    List.filter_eq_nil_iff.2 fun y hy ↦ by simp [hys y hy]
  have hservices : xs.filter (fun x ↦ !x.isLogin) = [] :=
    List.filter_eq_nil_iff.2 fun x hx ↦ by simp [hxs x hx]
  constructor
  · rw [Turn.logins, h, List.filter_append, hlogins, List.append_nil, List.filter_eq_self.2 hxs]
  · rw [Turn.services, h, List.filter_append, hservices, List.nil_append]
    exact List.filter_eq_self.2 fun y hy ↦ by simp [hys y hy]

theorem latest?_append_of_none {x : RoundTrip} (h : x.grant? = none) (log : List RoundTrip) :
    latest? (log ++ [x]) = latest? log := by
  rw [latest?, List.reverse_append, List.reverse_singleton, List.singleton_append,
    List.findSome?_cons, h, latest?]

theorem latest?_append_of_some {x : RoundTrip} {token : String} (h : x.grant? = some token)
    (log : List RoundTrip) : latest? (log ++ [x]) = some token := by
  rw [latest?, List.reverse_append, List.reverse_singleton, List.singleton_append,
    List.findSome?_cons, h]

theorem isLogin_of_login? {x : RoundTrip} (h : login? c = some x.request) : x.isLogin = true :=
  congrArg Option.isNone (login?_token h)

theorem grant?_of_service {x : RoundTrip} (h : x.isLogin = false) : x.grant? = none := by
  rw [RoundTrip.grant?, h]
  cases x.response <;> rfl

theorem held_service {x : RoundTrip} (h : x.isLogin = false) (token : Option String) :
    RoundTrip.held token x = if x.isRejected then none else token := by
  rw [RoundTrip.held, h]
  rfl

theorem grant?_sendable {x : RoundTrip} {token : String} (h : x.grant? = some token) :
    isHeaderValue token = true ∧ trimHeader token = token := by
  rw [RoundTrip.grant?] at h
  split at h
  · split at h
    · obtain ⟨raw, hraw, rfl⟩ := Option.map_eq_some_iff.1 h
      have hvisible := (Option.filter_eq_some_iff.1 hraw).2
      exact ⟨isHeaderValue_trimHeader hvisible, trimHeader_trimHeader raw⟩
    · cases h
  · cases h

/-- A token that a call is supplied with: what is known of it. -/
structure Backed (c : NeutronConfig) (earlier : List RoundTrip) (before : Option String)
    (xs : List RoundTrip) (token : String) (after : Option String) : Prop where
  logins : ∀ x ∈ xs, login? c = some x.request ∧ x.grant? ≠ none
  held : after = xs.foldl RoundTrip.held before
  asked : c.token = none → xs.length = if before = none then 1 else 0
  given : ∀ t ∈ c.token, xs = [] ∧ t = token
  holds : c.token = none → after = some token
  tracked : Tracked c (earlier ++ xs) after

theorem Supplied.backed {before after : Option String} {xs earlier : List RoundTrip}
    {token : String} (h : Supplied c before xs (.ok token) after)
    (hearlier : Tracked c earlier before) : Backed c earlier before xs token after := by
  cases h with
  | given _ hc =>
    refine ⟨by simp, rfl, by simp [hc], by simp [hc], by simp [hc], ?_⟩
    rwa [List.append_nil]
  | kept _ hc =>
    refine ⟨by simp, rfl, by simp, by simp [hc], fun _ ↦ rfl, ?_⟩
    rwa [List.append_nil]
  | @granted x _ hc hlogin hgrant =>
    have hheld : RoundTrip.held none x = some token := by
      rw [RoundTrip.held, isLogin_of_login? hlogin, if_pos rfl, hgrant]
    refine ⟨by simp [hlogin, hgrant], by simp [hheld], by simp, by simp [hc], fun _ ↦ rfl, ?_⟩
    refine ⟨?_, fun h ↦ absurd hc h, fun _ ↦ (latest?_append_of_some hgrant _).symm, ?_⟩
    · rw [List.foldl_append, ← hearlier.held]
      exact hheld.symm
    · rintro _ ⟨⟩
      exact grant?_sendable hgrant

inductive Posted (c : NeutronConfig) (call : Call) (token : String) : List RoundTrip → Prop
  | unaddressed (h : request c call = none) : Posted c call token []
  | posted {f : String → Request} {x : RoundTrip} (h : request c call = some f)
      (hx : x.request = f token) : Posted c call token [x]

namespace Posted

variable {call : Call} {token : String} {ys : List RoundTrip}

theorem token_eq (h : Posted c call token ys) :
    ∀ y ∈ ys, y.request.token = some (trimHeader token) := by
  cases h with
  | unaddressed h => simp
  | posted h hx =>
    rintro y hy
    rw [List.mem_singleton.1 hy, hx]
    exact request_token h token

theorem isLogin_eq (h : Posted c call token ys) : ∀ y ∈ ys, y.isLogin = false :=
  fun y hy ↦ by rw [RoundTrip.isLogin, h.token_eq y hy]; rfl

theorem length_le (h : Posted c call token ys) : ys.length ≤ 1 := by
  cases h <;> simp

theorem foldl_held (h : Posted c call token ys) (held : Option String) :
    ys.foldl RoundTrip.held held = none ↔ held = none ∨ ∃ y ∈ ys, y.isRejected = true := by
  have hservice := h.isLogin_eq
  cases h with
  | unaddressed h => simp
  | @posted _ x h hx =>
    rw [List.foldl_cons, List.foldl_nil, held_service (hservice x (List.mem_singleton_self x))]
    cases hrejected : x.isRejected <;> simp [hrejected]

theorem tracked (h : Posted c call token ys) {earlier : List RoundTrip} {held : Option String}
    (ht : Tracked c earlier held) : Tracked c (earlier ++ ys) (ys.foldl RoundTrip.held held) := by
  have hservice := h.isLogin_eq
  cases h with
  | unaddressed h => rwa [List.append_nil]
  | @posted _ x h hx =>
    have hx := hservice x (List.mem_singleton_self x)
    have hlatest := latest?_append_of_none (grant?_of_service hx) earlier
    have hheld : (earlier ++ [x]).foldl RoundTrip.held none = RoundTrip.held held x := by
      rw [List.foldl_append, ← ht.held]
      rfl
    refine ⟨hheld.symm, ?_, ?_, ?_⟩ <;>
      rw [List.foldl_cons, List.foldl_nil, held_service hx] <;> cases x.isRejected
    · exact ht.given
    · exact fun _ ↦ rfl
    · exact fun hne ↦ (ht.latest hne).trans hlatest.symm
    · exact fun hne ↦ absurd rfl hne
    · exact ht.sendable
    · exact nofun

end Posted

/-- A call that is supplied with a token and then posted is orderly, whatever it is answered. -/
theorem Backed.orderly {t : Turn} {held : Option String} {xs ys earlier : List RoundTrip}
    {token : String} (h : Backed c earlier t.before xs token held)
    (hbefore : t.before = earlier.foldl RoundTrip.held none) (hys : Posted c t.call token ys)
    (htrips : t.trips = xs ++ ys) (hafter : t.after = ys.foldl RoundTrip.held held) :
    Orderly c earlier t := by
  obtain ⟨hlogins, hservices⟩ :=
    Turn.eq_parts htrips (fun x hx ↦ isLogin_of_login? (h.logins x hx).1) hys.isLogin_eq
  refine ⟨hbefore, ?_, ?_, ?_, ?_, ?_, ?_, ?_, ?_, ?_, ?_, ?_⟩
  · rw [hafter, h.held, htrips, List.foldl_append]
  · rw [hlogins, hservices, htrips]
  · exact fun x hx ↦ (h.logins x (hlogins ▸ hx)).1
  · rw [hservices]
    cases hys with
    | unaddressed hno => simp
    | @posted f x hrequest hx =>
      intro y hy
      exact ⟨f, token, hrequest, List.mem_singleton.1 hy ▸ hx⟩
  · rw [hservices]
    exact hys.length_le
  · intro given hgiven
    obtain ⟨hxs, rfl⟩ := h.given given hgiven
    rw [hlogins, hservices]
    exact ⟨hxs, hys.token_eq⟩
  · rw [hlogins]
    exact h.asked
  · intro x hx hdenied
    exact absurd hdenied (h.logins x (hlogins ▸ hx)).2
  · intro hc x hx
    have hholds := h.holds hc
    have hlatest := h.tracked.latest (hholds ▸ Option.some_ne_none token)
    have htrimmed := (h.tracked.sendable token hholds).2
    rw [hlogins, ← hlatest, hholds, hys.token_eq x (hservices ▸ hx), htrimmed]
  · intro hc _
    rw [hafter, hys.foldl_held, h.holds hc, hservices]
    simp
  · intro _ haddressed
    rw [hservices]
    cases hys with
    | unaddressed hno => exact absurd hno haddressed
    | posted => exact List.cons_ne_nil _ _

theorem Backed.isHeaderValue {before held : Option String} {xs earlier : List RoundTrip}
    {token : String} (h : Backed c earlier before xs token held)
    (hgiven : ∀ token ∈ c.token, isHeaderValue token = true) : isHeaderValue token = true := by
  cases hc : c.token with
  | none => exact (h.tracked.sendable token (h.holds hc)).1
  | some given =>
    obtain ⟨-, rfl⟩ := h.given given hc
    exact hgiven given hc

theorem orderly_denied {t : Turn} {earlier : List RoundTrip} {x : RoundTrip} {e : TransportError}
    (hc : c.token = none) (hlogin : login? c = some x.request) (hgrant : x.grant? = none)
    (hbefore : t.before = none) (htrips : t.trips = [x]) (hreply : t.reply = refused t.call e)
    (hafter : t.after = none) (ht : Tracked c earlier none) :
    Orderly c earlier t ∧ Tracked c (earlier ++ [x]) none := by
  have hx : x.isLogin = true := isLogin_of_login? hlogin
  have hheld (token : Option String) : RoundTrip.held token x = none := by
    rw [RoundTrip.held, hx, hgrant]
    rfl
  have hparts : t.trips = [x] ++ [] := htrips
  obtain ⟨hlogins, hservices⟩ := Turn.eq_parts hparts (by simp [hx]) (by simp)
  refine ⟨⟨hbefore.trans ht.held, ?_, ?_, ?_, ?_, ?_, ?_, ?_, ?_, ?_, ?_, ?_⟩, ?_⟩
  · rw [hafter, htrips, List.foldl_cons, List.foldl_nil, hheld]
  · rw [hlogins, hservices, htrips]
    rfl
  · simp [hlogins, hlogin]
  · simp [hservices]
  · simp [hservices]
  · simp [hc]
  · simp [hlogins, hbefore]
  · exact fun _ _ _ ↦ ⟨hservices, hafter, e, hreply⟩
  · simp [hservices]
  · simp [hlogins, hheld]
  · simp [hlogins, hgrant]
  · refine ⟨?_, fun _ ↦ rfl, fun h ↦ absurd rfl h, nofun⟩
    rw [List.foldl_append, List.foldl_cons, List.foldl_nil, hheld]

theorem Conversed.orderly {t : Turn} {earlier : List RoundTrip}
    (h : Conversed c t.call t.before t.trips t.reply t.after)
    (hlogin : c.token = none → login? c ≠ none)
    (hgiven : ∀ token ∈ c.token, isHeaderValue token = true) (ht : Tracked c earlier t.before) :
    Orderly c earlier t ∧ Tracked c (earlier ++ t.trips) t.after := by
  obtain ⟨call, before, trips, reply, after⟩ := t
  change Conversed c call before trips reply after at h
  change Tracked c earlier before at ht
  -- every way that comes as far as a token ends alike
  have hposted {xs ys : List RoundTrip} {token : String} {held : Option String}
      (hsupplied : Supplied c before xs (.ok token) held) (hys : Posted c call token ys)
      (htrips : trips = xs ++ ys) (hafter : after = ys.foldl RoundTrip.held held) :
      Orderly c earlier ⟨call, before, trips, reply, after⟩ ∧
        Tracked c (earlier ++ trips) after := by
    have hbacked := hsupplied.backed ht
    refine ⟨hbacked.orderly ht.held hys htrips hafter, ?_⟩
    rw [htrips, hafter, ← List.append_assoc]
    exact hys.tracked hbacked.tracked
  cases h with
  | stopped h =>
    cases h with
    | unreachable hc hnone => exact absurd hnone (hlogin hc)
    | denied e hc hlogin hgrant => exact orderly_denied hc hlogin hgrant rfl rfl rfl rfl ht
  | unsent h hno =>
    obtain hno | hno := hno
    · exact hposted h (.unaddressed hno) (List.append_nil _).symm rfl
    · cases hno.symm.trans ((h.backed ht).isHeaderValue hgiven)
  | @lost _ _ token f h hrequest =>
    have hservice : RoundTrip.isLogin ⟨f token, none⟩ = false :=
      congrArg Option.isNone (request_token hrequest token)
    exact hposted h (.posted hrequest rfl) rfl (held_service hservice after).symm
  | @answered held _ token f h hrequest r =>
    have hservice : RoundTrip.isLogin ⟨f token, some r⟩ = false :=
      congrArg Option.isNone (request_token hrequest token)
    refine hposted h (.posted hrequest rfl) rfl (Eq.trans ?_ (held_service hservice held).symm)
    have hrejected : RoundTrip.isRejected ⟨f token, some r⟩ = (r.status == 401) := rfl
    rw [hrejected]
    -- a rejection drops a held token; a token of the settings was never held
    by_cases hstatus : r.status = 401
    · cases hc : c.token with
      | none => rw [if_pos ⟨hstatus, rfl⟩, if_pos (beq_iff_eq.2 hstatus)]
      | some given =>
        have hnone : held = none := (h.backed ht).tracked.given (by simp [hc])
        rw [hnone]
        split <;> split <;> rfl
    · rw [if_neg fun h ↦ hstatus h.1, if_neg (mt beq_iff_eq.1 hstatus)]

theorem turn_conversed (c : NeutronConfig) (p : Peer π) (call : Call) (s : State π) :
    Conversed c call s.token (turn c p call s).trips (reply c p call s).1
      (reply c p call s).2.token := by
  obtain ⟨xs, hlogged, hconversed⟩ := reply_conversed c p call s []
  have htrips : (turn c p call s).trips = xs := by rw [turn, hlogged]; rfl
  rwa [htrips]

theorem turns_tracked (p : Peer π) {s : State π} {earlier : List RoundTrip}
    (hlogin : c.token = none → login? c ≠ none)
    (hgiven : ∀ token ∈ c.token, isHeaderValue token = true) (hs : Tracked c earlier s.token)
    {calls : List Call} {done rest : List Turn} {t : Turn}
    (h : turns c p calls s = done ++ t :: rest) :
    Orderly c (earlier ++ done.flatMap Turn.trips) t := by
  induction calls generalizing s earlier done with
  | nil =>
    cases done <;> cases h
  | cons call calls ih =>
    obtain ⟨hfirst, hnext⟩ := (turn_conversed c p call s).orderly (t := turn c p call s) hlogin
      hgiven hs
    cases done with
    | nil =>
      obtain ⟨rfl, -⟩ := List.cons.inj h
      rwa [List.flatMap_nil, List.append_nil]
    | cons first done =>
      obtain ⟨rfl, hlater⟩ := List.cons.inj h
      rw [List.flatMap_cons, ← List.append_assoc]
      exact ih hnext hlater

/-- Whatever the calls are and however the peer answers them, a login is made exactly where a token
is missing, and each request carries the token that was granted last. -/
theorem turns_orderly (c : NeutronConfig) (p : Peer π) (s : π) (calls : List Call)
    (hlogin : c.token = none → (Url.parse? (tokensUrl c)).any Url.isSendable = true)
    (hgiven : ∀ token ∈ c.token, isHeaderValue token = true) :
    ∀ done t rest, turns c p calls { peer := s } = done ++ t :: rest →
      Orderly c (done.flatMap Turn.trips) t := by
  intro done t rest h
  have hready (hc : c.token = none) : login? c ≠ none := by
    have hsendable := hlogin hc
    cases hurl : Url.parse? (tokensUrl c) with
    | none => simp [hurl] at hsendable
    | some url =>
      rw [hurl, Option.any_some] at hsendable
      simp [login?, hurl, hsendable]
  have hstart : Tracked c [] none :=
    ⟨rfl, fun _ ↦ rfl, fun h ↦ absurd rfl h, fun _ ht ↦ by cases ht⟩
  exact turns_tracked p hready hgiven hstart h

def scripted : Peer (List (Option Response)) where
  exchange _ answers := (answers.head?.getD none, answers.tail)

def script : List (Option Response) :=
  [some { status := 201, headers := [("X-Subject-Token", "first")] }, some { status := 200 },
    some { status := 401 },
    some { status := 201, headers := [("x-subject-token", " second ")] }, none]

def reads : List Call := [.get .port "web", .get .port "web", .get .port "web"]

theorem turns_orderly_script :
    (Url.parse? (tokensUrl {})).any Url.isSendable = true ∧
      (turns {} scripted reads { peer := script }).map
        (fun t ↦ t.trips.map fun x ↦ x.request.token) =
          [[none, some "first"], [some "first"], [none, some "second"]] ∧
      ∀ done t rest, turns {} scripted reads { peer := script } = done ++ t :: rest →
        Orderly {} (done.flatMap Turn.trips) t :=
  ⟨by decide +kernel, by decide +kernel,
    turns_orderly {} scripted script reads (fun _ ↦ by decide +kernel) (fun _ h ↦ by cases h)⟩

/-- Settings with an address for logins that can be read but not requested. -/
def braced : NeutronConfig := { authUrl := "http://a\x7bb:5000/v3" }

theorem braced_unasked :
    (Url.parse? braced.networkEndpoint).isSome = true ∧ (Url.parse? braced.authUrl).isSome = true ∧
      braced.token = none ∧
      (turns braced scripted reads { peer := script }).map
        (fun t ↦ (t.before, t.logins.length, t.services.length)) =
          [(none, 0, 0), (none, 0, 0), (none, 0, 0)] := by
  decide +kernel

end Rest

end TrafficSteering
