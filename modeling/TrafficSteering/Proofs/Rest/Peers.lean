import TrafficSteering.Proofs.Json.RoundTrip
import TrafficSteering.Proofs.Net.Endpoints
import TrafficSteering.Proofs.Service.Replies
import TrafficSteering.Rest

namespace TrafficSteering.Rest

open Net Http Json

def segments (kind : Kind) : List String :=
  (Text.pieces '/' (kind.collectionPath.toList.drop 1)).map String.ofList

/-- The collection that a path names, and the resource in it, if it names one. -/
def route? (path : List String) : Option (Kind × Option String) :=
  Kind.all.findSome? fun kind ↦
    if path = segments kind then some (kind, none)
    else if path.dropLast = segments kind then path.getLast?.map fun id ↦ (kind, some id)
    else none

def readQuery (url : Url) : Query := Form.decode ((url.query.getD "").toList)

def call? (r : Request) : Option Call := do
  match ← route? r.url.path, r.method with
  | (kind, none), .get => some (.list kind (readQuery r.url))
  | (kind, none), .post => some (.create kind (← (← r.body).get? kind.singularKey))
  | (kind, some id), .get => some (.get kind id)
  | (kind, some id), .put => some (.update kind id (← (← r.body).get? kind.singularKey))
  | (kind, some id), .delete => some (.delete kind id)
  | _, _ => none

def refusal (status : Nat) (text : String) : Response where
  status := status
  body := (Json.obj [("NeutronError", .obj [("message", .str text)])]).compact

def enveloped (status : Nat) (key : String) (value : Json) : Response where
  status := status
  body := (Json.obj [(key, value)]).compact

/-- The response for an answer; what is created or updated is told with a status of the peer's. -/
def respond (status : Call → Nat) : (c : Call) → c.Reply → Response
  | .create kind body, .ok (some value) =>
    enveloped (status (.create kind body)) kind.singularKey value
  | .get kind _, .ok (some value) => enveloped 200 kind.singularKey value
  | .get kind id, .ok none => refusal 404 (Memory.absentText kind id)
  | .update kind id body, .ok (some value) =>
    enveloped (status (.update kind id body)) kind.singularKey value
  | .create _ _, .ok none | .update _ _ _, .ok none => { status := 204 }
  | .list kind _, .ok values => enveloped 200 kind.collectionKey (.arr values)
  | .delete _ _, .ok answer =>
    if answer.isSuccess then { status := answer.code }
    else refusal answer.code (answer.fault.getD "")
  | .create _ _, .error e | .get _ _, .error e | .list _ _, .error e | .update _ _ _, .error e
  | .delete _ _, .error e => refusal (e.status.getD 500) e.message

def peer (ids : Nat → String) (status : Call → Nat) : Peer Memory where
  exchange r m :=
    match call? r with
    | some call => (some (respond status call (Memory.reply ids call m).1),
        (Memory.reply ids call m).2)
    | none => (some (refusal 404 "The resource could not be found."), m)

theorem route?_segments (kind : Kind) : route? (segments kind) = some (kind, none) := by
  cases kind <;> rfl

theorem route?_resource (kind : Kind) (id : String) :
    route? (segments kind ++ [id]) = some (kind, some id) := by
  cases kind <;> rfl

section

theorem withoutSlashes_of_last {text : String} {cs : List Char} {last : Char}
    (h : text.toList = cs ++ [last]) (hlast : last ≠ '/') : withoutSlashes text = text := by
  have hkept : (last :: cs.reverse).dropWhile (· == '/') = last :: cs.reverse :=
    List.dropWhile_cons_of_neg (by simpa using hlast)
  rw [withoutSlashes, h, List.reverse_append, List.reverse_singleton, List.singleton_append, hkept,
    List.reverse_cons, List.reverse_reverse, ← h, String.ofList_toList]

theorem withoutSlashes_endpoint (host : String) (port : Nat) :
    withoutSlashes (Url.endpoint host port) = Url.endpoint host port := by
  obtain hnil | ⟨digits, last, hdigits⟩ := List.eq_nil_or_concat (Nat.toDigits 10 port)
  · exact absurd hnil Nat.toDigits_ne_nil
  · have hmem : last ∈ Nat.toDigits 10 port := by simp [hdigits]
    have hlast : last.isDigit = true :=
      Nat.isDigit_of_mem_toDigits (by decide) (by decide) hmem
    have hlist : (Url.endpoint host port).toList =
        ("http://".toList ++ host.toList ++ ':' :: digits) ++ [last] := by
      simp [Url.endpoint, String.toList_append, hdigits]
    refine withoutSlashes_of_last hlist ?_
    rintro rfl
    cases hlast

def pathOf (kind : Kind) : List Char := kind.collectionPath.toList.drop 1

theorem isPathChar_pathOf (kind : Kind) : ∀ c ∈ pathOf kind, Url.isPathChar c = true := by
  have hall : (pathOf kind).all Url.isPathChar = true := by cases kind <;> decide
  exact List.all_eq_true.1 hall

theorem isForth_pathOf (kind : Kind) :
    ∀ segment ∈ Text.pieces '/' (pathOf kind), Url.isForth segment = true := by
  cases kind <;> decide

variable {c : NeutronConfig} {host name : String} {port : Nat}

theorem collectionUrl_eq (hc : c.networkEndpoint = Url.endpoint host port) (kind : Kind) :
    collectionUrl c kind = Url.endpoint host port ++ "/" ++ String.ofList (pathOf kind) := by
  have hpath : kind.collectionPath = "/" ++ String.ofList (pathOf kind) := by cases kind <;> rfl
  rw [collectionUrl, hc, withoutSlashes_endpoint, hpath, String.append_assoc]

theorem parse?_collectionUrl (hc : c.networkEndpoint = Url.endpoint host port)
    (hhost : Url.IsHost host name) (hport : port < 65536) (kind : Kind) :
    Url.parse? (collectionUrl c kind) = some (Url.below name port (segments kind)) := by
  rw [collectionUrl_eq hc]
  exact Url.parse?_below hhost hport (isPathChar_pathOf kind) (isForth_pathOf kind)

theorem parse?_resourceUrl (hc : c.networkEndpoint = Url.endpoint host port)
    (hhost : Url.IsHost host name) (hport : port < 65536) (kind : Kind) {id : String}
    (hid : IsPlain id) :
    Url.parse? (resourceUrl c kind id) = some (Url.below name port (segments kind ++ [id])) := by
  have hpieces : Text.pieces '/' (pathOf kind ++ '/' :: id.toList) =
      Text.pieces '/' (pathOf kind) ++ [id.toList] := by
    have hslash : '/' ∉ id.toList := fun h ↦ by cases hid _ h
    rw [Text.pieces_append_mark, Text.pieces_of_notMem hslash]
  have hurl : resourceUrl c kind id =
      Url.endpoint host port ++ "/" ++ String.ofList (pathOf kind ++ '/' :: id.toList) := by
    rw [resourceUrl, collectionUrl_eq hc]
    simp [String.append_assoc]
  have hpath : ∀ c ∈ pathOf kind ++ '/' :: id.toList, Url.isPathChar c = true := by
    intro c hc
    obtain hc | hc := List.mem_append.1 hc
    · exact isPathChar_pathOf kind c hc
    · obtain rfl | hc := List.mem_cons.1 hc
      · decide
      · simp [Url.isPathChar, hid c hc]
  have hforth : ∀ segment ∈ Text.pieces '/' (pathOf kind ++ '/' :: id.toList),
      Url.isForth segment = true := by
    rw [hpieces]
    intro segment hsegment
    obtain hsegment | hsegment := List.mem_append.1 hsegment
    · exact isForth_pathOf kind segment hsegment
    · rw [List.mem_singleton.1 hsegment]
      exact Url.isForth_of_isIdChar hid
  rw [hurl, Url.parse?_below hhost hport hpath hforth, hpieces, List.map_append]
  simp [segments, pathOf]

end

def methodOf : Call → Method
  | .create _ _ => .post
  | .get _ _ | .list _ _ => .get
  | .update _ _ _ => .put
  | .delete _ _ => .delete

def address (c : NeutronConfig) : Call → Option Url
  | .create kind _ => Url.parse? (collectionUrl c kind)
  | .list kind query => (Url.parse? (collectionUrl c kind)).map (·.withForm query)
  | .get kind id | .update kind id _ | .delete kind id => Url.parse? (resourceUrl c kind id)

def bodyOf : Call → Option Json
  | .create kind body | .update kind _ body => some (wrap kind body)
  | .get _ _ | .list _ _ | .delete _ _ => none

theorem request_eq (c : NeutronConfig) (call : Call) :
    request c call = draft (methodOf call) (address c call) (bodyOf call) := by
  cases call <;> rfl

def Fits (c : NeutronConfig) (call : Call) : Prop :=
  ∀ url ∈ address c call, url.toText.utf8ByteSize < 65535

/-- The settings name an endpoint and a token that can be sent to it. -/
structure Reaches (c : NeutronConfig) (host name : String) (port : Nat) (token : String) :
    Prop where
  endpoint : c.networkEndpoint = Url.endpoint host port
  named : Url.IsHost host name
  bounded : port < 65536
  held : c.token = some token
  sendable : isHeaderValue token = true

def wrapping : Call → Nat
  | .list _ _ => 2
  | _ => 1

/-- The values of the answer are read back from the text of its response. -/
def Survives (call : Call) (r : call.Reply) : Prop :=
  ∀ value ∈ call.values r, value.isFaithful = true ∧ value.depth + wrapping call ≤ Json.maxDepth

def Regular : Call → Prop
  | .create _ body => ∃ d, body.object? = some d
  | .update _ id body => IsPlain id ∧ ∃ d, body.object? = some d
  | .get _ id | .delete _ id => IsPlain id
  | .list _ _ => True

section

variable {c : NeutronConfig} {host name token : String} {port : Nat} {status : Call → Nat}
  {ids : Nat → String} {call : Call} {m : Memory}

theorem get?_wrap (kind : Kind) (body : Json) :
    (wrap kind body).get? kind.singularKey = some body := by
  simp [wrap, Json.get?]

theorem readQuery_withForm (name : String) (port : Nat) (path : List String) (query : Query) :
    readQuery ((Url.below name port path).withForm query) = query := by
  cases query with
  | nil => rfl
  | cons pair rest =>
    exact (congrArg Form.decode String.toList_ofList).trans (Form.decode_encode (pair :: rest))

/-- The peer finds the call in its request. -/
theorem call?_request (h : Reaches c host name port token) (hcall : Regular call) :
    ∃ url, address c call = some url ∧ url.host = name ∧ ∀ held,
      call? { method := methodOf call, url, token := held, body := bodyOf call } = some call := by
  have hcollection (kind : Kind) := parse?_collectionUrl h.endpoint h.named h.bounded kind
  have hresource (kind : Kind) {id : String} (hid : IsPlain id) :=
    parse?_resourceUrl h.endpoint h.named h.bounded kind hid
  cases call with
  | create kind body =>
    refine ⟨_, hcollection kind, rfl, fun held ↦ ?_⟩
    simp [call?, Url.below, route?_segments, methodOf, bodyOf, get?_wrap]
  | get kind id =>
    refine ⟨_, hresource kind hcall, rfl, fun held ↦ ?_⟩
    simp [call?, Url.below, route?_resource, methodOf]
  | list kind query =>
    have haddress : address c (.list kind query) =
        some ((Url.below name port (segments kind)).withForm query) := by
      rw [address, hcollection kind, Option.map_some]
    refine ⟨_, haddress, rfl, fun held ↦ ?_⟩
    have hroute : route? ((Url.below name port (segments kind)).withForm query).path =
        some (kind, none) := route?_segments kind
    simp only [call?, methodOf, hroute, readQuery_withForm, Option.bind_eq_bind, Option.bind_some]
  | update kind id body =>
    refine ⟨_, hresource kind hcall.1, rfl, fun held ↦ ?_⟩
    simp [call?, Url.below, route?_resource, methodOf, bodyOf, get?_wrap]
  | delete kind id =>
    refine ⟨_, hresource kind hcall, rfl, fun held ↦ ?_⟩
    simp [call?, Url.below, route?_resource, methodOf]

theorem compact_obj (members : List (String × Json)) :
    ∃ cs, (Json.obj members).compact.toList = '\x7b' :: cs :=
  ⟨(compactMembers members).toList ++ ['\x7d'], by simp [Json.compact, String.toList_append]⟩

theorem not_blank_obj (members : List (String × Json)) :
    Text.blank (Json.obj members).compact = false := by
  obtain ⟨cs, hcs⟩ := compact_obj members
  rw [Text.blank, hcs, List.all_cons]
  rfl

theorem withoutOrderMark_obj (members : List (String × Json)) :
    withoutOrderMark (Json.obj members).compact = (Json.obj members).compact := by
  obtain ⟨cs, hcs⟩ := compact_obj members
  rw [withoutOrderMark, hcs]
  rfl

theorem parse_single {value : Json} (hvalue : value.isFaithful = true) (key : String) :
    parse (Json.obj [(key, value)]).compact =
      if value.depth + 1 ≤ maxDepth then .ok (.obj [(key, value)]) else .error .tooDeep := by
  rw [parse_compact (by rwa [isFaithful_single]), depth_single]

theorem failureMessage_refusal (status : Nat) (text : String) :
    failureMessage (refusal status text) = text := by
  have hread : parse (refusal status text).text =
      .ok (.obj [("NeutronError", .obj [("message", .str text)])]) := by
    rw [Response.text, refusal, withoutOrderMark_obj, parse_single (isFaithful_single _ _)]
    rfl
  rw [failureMessage, hread]
  rfl

theorem single_refusal (kind : Kind) {status : Nat} (text : String)
    (h : (refusal status text).isSuccess = false) :
    single kind (refusal status text) = .error { status := some status, message := text } := by
  rw [single, h, failure, failureMessage_refusal]
  rfl

theorem deletion_refusal {status : Nat} (text : String)
    (h : (refusal status text).isSuccess = false) :
    deletion (refusal status text) = .failure status text := by
  rw [deletion, h, failureMessage_refusal]
  rfl

theorem single_eq {status : Nat} (hstatus : 200 ≤ status ∧ status < 300) (kind : Kind)
    (value : Json) : single kind (enveloped status kind.singularKey value) =
      match parse (wrap kind value).compact with
      | .ok found => .ok (unwrap kind.singularKey found)
      | .error fault =>
        .error (malformed kind "response" (enveloped status kind.singularKey value) fault) := by
  have hsuccess : (enveloped status kind.singularKey value).isSuccess = true := by
    simp [enveloped, Response.isSuccess, hstatus.1, hstatus.2]
  have htext : (enveloped status kind.singularKey value).text = (wrap kind value).compact :=
    withoutOrderMark_obj _
  have hblank : Text.blank (wrap kind value).compact = false := not_blank_obj _
  rw [single, if_pos hsuccess, htext, hblank]
  cases parse (wrap kind value).compact <;> rfl

theorem single_enveloped {status : Nat} (hstatus : 200 ≤ status ∧ status < 300) (kind : Kind)
    {d : Object} (hd : (ofObject d).isFaithful = true)
    (hdepth : (ofObject d).depth + 1 ≤ maxDepth) :
    single kind (enveloped status kind.singularKey (ofObject d)) = .ok (some (ofObject d)) := by
  rw [single_eq hstatus, wrap, parse_single hd, if_pos hdepth]
  simp only [unwrap, Json.get?, List.lookup_cons, beq_self_eq_true]
  rfl

theorem listing_enveloped (kind : Kind) {values : List Json}
    (h : ∀ value ∈ values, value.isFaithful = true ∧ value.depth + 2 ≤ maxDepth) :
    listing kind (enveloped 200 kind.collectionKey (.arr values)) = .ok values := by
  have hvalues : (Json.arr values).isFaithful = true :=
    areFaithful_iff.2 fun value hvalue ↦ (h value hvalue).1
  have hdepth : (Json.arr values).depth + 1 ≤ maxDepth := by
    have hitems : itemsDepth values ≤ maxDepth - 2 :=
      itemsDepth_le_iff.2 fun value hvalue ↦ Nat.le_sub_of_add_le (h value hvalue).2
    rw [depth, maxDepth] at *
    omega
  have hsuccess : (enveloped 200 kind.collectionKey (.arr values)).isSuccess = true := rfl
  have hread : parse (enveloped 200 kind.collectionKey (.arr values)).body =
      .ok (.obj [(kind.collectionKey, .arr values)]) := by
    rw [enveloped, parse_single hvalues, if_pos hdepth]
  have hget : (Json.obj [(kind.collectionKey, .arr values)]).get? kind.collectionKey =
      some (.arr values) := by simp [Json.get?]
  rw [listing, if_pos hsuccess, hread]
  simp only [unwrap, hget]
  rfl

/-- What the client reads is what the memory has answered. -/
theorem readReply_respond (hstatus : ∀ c, 200 ≤ status c ∧ status c < 300)
    (hm : m.failures = []) (hcall : Regular call)
    (hsurvives : Survives call (Memory.reply ids call m).1) :
    readReply call (respond status call (Memory.reply ids call m).1) =
      (Memory.reply ids call m).1 := by
  have hcalm := Memory.takeFailure_calm hm
  -- the answer is known call by call; what carries no value is read back without more ado
  cases call with
  | create kind body =>
    obtain ⟨d, hd⟩ := hcall
    simp only [Memory.reply, Memory.create, hcalm, hd] at hsurvives ⊢
    obtain ⟨hvalue, hdepth⟩ := hsurvives _ (List.mem_singleton_self _)
    rw [respond, readReply]
    exact single_enveloped (hstatus _) kind hvalue hdepth
  | get kind id =>
    simp only [Memory.reply, Memory.get, hcalm] at hsurvives ⊢
    cases hget : (m.collections.get kind).get? id with
    | none => rfl
    | some d =>
      rw [hget] at hsurvives
      obtain ⟨hvalue, hdepth⟩ := hsurvives _ (List.mem_singleton_self _)
      have hstatus : (enveloped 200 kind.singularKey (ofObject d)).status ≠ 404 :=
        show 200 ≠ 404 by decide
      rw [Option.map_some, respond, readReply, found, if_neg hstatus]
      exact single_enveloped (by decide) kind hvalue hdepth
  | list kind query =>
    simp only [Memory.reply, Memory.list, hcalm] at hsurvives ⊢
    rw [respond, readReply]
    exact listing_enveloped kind hsurvives
  | update kind id body =>
    obtain ⟨-, d, hd⟩ := hcall
    simp only [Memory.reply, Memory.update, hcalm, hd] at hsurvives ⊢
    cases hget : (m.collections.get kind).get? id with
    | none =>
      change single kind (refusal 404 (Memory.absentText kind id)) = _
      exact single_refusal kind _ rfl
    | some old =>
      rw [hget] at hsurvives
      obtain ⟨hvalue, hdepth⟩ := hsurvives _ (List.mem_singleton_self _)
      rw [respond, readReply]
      exact single_enveloped (hstatus _) kind hvalue hdepth
  | delete kind id =>
    simp only [Memory.reply, Memory.delete, hcalm]
    split
    · exact congrArg Except.ok (deletion_refusal _ rfl)
    · exact congrArg Except.ok (deletion_refusal _ rfl)
    · rfl

theorem Reaches.obtainToken (h : Reaches c host name port token) (p : Peer Memory)
    (s : State Memory) : Rest.obtainToken c p s = (.ok token, s) := by
  rw [Rest.obtainToken, h.held]

theorem send_request (h : Reaches c host name port token) (hcall : Regular call)
    (hfits : Fits c call) (s : State Memory) :
    send c (peer ids status) (request c call) s =
      (.ok (respond status call (Memory.reply ids call s.peer).1),
        { s with peer := (Memory.reply ids call s.peer).2 }) := by
  obtain ⟨url, haddress, hhost, hread⟩ := call?_request h hcall
  have hsendable : url.isSendable = true := by
    rw [Url.isSendable, hhost, h.named.sendable]
    simpa using hfits url haddress
  rw [send, h.obtainToken, request_eq, haddress, draft, Option.filter_some_pos hsendable]
  simp only [Option.map_some, h.sendable, if_true, peer, hread, h.held]
  simp only [reduceCtorEq, and_false, if_false]

theorem reply_peer (h : Reaches c host name port token)
    (hstatus : ∀ c, 200 ≤ status c ∧ status c < 300) {s : State Memory}
    (hs : s.peer.failures = []) (hcall : Regular call) (hfits : Fits c call)
    (hsurvives : Survives call (Memory.reply ids call s.peer).1) :
    reply c (peer ids status) call s =
      ((Memory.reply ids call s.peer).1, { s with peer := (Memory.reply ids call s.peer).2 }) := by
  rw [reply, send_request h hcall hfits]
  exact Prod.ext (readReply_respond hstatus hs hcall hsurvives) rfl

end

end TrafficSteering.Rest
