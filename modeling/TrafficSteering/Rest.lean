import TrafficSteering.Config
import TrafficSteering.Json.Reader
import TrafficSteering.Net.Http
import TrafficSteering.Program

namespace TrafficSteering.Rest

open Net Http

/-- What a client holds on to: its peer, and the token that the identity service gave it last. -/
structure State (π : Type) where
  token : Option String := none
  peer : π
  drawn : Nat := 0

variable {π : Type}

def withoutSlashes (text : String) : String :=
  String.ofList (text.toList.reverse.dropWhile (· == '/')).reverse

def collectionUrl (c : NeutronConfig) (kind : Kind) : String :=
  withoutSlashes c.networkEndpoint ++ kind.collectionPath

def resourceUrl (c : NeutronConfig) (kind : Kind) (id : String) : String :=
  collectionUrl c kind ++ "/" ++ id

def tokensUrl (c : NeutronConfig) : String := withoutSlashes c.authUrl ++ "/auth/tokens"

def unusable : TransportError := { status := none, message := "builder error" }

def lost (url : Url) : TransportError :=
  { status := none, message := "error sending request for url (" ++ url.toText ++ ")" }

/-- The message that an error document holds, under either of its two names. -/
def documentMessage? (value : Json) : Option String :=
  let holder := match value.get? "NeutronError" with
    | some holder => some holder
    | none => value.get? "error"
  (holder.bind (·.get? "message")).bind Json.text?

def failureMessage (r : Response) : String :=
  match (Json.parse r.text).toOption.bind documentMessage? with
  | some message => message
  | none =>
    if Text.blank r.text then (reasonPhrase? r.status).getD "unknown error" else Text.trim r.text

def failure (r : Response) : TransportError :=
  { status := some r.status, message := failureMessage r }

def malformed (kind : Kind) (what : String) (r : Response) (fault : Json.Fault) : TransportError :=
  { status := some r.status
    message := s!"Invalid {kind.displayName} {what}: " ++ fault.message }

def credentials (c : NeutronConfig) : Json :=
  let named (name : String) (more : List (String × Json)) : Json :=
    .obj (("name", .str name) :: more)
  let user := named c.username
    [("domain", named c.userDomainName []), ("password", .str c.password)]
  let project := named c.projectName [("domain", named c.projectDomainName [])]
  .obj [("auth", .obj [
    ("identity", .obj [("methods", .arr [.str "password"]), ("password", .obj [("user", user)])]),
    ("scope", .obj [("project", project)])])]

def withoutToken : TransportError :=
  { status := none, message := "Keystone response carried no subject token" }

def subjectToken (r : Response) : Except TransportError String :=
  if r.isSuccess then
    match r.header? "X-Subject-Token" with
    | some token => if isVisible token then .ok (trimHeader token) else .error withoutToken
    | none => .error withoutToken
  else .error (failure r)

def authenticate (c : NeutronConfig) (peer : Peer π) (s : State π) :
    Except TransportError String × State π :=
  match (Url.parse? (tokensUrl c)).filter Url.isSendable with
  | none => (.error unusable, s)
  | some url =>
    let (answer, π') := peer.exchange { method := .post, url, body := some (credentials c) } s.peer
    let s := { s with peer := π' }
    match answer with
    | none => (.error (lost url), s)
    | some r =>
      match subjectToken r with
      | .ok token => (.ok token, { s with token := some token })
      | .error e => (.error e, s)

/-- The token from the settings, the one that is held, or a new one. -/
def obtainToken (c : NeutronConfig) (peer : Peer π) (s : State π) :
    Except TransportError String × State π :=
  match c.token, s.token with
  | some token, _ => (.ok token, s)
  | none, some token => (.ok token, s)
  | none, none => authenticate c peer s

/-- A request that has no token yet; none where its address cannot be read or requested. -/
abbrev Draft := Option (String → Request)

def draft (method : Method) (url : Option Url) (body : Option Json) : Draft :=
  (url.filter Url.isSendable).map fun url token ↦
    { method, url, token := some (trimHeader token), body }

/-- Sends a request; a response with status 401 ends the use of a token that was given. -/
def send (c : NeutronConfig) (peer : Peer π) (d : Draft) (s : State π) :
    Except TransportError Response × State π :=
  match obtainToken c peer s with
  | (.error e, s) => (.error e, s)
  | (.ok token, s) =>
    match d with
    | none => (.error unusable, s)
    | some request =>
      if isHeaderValue token then
        let (answer, π') := peer.exchange (request token) s.peer
        let s := { s with peer := π' }
        match answer with
        | none => (.error (lost (request token).url), s)
        | some r =>
          -- a token of the settings is never held, so there is nothing to drop
          (.ok r, if r.status = 401 ∧ c.token = none then { s with token := none } else s)
      else (.error unusable, s)

/-- What a document holds under a key; null counts as nothing. -/
def unwrap (key : String) (value : Json) : Option Json :=
  match value.get? key with
  | some .null => none
  | found => found

def single (kind : Kind) (r : Response) : Except TransportError (Option Json) :=
  if r.isSuccess then
    if Text.blank r.text then .ok none
    else
      match Json.parse r.text with
      | .ok value => .ok (unwrap kind.singularKey value)
      | .error fault => .error (malformed kind "response" r fault)
  else .error (failure r)

/-- The resource in a response to a get, where status 404 tells that there is none. -/
def found (kind : Kind) (r : Response) : Except TransportError (Option Json) :=
  if r.status = 404 then .ok none else single kind r

def listing (kind : Kind) (r : Response) : Except TransportError (List Json) :=
  if r.isSuccess then
    -- unlike for a single resource, an order mark is not skipped and an empty body is a fault
    match Json.parse r.body with
    | .ok value => .ok (((unwrap kind.collectionKey value).bind Json.items?).getD [])
    | .error fault => .error (malformed kind "listing: error decoding response body" r fault)
  else .error (failure r)

def deletion (r : Response) : ActionResponse :=
  if r.isSuccess then { code := r.status } else .failure r.status (failureMessage r)

def wrap (kind : Kind) (body : Json) : Json := .obj [(kind.singularKey, body)]

def request (c : NeutronConfig) : Call → Draft
  | .create kind body => draft .post (Url.parse? (collectionUrl c kind)) (some (wrap kind body))
  | .get kind id => draft .get (Url.parse? (resourceUrl c kind id)) none
  | .list kind query =>
    draft .get ((Url.parse? (collectionUrl c kind)).map (·.withForm query)) none
  | .update kind id body =>
    draft .put (Url.parse? (resourceUrl c kind id)) (some (wrap kind body))
  | .delete kind id => draft .delete (Url.parse? (resourceUrl c kind id)) none

def readReply : (call : Call) → Response → call.Reply
  | .create kind _, r => single kind r
  | .get kind _, r => found kind r
  | .list kind _, r => listing kind r
  | .update kind _ _, r => single kind r
  | .delete _ _, r => .ok (deletion r)

def refused : (call : Call) → TransportError → call.Reply
  | .create _ _, e | .get _ _, e | .list _ _, e | .update _ _ _, e | .delete _ _, e => .error e

def reply (c : NeutronConfig) (peer : Peer π) (call : Call) (s : State π) :
    call.Reply × State π :=
  match send c peer (request c call) s with
  | (.ok r, s) => (readReply call r, s)
  | (.error e, s) => (refused call e, s)

def transport (c : NeutronConfig) (peer : Peer π) (ids : Nat → String) : Transport (State π) where
  name := "neutron"
  reply := reply c peer
  draw s := (ids (s.drawn + 1), { s with drawn := s.drawn + 1 })

end TrafficSteering.Rest
