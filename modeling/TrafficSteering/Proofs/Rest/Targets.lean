import TrafficSteering.Proofs.Net.Segments
import TrafficSteering.Proofs.Rest.Peers

namespace TrafficSteering.Rest

open Net Http Url Text

def target (kind : Kind) (id : String) : List Char := pathOf kind ++ '/' :: id.toList

section

variable {c : NeutronConfig} {kind : Kind} {id : String}

theorem collectionUrl_eq_ofList (c : NeutronConfig) (kind : Kind) : collectionUrl c kind =
    String.ofList ((withoutSlashes c.networkEndpoint).toList ++ '/' :: pathOf kind) := by
  have hpath : kind.collectionPath.toList = '/' :: pathOf kind := by cases kind <;> rfl
  rw [collectionUrl, ← hpath, ← String.toList_append, String.ofList_toList]

theorem resourceUrl_eq_ofList (c : NeutronConfig) (kind : Kind) (id : String) :
    resourceUrl c kind id =
      String.ofList ((withoutSlashes c.networkEndpoint).toList ++ '/' :: target kind id) := by
  rw [resourceUrl, collectionUrl_eq_ofList, target]
  refine String.toList_inj.1 ?_
  simp

def IsBare (c : NeutronConfig) : Prop := ∀ d ∈ c.networkEndpoint.toList, d ≠ '?' ∧ d ≠ '#'

instance : Decidable (IsBare c) :=
  decidable_of_iff (c.networkEndpoint.toList.all fun d ↦ d ≠ '?' ∧ d ≠ '#')
    (by simp only [List.all_eq_true, decide_eq_true_eq, IsBare])

theorem IsBare.base (hc : IsBare c) :
    ∀ d ∈ (withoutSlashes c.networkEndpoint).toList, d ≠ '?' ∧ d ≠ '#' := by
  intro d hd
  rw [withoutSlashes, String.toList_ofList, List.mem_reverse] at hd
  exact hc d (List.mem_reverse.1 ((List.dropWhile_sublist _).subset hd))

/-- An id without the marks that end or fold an address. -/
structure IsShown (id : String) : Prop extends IsTail id.toList where
  straight : '\\' ∉ pathPart id.toList

/-- An id that does not lead away from its collection either. -/
structure IsForward (id : String) : Prop extends IsShown id where
  forth : ∀ segment ∈ pieces '/' (pathPart id.toList), isForth segment = true

instance : Decidable (IsShown id) :=
  decidable_of_iff
    (id.toList.all (· ∉ "#\t\n\r".toList) ∧ id.toList.getLast?.all (0x20 < ·.toNat) ∧
      '\\' ∉ pathPart id.toList)
    ⟨fun ⟨hplain, hends, hstraight⟩ ↦
        ⟨⟨by simpa using hplain, by simpa [Option.all_eq_true] using hends⟩, hstraight⟩,
      fun h ↦ ⟨by simpa using h.plain, by simpa [Option.all_eq_true] using h.ends, h.straight⟩⟩

instance : Decidable (IsForward id) :=
  decidable_of_iff (IsShown id ∧ (pieces '/' (pathPart id.toList)).all isForth)
    ⟨fun ⟨hshown, hforth⟩ ↦ ⟨hshown, List.all_eq_true.1 hforth⟩,
      fun h ↦ ⟨h.toIsShown, List.all_eq_true.2 h.forth⟩⟩

theorem notMem_pathOf {mark : Char} (h : isPathChar mark = false) (kind : Kind) :
    mark ∉ pathOf kind := by
  intro hmem
  rw [isPathChar_pathOf kind mark hmem] at h
  cases h

theorem pathPart_target (kind : Kind) (id : String) :
    pathPart (target kind id) = pathOf kind ++ '/' :: pathPart id.toList := by
  rw [pathPart, target, List.takeWhile_append_of_pos (unquestioned (isPathChar_pathOf kind)),
    List.takeWhile_cons_of_pos rfl, ← pathPart]

theorem queryPart_target (kind : Kind) (id : String) :
    queryPart (target kind id) = queryPart id.toList := by
  rw [queryPart, target, List.dropWhile_append_of_pos (unquestioned (isPathChar_pathOf kind)),
    List.dropWhile_cons_of_pos rfl, ← queryPart]

theorem percentEncode_pathOf (kind : Kind) :
    percentEncode encodedInPath (pathOf kind) = pathOf kind :=
  percentEncode_of_plain fun d hd ↦ (plain_of_isPathChar (isPathChar_pathOf kind d hd)).2.2

theorem shown_target (kind : Kind) (id : String) :
    shown (target kind id) = pathOf kind ++ '/' :: shown id.toList := by
  have hslash : percentEncode encodedInPath ('/' :: pathPart id.toList) =
      '/' :: percentEncode encodedInPath (pathPart id.toList) := rfl
  rw [shown, pathPart_target, queryPart_target, percentEncode, List.flatMap_append,
    ← percentEncode, ← percentEncode, percentEncode_pathOf, hslash, List.append_assoc,
    List.cons_append, ← shown]

theorem shown_pathOf (kind : Kind) : shown (pathOf kind) = pathOf kind := by
  rw [shown, pathPart_of_isPathChar (isPathChar_pathOf kind),
    queryPart_of_isPathChar (isPathChar_pathOf kind), percentEncode_pathOf, Option.elim_none,
    List.append_nil]

theorem isTarget_pathOf (kind : Kind) : IsTarget (pathOf kind) where
  toIsTail := isTail_of_isPathChar (isPathChar_pathOf kind)
  straight := fun hmem ↦ notMem_pathOf (by decide) kind ((List.takeWhile_prefix _).subset hmem)
  rooted := by cases kind <;> exact ⟨_, rfl⟩

theorem isTarget_target (h : IsShown id) (kind : Kind) : IsTarget (target kind id) where
  toIsTail := h.slash.append (List.cons_ne_nil _ _) (isTarget_pathOf kind).plain
  straight := by
    rw [pathPart_target, List.mem_append, List.mem_cons, not_or, not_or]
    exact ⟨notMem_pathOf (by decide) kind, by decide, h.straight⟩
  rooted := by
    obtain ⟨rest, hrest⟩ := (isTarget_pathOf kind).rooted
    exact ⟨rest ++ '/' :: id.toList, by rw [target, hrest, List.append_assoc, List.cons_append]⟩

theorem isForth_target (h : IsForward id) (kind : Kind) :
    ∀ segment ∈ pieces '/' (pathPart (target kind id)), isForth segment = true := by
  intro segment hsegment
  rw [pathPart_target, pieces_append_mark] at hsegment
  obtain hsegment | hsegment := List.mem_append.1 hsegment
  · exact isForth_pathOf kind segment hsegment
  · exact h.forth segment hsegment

/-- No collection lies below another. -/
theorem pathOf_append_inj {kind kind' : Kind} {cs cs' : List Char}
    (h : pathOf kind ++ '/' :: cs = pathOf kind' ++ '/' :: cs') : kind = kind' ∧ cs = cs' := by
  cases kind <;> cases kind' <;> simp_all [pathOf, Kind.collectionPath]

theorem pathOf_append_ne (kind kind' : Kind) (cs : List Char) :
    pathOf kind ++ '/' :: cs ≠ pathOf kind' := by
  cases kind <;> cases kind' <;> simp [pathOf, Kind.collectionPath]

end

/-- As many steps back as a collection has segments, and then a path of its own. -/
def climbing (kind : Kind) (text : List Char) : String :=
  String.ofList
    ((List.replicate (pieces '/' (pathOf kind)).length "../".toList).flatten ++ text)

theorem mem_steps {n : Nat} {d : Char} (h : d ∈ (List.replicate n "../".toList).flatten) :
    d = '.' ∨ d = '/' := by
  obtain ⟨step, hstep, hd⟩ := List.mem_flatten.1 h
  rw [(List.mem_replicate.1 hstep).2] at hd
  simpa using hd

theorem pieces_steps (n : Nat) (cs : List Char) :
    pieces '/' ((List.replicate n "../".toList).flatten ++ cs) =
      List.replicate n "..".toList ++ pieces '/' cs := by
  induction n with
  | zero => rfl
  | succ n ih =>
    have hstep : (List.replicate (n + 1) "../".toList).flatten ++ cs =
        "..".toList ++ '/' :: ((List.replicate n "../".toList).flatten ++ cs) := rfl
    rw [hstep, pieces_append_mark, ih]
    rfl

theorem unquestioned_steps (n : Nat) :
    ∀ d ∈ (List.replicate n "../".toList).flatten, decide (d ≠ '?') = true := by
  intro d hd
  refine decide_eq_true ?_
  rintro rfl
  exact absurd (mem_steps hd) (by decide)

section

variable {c : NeutronConfig} {text : List Char}

theorem pathPart_climbing (kind : Kind) (text : List Char) :
    pathPart (climbing kind text).toList =
      (List.replicate (pieces '/' (pathOf kind)).length "../".toList).flatten ++
        pathPart text := by
  rw [climbing, String.toList_ofList, pathPart,
    List.takeWhile_append_of_pos (unquestioned_steps _), ← pathPart]

theorem queryPart_climbing (kind : Kind) (text : List Char) :
    queryPart (climbing kind text).toList = queryPart text := by
  rw [climbing, String.toList_ofList, queryPart,
    List.dropWhile_append_of_pos (unquestioned_steps _), ← queryPart]

theorem isShown_climbing (h : IsTarget text) (kind : Kind) : IsShown (climbing kind text) where
  toIsTail := by
    obtain ⟨rest, hrest⟩ := h.rooted
    rw [climbing, String.toList_ofList]
    refine h.append (by simp [hrest]) fun d hd ↦ ?_
    obtain rfl | rfl := mem_steps hd <;> decide
  straight := by
    rw [pathPart_climbing, List.mem_append, not_or]
    exact ⟨fun hmem ↦ absurd (mem_steps hmem) (by decide), h.straight⟩

theorem parse?_climbing (hc : IsBare c) (h : IsTarget text) (kind : Kind) :
    Url.parse? (resourceUrl c kind (climbing kind text)) =
      Url.parse? (String.ofList ((withoutSlashes c.networkEndpoint).toList ++ '/' :: text)) := by
  have hclimbing := isTarget_target (isShown_climbing h kind) kind
  rw [resourceUrl_eq_ofList]
  obtain hnone | ⟨site, start, hread⟩ := parse?_append hc.base
  · rw [hnone _ hclimbing, hnone _ h]
  · -- the steps back undo the collection's own segments, wherever the endpoint has led before
    have hpath : resolve start (pieces '/' (pathPart (target kind (climbing kind text)))) =
        resolve start (pieces '/' (pathPart text)) := by
      rw [pathPart_target, pathPart_climbing, pieces_append_mark, pieces_steps,
        resolve_forth (isForth_pathOf kind), ← List.length_reverse,
        resolve_back _ _ (pieces_ne_nil '/' _)]
    rw [hread _ hclimbing, hread _ h, hpath, queryPart_target, queryPart_climbing]

theorem parse?_climbing_collection (hc : IsBare c) (kind kind' : Kind) :
    Url.parse? (resourceUrl c kind (climbing kind (pathOf kind'))) =
      Url.parse? (collectionUrl c kind') := by
  rw [parse?_climbing hc (isTarget_pathOf kind'), collectionUrl_eq_ofList]

theorem request_delete_climbing (hc : IsBare c) {id : String} (hid : IsShown id)
    (kind kind' : Kind) :
    request c (.delete kind (climbing kind (target kind' id))) = request c (.delete kind' id) := by
  have haddress : address c (.delete kind (climbing kind (target kind' id))) =
      address c (.delete kind' id) := by
    rw [address, parse?_climbing hc (isTarget_target hid kind'), ← resourceUrl_eq_ofList]
    rfl
  rw [request_eq, request_eq, haddress]
  rfl

end

inductive Asks (kind : Kind) (id : String) : Call → Prop
  | get : Asks kind id (.get kind id)
  | update (body : Json) : Asks kind id (.update kind id body)
  | delete : Asks kind id (.delete kind id)

section

variable {c : NeutronConfig} {kind kind' : Kind} {id id' : String} {call call' : Call}
  {sent sent' : String → Http.Request}

theorem Asks.address (h : Asks kind id call) :
    address c call = Url.parse? (resourceUrl c kind id) := by
  cases h <;> rfl

theorem Asks.parse? (h : Asks kind id call) (hsent : request c call = some sent)
    (token : String) : Url.parse? (resourceUrl c kind id) = some (sent token).url := by
  rw [request_eq, draft, h.address] at hsent
  obtain ⟨url, hurl, rfl⟩ := Option.map_eq_some_iff.1 hsent
  exact (Option.filter_eq_some_iff.1 hurl).1

theorem request_of_address {url : Url} (h : (address c call).filter isSendable = some url) :
    request c call = some fun token ↦
      { method := methodOf call, url, token := some (trimHeader token), body := bodyOf call } := by
  rw [request_eq, draft, h]
  rfl

/-- Where ids lead forward, requests go to one address only if they ask for resources of one kind
whose ids an address shows alike, and none goes to a collection. With dot segments, an id of any
kind stands for each of these resources and for each collection. -/
theorem targets_apart (hc : IsBare c) (hid : IsForward id) (hid' : IsForward id')
    (hcall : Asks kind id call) (hcall' : Asks kind' id' call')
    (hsent : request c call = some sent) (hsent' : request c call' = some sent')
    (token token' : String) :
    ((sent token).url.toText = (sent' token').url.toText ↔
        kind = kind' ∧ shown id.toList = shown id'.toList) ∧
      ('%' ∉ id.toList → '%' ∉ id'.toList →
        ((sent token).url.toText = (sent' token').url.toText ↔ kind = kind' ∧ id = id')) ∧
      (∀ other url, Url.parse? (collectionUrl c other) = some url →
        (sent token).url.toText ≠ url.toText) ∧
      ∀ other, request c (.delete other (climbing other (target kind id))) =
          request c (.delete kind id) ∧
        Url.parse? (resourceUrl c other (climbing other (pathOf kind))) =
          Url.parse? (collectionUrl c kind) := by
  obtain ⟨front, hfront⟩ := toText_of_isForth hc.base
  -- forward ids leave the part of the address in front of the collection alone
  have htext {kind : Kind} {id : String} {call : Call} {sent : String → Http.Request}
      (hid : IsForward id) (hcall : Asks kind id call)
      (hsent : request c call = some sent) (token : String) :
      (sent token).url.toText =
        String.ofList (front ++ (pathOf kind ++ '/' :: shown id.toList)) := by
    rw [← shown_target]
    refine hfront _ (isTarget_target hid.toIsShown kind) (isForth_target hid kind) _ ?_
    rw [← resourceUrl_eq_ofList]
    exact hcall.parse? hsent token
  have hiff : (sent token).url.toText = (sent' token').url.toText ↔
      kind = kind' ∧ shown id.toList = shown id'.toList := by
    rw [htext hid hcall hsent, htext hid' hcall' hsent', String.ofList_inj,
      List.append_right_inj]
    exact ⟨pathOf_append_inj, fun ⟨hkind, hshown⟩ ↦ by rw [hkind, hshown]⟩
  refine ⟨hiff, fun hplain hplain' ↦ hiff.trans (and_congr_right fun _ ↦ ?_),
    fun other url hurl heq ↦ ?_, fun other ↦ ⟨request_delete_climbing hc hid.toIsShown other kind,
      parse?_climbing_collection hc other kind⟩⟩
  · exact ⟨eq_of_shown hplain hplain', fun heq ↦ by rw [heq]⟩
  -- a collection's own address lacks the slash behind it
  · have hcollection : url.toText = String.ofList (front ++ pathOf other) := by
      rw [← shown_pathOf]
      refine hfront _ (isTarget_pathOf other) ?_ _ ?_
      · rw [pathPart_of_isPathChar (isPathChar_pathOf other)]
        exact isForth_pathOf other
      · rw [← collectionUrl_eq_ofList]
        exact hurl
    rw [htext hid hcall hsent, hcollection, String.ofList_inj, List.append_right_inj] at heq
    exact pathOf_append_ne kind other _ heq

end

def nested : NeutronConfig := { networkEndpoint := "http://neutron:9696/network/" }

def pairAddress (shown : String) : Url where
  scheme := "http"
  host := "neutron"
  port := some 9696
  path := ["network", "v2.0", "sfc", "port_pairs", shown]
  query := none

theorem targets_apart_nested :
    IsBare nested ∧ IsForward "in out" ∧ IsForward "in-out" ∧
      ∃ removal look, request nested (.delete .portPair "in out") = some removal ∧
        request nested (.get .portPair "in-out") = some look ∧
        (removal "token").url.toText =
          "http://neutron:9696/network/v2.0/sfc/port_pairs/in%20out" ∧
        (removal "token").url.toText ≠ (look "token").url.toText ∧
        request nested (.delete .port "../../v2.0/sfc/port_pairs/in out") = some removal := by
  have hbare : IsBare nested := by decide
  have hblank : IsForward "in out" := by decide
  have hhyphen : IsForward "in-out" := by decide
  have haddress : (address nested (.delete .portPair "in out")).filter isSendable =
      some (pairAddress "in%20out") := by decide +kernel
  have haddress' : (address nested (.get .portPair "in-out")).filter isSendable =
      some (pairAddress "in-out") := by decide +kernel
  have hremoval := request_of_address haddress
  have hlook := request_of_address haddress'
  obtain ⟨-, hiff, -, hclimbing⟩ :=
    targets_apart hbare hblank hhyphen .delete .get hremoval hlook "token" "token"
  refine ⟨hbare, hblank, hhyphen, _, _, hremoval, hlook, by decide +kernel, fun heq ↦ ?_, ?_⟩
  · obtain ⟨-, hid⟩ := (hiff (by decide) (by decide)).1 heq
    exact absurd hid (by decide)
  · exact (hclimbing .port).1.trans hremoval

end TrafficSteering.Rest
