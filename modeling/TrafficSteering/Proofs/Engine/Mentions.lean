import TrafficSteering.Proofs.Engine.Conduct
import TrafficSteering.Proofs.Net.Endpoints

namespace TrafficSteering

open Json Net Engine HookTag

variable {key : String} {ids : Nat → String} {m n : Memory} {kind : Kind} {d : Object} {id : String}

def Json.single (value : Json) : List String := value.text?.toList

def Json.listed : Json → List String
  | .arr items => items.filterMap text?
  | _ => []

def Json.tagged (key : String) (value : Json) : List String :=
  ((value.object?.bind (·.get? key)).bind text?).toList

/-- The fields that hold ids, with what is read of each as ids. -/
def Kind.idFields (key : String) : Kind → List (String × (Json → List String))
  | port => [("id", single), ("binding:profile", tagged key)]
  | portPair => [("id", single), ("ingress", single), ("egress", single)]
  | portPairGroup => [("id", single), ("port_pairs", listed)]
  | portChain => [("id", single), ("port_pair_groups", listed), ("flow_classifiers", listed)]
  | flowClassifier => [("id", single)]

def Mentions (key : String) (kind : Kind) (d : Object) (id : String) : Prop :=
  ∃ field ∈ kind.idFields key, ∃ value, d.get? field.1 = some value ∧ id ∈ field.2 value

def Kind.references (key : String) : (kind : Kind) → kind.Resource → List String
  | port, p => (tag? key p).toList
  | portPair, p => p.ingress.toList ++ p.egress.toList
  | portPairGroup, g => g.portPairs
  | portChain, c => c.portPairGroups ++ c.flowClassifiers
  | flowClassifier, _ => []

def AllPlain (key : String) (kind : Kind) (d : Object) : Prop :=
  ∀ id, Mentions key kind d id → IsPlain id

theorem Mentions.of_mixed {d₁ d₂ : Object} (hd : d.Mixed d₁ d₂) (h : Mentions key kind d id) :
    Mentions key kind d₁ id ∨ Mentions key kind d₂ id := by
  obtain ⟨field, hfield, value, hvalue, hid⟩ := h
  refine (hd field.1).imp (fun he ↦ ?_) fun he ↦ ?_
  · exact ⟨field, hfield, value, he ▸ hvalue, hid⟩
  · exact ⟨field, hfield, value, he ▸ hvalue, hid⟩

theorem mem_single {text : Option String} {value : Json} (h : text.map .str = some value)
    (hid : id ∈ value.single) : id ∈ text.toList := by
  obtain ⟨t, rfl, rfl⟩ := Option.map_eq_some_iff.1 h
  exact hid

theorem mem_listed {items : List String} (hid : id ∈ (texts items).listed) : id ∈ items := by
  have hlisted : (texts items).listed = items := by
    rw [texts, listed, List.filterMap_map]
    exact List.filterMap_some
  rwa [hlisted] at hid

theorem mem_tagged {profile : Object} (hid : id ∈ (ofObject profile).tagged key) :
    id ∈ ((profile.get? key).bind text?).toList := by
  rwa [tagged, ofObject, object?, Dict.ofList_entries] at hid

/-- What is sent of a resource mentions the resources that it refers to, and not itself. -/
theorem Mentions.of_sent {r : kind.Resource}
    (h : Mentions key kind (kind.encode (kind.clearServerFields r)) id) :
    id ∈ kind.references key r := by
  obtain ⟨field, hfield, value, hvalue, hid⟩ := h
  -- an id is sent only under the fields that refer to others: the own one is cleared
  cases kind with
  | port =>
    have hget (k : String) : (Kind.port.encode (Kind.port.clearServerFields r)).get? k = _ :=
      Dict.get?_ofFields (by simp) k
    obtain rfl | hfield := List.mem_cons.1 hfield
    · cases (hget "id").symm.trans hvalue
    · obtain rfl := List.mem_singleton.1 hfield
      have hprofile : r.profile.map ofObject = some value :=
        (hget "binding:profile").symm.trans hvalue
      obtain ⟨profile, hsome, rfl⟩ := Option.map_eq_some_iff.1 hprofile
      rw [Kind.references, tag?, Port.profileText, hsome]
      exact mem_tagged hid
  | portPair =>
    have hget (k : String) :
        (Kind.portPair.encode (Kind.portPair.clearServerFields r)).get? k = _ :=
      Dict.get?_ofFields (by simp) k
    obtain rfl | hfield := List.mem_cons.1 hfield
    · cases (hget "id").symm.trans hvalue
    · obtain rfl | hfield := List.mem_cons.1 hfield
      · exact List.mem_append_left _ (mem_single ((hget "ingress").symm.trans hvalue) hid)
      · obtain rfl := List.mem_singleton.1 hfield
        exact List.mem_append_right _ (mem_single ((hget "egress").symm.trans hvalue) hid)
  | portPairGroup =>
    have hget (k : String) :
        (Kind.portPairGroup.encode (Kind.portPairGroup.clearServerFields r)).get? k = _ :=
      Dict.get?_ofFields (by simp) k
    obtain rfl | hfield := List.mem_cons.1 hfield
    · cases (hget "id").symm.trans hvalue
    · obtain rfl := List.mem_singleton.1 hfield
      obtain rfl : texts r.portPairs = value :=
        Option.some.inj ((hget "port_pairs").symm.trans hvalue)
      exact mem_listed hid
  | portChain =>
    have hget (k : String) :
        (Kind.portChain.encode (Kind.portChain.clearServerFields r)).get? k = _ :=
      Dict.get?_ofFields (by simp) k
    obtain rfl | hfield := List.mem_cons.1 hfield
    · cases (hget "id").symm.trans hvalue
    · obtain rfl | hfield := List.mem_cons.1 hfield
      · obtain rfl : texts r.portPairGroups = value :=
          Option.some.inj ((hget "port_pair_groups").symm.trans hvalue)
        exact List.mem_append_left _ (mem_listed hid)
      · obtain rfl := List.mem_singleton.1 hfield
        obtain rfl : texts r.flowClassifiers = value :=
          Option.some.inj ((hget "flow_classifiers").symm.trans hvalue)
        exact List.mem_append_right _ (mem_listed hid)
  | flowClassifier =>
    have hget (k : String) :
        (Kind.flowClassifier.encode (Kind.flowClassifier.clearServerFields r)).get? k = _ :=
      Dict.get?_ofFields (by simp) k
    obtain rfl := List.mem_singleton.1 hfield
    cases (hget "id").symm.trans hvalue

theorem Mentions.of_reference {r : kind.Resource} (hr : kind.decode (ofObject d) = .ok r)
    (h : id ∈ kind.references key r) : Mentions key kind d id := by
  have hsingle {name : String} {x : Option String}
      (hx : Json.optional d.entries name asText = .ok x)
      (hfield : (name, Json.single) ∈ kind.idFields key) (hid : id ∈ x.toList) :
      Mentions key kind d id := by
    obtain rfl := Option.mem_toList.1 hid
    exact ⟨_, hfield, _, get?_of_optional_text hx rfl, List.mem_singleton_self id⟩
  have hlist {name : String} {l : List String} (hl : listOrEmpty d.entries name asText = .ok l)
      (hfield : (name, Json.listed) ∈ kind.idFields key) (hid : id ∈ l) :
      Mentions key kind d id := by
    obtain ⟨items, hget, hitem⟩ := get?_of_listOrEmpty_text hl hid
    exact ⟨_, hfield, _, hget, List.mem_filterMap.2 ⟨_, hitem, rfl⟩⟩
  -- decoding reads the fields in turn, and only those of `idFields` end up as references
  have hyields : Yields (kind.decode (ofObject d)) fun r ↦
      id ∈ kind.references key r → Mentions key kind d id := by
    cases kind with
    | port =>
      refine .bind fun members hmembers ↦ ?_
      cases hmembers
      iterate 10 refine .bind fun _ _ ↦ ?_
      refine .bind fun profile hprofile ↦ .done fun hid ↦ ?_
      cases profile with
      | none => cases hid
      | some profile =>
        obtain ⟨value, hget, hvalue⟩ := get?_of_optional_object hprofile
        refine ⟨_, List.mem_cons_of_mem _ (List.mem_singleton_self _), value, hget, ?_⟩
        change id ∈ value.tagged key
        rw [tagged, hvalue]
        exact hid
    | portPair =>
      refine .bind fun members hmembers ↦ ?_
      cases hmembers
      iterate 5 refine .bind fun _ _ ↦ ?_
      refine .bind fun ingress hingress ↦ .bind fun egress hegress ↦ .bind fun _ _ ↦ .done ?_
      intro hid
      obtain hid | hid := List.mem_append.1 hid
      · exact hsingle hingress (by simp [Kind.idFields]) hid
      · exact hsingle hegress (by simp [Kind.idFields]) hid
    | portPairGroup =>
      refine .bind fun members hmembers ↦ ?_
      cases hmembers
      iterate 5 refine .bind fun _ _ ↦ ?_
      refine .bind fun pairs hpairs ↦ .bind fun _ _ ↦ .done fun hid ↦ ?_
      exact hlist hpairs (by simp [Kind.idFields]) hid
    | portChain =>
      refine .bind fun members hmembers ↦ ?_
      cases hmembers
      iterate 6 refine .bind fun _ _ ↦ ?_
      refine .bind fun groups hgroups ↦ .bind fun hooks hhooks ↦ .bind fun _ _ ↦ .done ?_
      intro hid
      obtain hid | hid := List.mem_append.1 hid
      · exact hlist hgroups (by simp [Kind.idFields]) hid
      · exact hlist hhooks (by simp [Kind.idFields]) hid
    | flowClassifier => exact fun r _ hid ↦ absurd hid List.not_mem_nil
  exact hyields r hr h

/-- Resources are named by plain ids, and the objects that are sent mention plain ids alone. -/
def plain (key : String) : Protocol where
  Id _ id := IsPlain id
  Res kind r := IsPlain (kind.key r) ∧ ∀ id ∈ kind.references key r, IsPlain id
  Sends
    | .get _ id | .delete _ id => IsPlain id
    | .list _ _ => True
    | .create kind body => ∃ d, body.object? = some d ∧ AllPlain key kind d
    | .update kind id body => IsPlain id ∧ ∃ d, body.object? = some d ∧ AllPlain key kind d

theorem allPlain_sent {r : kind.Resource} (h : ∀ id ∈ kind.references key r, IsPlain id) :
    ∃ d, (Gateway.body kind r).object? = some d ∧ AllPlain key kind d :=
  ⟨_, Service.object?_body kind r, fun id hid ↦ h id hid.of_sent⟩

theorem plain_serving (key : String) : (plain key).Serving key where
  get _ _ hid _ := hid
  list _ _ := trivial
  own _ _ _ hr := hr.1
  ingress _ hp id hid := hp.2 id (List.mem_append_left _ (Option.mem_toList.2 hid))
  egress _ hp id hid := hp.2 id (List.mem_append_right _ (Option.mem_toList.2 hid))
  pairs _ hg := hg.2
  groups _ hc id hid := hc.2 id (List.mem_append_left _ hid)
  classifiers _ hc id hid := hc.2 id (List.mem_append_right _ hid)
  tag _ hp id hid := hp.2 id (Option.mem_toList.2 hid)
  delete _ _ _ hid _ := hid
  createPair ingress egress hingress hegress := by
    refine allPlain_sent fun id hid ↦ ?_
    obtain rfl | hid := List.mem_cons.1 hid
    · exact hingress
    · exact List.mem_singleton.1 hid ▸ hegress
  createGroup pairId hpair := allPlain_sent fun id hid ↦ List.mem_singleton.1 hid ▸ hpair
  createChain groupIds hgroups := allPlain_sent fun id hid ↦ by
    obtain hid | hid := List.mem_append.1 hid
    · exact hgroups id hid
    · cases hid
  createClassifier c := allPlain_sent fun id hid ↦ absurd hid List.not_mem_nil
  retag p hp hookId hhook := by
    refine ⟨hp.1, allPlain_sent fun id hid ↦ hhook id ?_⟩
    rw [Kind.references] at hid
    exact Option.mem_toList.1 (tag?_retagged key p hookId ▸ hid)
  setPairs g hg pairIds hpairs := ⟨hg.1, allPlain_sent hpairs⟩
  setGroups c hc groupIds hgroups := by
    refine ⟨hc.1, allPlain_sent fun id hid ↦ ?_⟩
    obtain hid | hid := List.mem_append.1 hid
    · exact hgroups id hid
    · exact hc.2 id (List.mem_append_right _ hid)
  setClassifiers c hc hookIds hhooks := by
    refine ⟨hc.1, allPlain_sent fun id hid ↦ ?_⟩
    obtain hid | hid := List.mem_append.1 hid
    · exact hc.2 id (List.mem_append_left _ hid)
    · exact hhooks id hid

def Memory.Plain (key : String) (m : Memory) : Prop :=
  ∀ kind id d, (m.collections.get kind).get? id = some d → AllPlain key kind d

theorem get?_completed (kind : Kind) (chain : UInt64) (d : Object) {name : String}
    (hname : name ∉ ["port_pair_group_parameters", "chain_id", "chain_parameters"]) :
    (Memory.completed kind chain d).get? name = d.get? name ∨
      (Memory.completed kind chain d).get? name = some (.arr []) := by
  have hnew (d : Object) (field : String) : (d.insertNew field (.arr [])).get? name = d.get? name ∨
      (d.insertNew field (.arr [])).get? name = some (.arr []) := by
    rw [Dict.insertNew]
    split
    · exact .inl rfl
    · rw [Dict.get?_insert]
      split
      · exact .inr rfl
      · exact .inl rfl
  simp only [List.mem_cons, List.not_mem_nil, or_false, not_or] at hname
  cases kind with
  | port | portPair | flowClassifier => exact .inl rfl
  | portPairGroup =>
    rw [Memory.completed, Dict.get?_insert, if_neg hname.1]
    exact hnew d "port_pairs"
  | portChain =>
    simp only [Memory.completed, Dict.get?_insert, if_neg hname.2.1, if_neg hname.2.2]
    obtain hclassifiers | hclassifiers := hnew (d.insertNew "port_pair_groups" (.arr []))
      "flow_classifiers"
    · rw [hclassifiers]
      exact hnew d "port_pair_groups"
    · exact .inr hclassifiers

theorem Kind.idFields_own {field : String × (Json → List String)}
    (h : field ∈ kind.idFields key) :
    field.1 ∉ ["port_pair_group_parameters", "chain_id", "chain_parameters"] ∧
      field.1 ≠ "project_id" ∧ field.1 ≠ "tenant_id" ∧ field.2 (.arr []) = [] ∧
        (field.1 = "id" → field.2 = single) := by
  have hall : ∀ field ∈ kind.idFields key,
      field.1 ∉ ["port_pair_group_parameters", "chain_id", "chain_parameters"] ∧
        field.1 ≠ "project_id" ∧ field.1 ≠ "tenant_id" ∧ field.2 (.arr []) = [] ∧
        (field.1 = "id" → field.2 = single) := by
    cases kind <;> simp [Kind.idFields, single, listed, tagged, text?, object?]
  exact hall field h

theorem Mentions.of_issued (h : Mentions key kind (Memory.issued ids m kind d) id) :
    id = ids (m.drawn + 1) ∨ Mentions key kind d id := by
  obtain ⟨field, hfield, value, hvalue, hid⟩ := h
  obtain ⟨hown, hproject, htenant, hempty, hsingle⟩ := Kind.idFields_own hfield
  rw [Memory.issued] at hvalue
  obtain hsame | hlist := get?_completed kind m.nextChain _ hown
  · rw [hsame, Dict.get?_insert, if_neg htenant, Dict.get?_insert, if_neg hproject,
      Dict.get?_insert] at hvalue
    split at hvalue
    · rename_i hname
      cases hvalue
      rw [hsingle hname] at hid
      exact .inl (List.mem_singleton.1 hid)
    · exact .inr ⟨field, hfield, value, hvalue, hid⟩
  · cases hlist.symm.trans hvalue
    rw [hempty] at hid
    cases hid

theorem Memory.Plain.reply (hids : ∀ n, IsPlain (ids n)) (hm : m.Keyed) (h : m.Plain key) {c : Call}
    (hc : (plain key).Sends c) : (Memory.reply ids c m).2.Plain key := by
  intro kind id d hget name hname
  cases (Memory.replied ids m c).origin hm hget with
  | kept hold => exact h kind id d hold name hname
  | @created body sent hbody hid hdrawn hvalue =>
    obtain ⟨sent', hbody', hplain⟩ := hc
    cases hbody.symm.trans hbody'
    subst hvalue
    obtain rfl | hname := hname.of_issued
    · exact hids _
    · exact hplain name hname
  | @updated body old change hbody hold hvalue =>
    obtain ⟨-, change', hbody', hplain⟩ := hc
    cases hbody.symm.trans hbody'
    subst hvalue
    obtain hname | hname := hname.of_mixed (Kind.mixed_amended old change)
    · exact h kind id old hold name hname
    · exact hplain name hname

theorem Memory.Plain.known (h : m.Plain key) (hm : m.Keyed) : m.Known (plain key) := by
  intro kind id d r hget hr
  have hown := (hm kind).own_of_get? hget
  have hkey : kind.key r = id := Kind.key_eq (Kind.idOf_decode hown hr)
  refine ⟨hkey ▸ h kind id d hget id ⟨("id", Json.single), ?_, _, hown, ?_⟩, fun name hname ↦ ?_⟩
  · cases kind <;> exact List.mem_cons_self
  · exact List.mem_singleton_self id
  · exact h kind id d hget name (.of_reference hr hname)

end TrafficSteering
