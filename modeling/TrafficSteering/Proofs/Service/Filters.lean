import Mathlib.Data.Set.List
import TrafficSteering.Proofs.Service.Arrivals
import TrafficSteering.Proofs.Service.Catalogue
import TrafficSteering.Proofs.Service.Protocols
import TrafficSteering.Proofs.Service.Readings

namespace TrafficSteering

open Json

namespace PortFilter

/-- Some fixed address is the one asked for, and every other field that is set is that of the
port. -/
def Matches (f : PortFilter) (p : Port) : Prop :=
  (∀ address ∈ f.ipAddress, ∃ ip ∈ p.fixedIps, ip.ipAddress = address) ∧
    (∀ x ∈ f.macAddress, p.macAddress = some x) ∧
    (∀ x ∈ f.deviceId, p.deviceId = some x) ∧
    (∀ x ∈ f.deviceOwner, p.deviceOwner = some x) ∧
    (∀ x ∈ f.networkId, p.networkId = some x) ∧
    ∀ x ∈ f.projectId, p.projectId = some x

instance (f : PortFilter) : DecidablePred f.Matches := fun _ ↦
  inferInstanceAs (Decidable (_ ∧ _ ∧ _ ∧ _ ∧ _ ∧ _))

end PortFilter

namespace Memory

theorem filterAddress?_addressTerm (address : String) :
    filterAddress? (PortFilter.addressTerm address) = some address := by
  have hterm : (PortFilter.addressTerm address).toList =
      "ip_address=".toList ++ address.toList := String.toList_append
  simp only [filterAddress?, hterm]
  rw [if_pos (List.isPrefixOf_iff_prefix.2 (List.prefix_append _ _)), List.drop_left,
    String.ofList_toList]

theorem hasAddress_encode (p : Port) (address : String) :
    hasAddress p.encode address = true ↔ ∃ ip ∈ p.fixedIps, ip.ipAddress = address := by
  have hips : p.encode.get? "fixed_ips" =
      if p.fixedIps.isEmpty then none
      else some (.arr (p.fixedIps.map fun ip ↦ ofObject ip.encode)) :=
    Dict.get?_ofFields (by simp) "fixed_ips"
  have haddress (ip : FixedIp) :
      (((ofObject ip.encode).get? "ip_address").bind Json.text? == some address) = true ↔
        ip.ipAddress = address := by
    have hip : (ofObject ip.encode).get? "ip_address" = some (.str ip.ipAddress) :=
      Dict.get?_ofFields (by simp) "ip_address"
    rw [hip]
    simp [Json.text?]
  rw [hasAddress, hips]
  cases hlist : p.fixedIps with
  | nil => simp
  | cons ip rest =>
    rw [List.isEmpty_cons, if_neg Bool.false_ne_true]
    dsimp only
    rw [List.any_map, List.any_eq_true]
    exact exists_congr fun ip ↦ and_congr_right' (haddress ip)

theorem satisfies_present (value : Object) (l : List (String × Option String)) :
    satisfies value (l.filterMap fun e ↦ e.2.map (e.1, ·)) = true ↔
      ∀ e ∈ l, ∀ x ∈ e.2, agrees value (e.1, x) = true := by
  simp only [satisfies, List.all_eq_true, List.mem_filterMap, Option.map_eq_some_iff,
    Option.mem_def]
  exact ⟨fun h e he x hx ↦ h _ ⟨e, he, x, hx, rfl⟩, fun h term ⟨e, he, x, hx, hterm⟩ ↦
    hterm ▸ h e he x hx⟩

theorem agrees_text {value : Object} {name : String} (hname : name ≠ "fixed_ips")
    {y : Option String} (h : value.get? name = y.map .str) (x : String) :
    agrees value (name, x) = true ↔ y = some x := by
  rw [agrees, if_neg hname, h]
  cases y <;> simp [Json.text?]

theorem satisfies_toQuery (f : PortFilter) (p : Port) :
    satisfies p.encode f.toQuery = true ↔ f.Matches p := by
  have hget (k : String) : p.encode.get? k = _ := Dict.get?_ofFields (by simp) k
  have haddress (a : String) : agrees p.encode ("fixed_ips", PortFilter.addressTerm a) = true ↔
      ∃ ip ∈ p.fixedIps, ip.ipAddress = a := by
    rw [agrees, if_pos rfl]
    simp only [filterAddress?_addressTerm]
    exact hasAddress_encode p a
  rw [PortFilter.toQuery, satisfies_present, PortFilter.Matches]
  simp only [List.forall_mem_cons, Option.mem_def, Option.map_eq_some_iff, forall_exists_index,
    and_imp, forall_apply_eq_imp_iff₂, haddress,
    agrees_text (by decide) (y := p.macAddress) (hget "mac_address"),
    agrees_text (by decide) (y := p.deviceId) (hget "device_id"),
    agrees_text (by decide) (y := p.deviceOwner) (hget "device_owner"),
    agrees_text (by decide) (y := p.networkId) (hget "network_id"),
    agrees_text (by decide) (y := p.projectId) (hget "project_id"),
    List.not_mem_nil, false_imp_iff, implies_true, and_true]

/-- The memory has come about by seeds and by what was asked of the gateway. -/
inductive Furnished (ids : Nat → String) : Memory → Prop
  | empty (project : String) : Furnished ids { project }
  | failAfter {m : Memory} (h : Furnished ids m) (f : Failure) : Furnished ids (m.failAfter f)
  | serve {m : Memory} (h : Furnished ids m) (d : Demand) : Furnished ids (d.serve ids m).2

def Written (m : Memory) : Prop :=
  ∀ kind id value, (m.collections.get kind).get? id = some value → ∃ r, value = kind.encode r

variable {ids : Nat → String} {m : Memory}

theorem Written.store (h : m.Written) (kind : Kind) (id : String) (r : kind.Resource) :
    (m.store kind id (kind.encode r)).Written := by
  intro k i value hget
  rw [get?_store] at hget
  split at hget
  · rename_i heq
    obtain ⟨rfl, -⟩ := heq
    exact ⟨r, (Option.some.inj hget).symm⟩
  · exact h k i value hget

theorem Written.reply (h : m.Written) (hm : m.Keyed) {c : Call}
    (hc : c.Grounded fun _ _ ↦ True) : (Memory.reply ids c m).2.Written := by
  intro kind id value hget
  cases (replied ids m c).origin hm hget with
  | kept hold => exact h kind id value hold
  | created hbody hid hdrawn hvalue =>
    obtain ⟨r, rfl⟩ := hc
    obtain rfl := Option.some.inj ((Service.object?_body kind r).symm.trans hbody)
    exact ⟨_, hvalue.trans (Kind.completed_encode _ _ _ kind r)⟩
  | updated hbody hold hvalue =>
    obtain ⟨-, change, rfl⟩ := hc
    obtain rfl := Option.some.inj ((Service.object?_body kind change).symm.trans hbody)
    obtain ⟨r, rfl⟩ := h kind id _ hold
    exact ⟨_, hvalue.trans (Kind.amended_encode kind r change)⟩

def writing : Protocol where
  Id _ _ := True
  Res _ _ := True
  Sends c := c.Grounded fun _ _ ↦ True

theorem run_written {α : Type} {Q : α → Prop} {p : Program α} (hp : p.Conforms writing Q)
    (hkeyed : m.Keyed) (h : m.Written) :
    (p.run (transport ids) m).2.Keyed ∧ (p.run (transport ids) m).2.Written := by
  refine (hp.run (t := transport ids) (I := fun m ↦ m.Keyed ∧ m.Written) ?_ (fun _ hs ↦ hs)
    ⟨hkeyed, h⟩).1
  rintro c s hc ⟨hkeyed, hwritten⟩
  exact ⟨Known.hears (fun _ _ _ _ _ _ ↦ trivial) hkeyed, hkeyed.reply c, hwritten.reply hkeyed hc⟩

theorem serve_written (hkeyed : m.Keyed) (h : m.Written) (d : Demand) :
    (d.serve ids m).2.Keyed ∧ (d.serve ids m).2.Written := by
  cases d with
  | seedPort p =>
    have hstore (id : String) (m : Memory) (hkeyed : m.Keyed) (h : m.Written) :
        (m.store .port id (p.encode.insert "id" (.str id))).Keyed ∧
          (m.store .port id (p.encode.insert "id" (.str id))).Written := by
      refine ⟨hkeyed.store .port (by simp), ?_⟩
      rw [p.encode_named]
      exact h.store .port id { p with id := some id }
    rw [Demand.serve, seedPort]
    cases p.id with
    | some id => exact hstore id m hkeyed h
    | none => exact hstore _ (draw ids m).2 hkeyed h
  | create kind r => exact run_written (.create ⟨r, rfl⟩) hkeyed h
  | get kind id => exact run_written (.get fun _ ↦ trivial) hkeyed h
  | list kind query => exact run_written (.list trivial) hkeyed h
  | update kind id change => exact run_written (.update fun _ ↦ ⟨trivial, change, rfl⟩) hkeyed h
  | delete kind id => exact run_written (.delete fun _ ↦ trivial) hkeyed h
  | deleteRaw kind id => exact run_written (.deleteRaw fun _ ↦ trivial) hkeyed h

theorem Furnished.keyed_written (h : Furnished ids m) : m.Keyed ∧ m.Written := by
  induction h with
  | empty project =>
    refine ⟨fun kind ↦ ?_, fun kind id value hget ↦ ?_⟩
    · cases kind <;> exact .nil
    · cases kind <;> cases hget
  | failAfter _ f ih => exact ih
  | serve _ d ih => exact serve_written ih.1 ih.2 d

theorem Written.exists_values (h : m.Written) (hm : m.Keyed) (kind : Kind) :
    ∃ l : List kind.Resource, (m.collections.get kind).values = l.map kind.encode := by
  have hall : ∀ value ∈ (m.collections.get kind).values, value ∈ Set.range kind.encode := by
    intro value hvalue
    obtain ⟨e, he, rfl⟩ := List.mem_map.1 hvalue
    obtain ⟨r, hr⟩ := h kind e.1 e.2 ((hm kind).get?_of_mem he)
    exact ⟨r, hr.symm⟩
  have hrange := Set.range_list_map kind.encode
  obtain ⟨l, hl⟩ := hrange.ge hall
  exact ⟨l, hl.symm⟩

theorem keeps_of_values {kind : Kind} {l : List kind.Resource}
    (h : (m.collections.get kind).values = l.map kind.encode) : m.Keeps kind l := by
  rw [Keeps, snapshot, h, List.map_map, List.forall₂_map_left_iff]
  exact List.forall₂_same.2 fun r _ ↦ kind.decode_encode r

theorem tells_list_of_values {kind : Kind} {l : List kind.Resource} (hcalm : m.failures = [])
    (h : (m.collections.get kind).values = l.map kind.encode) (query : Query) :
    Tells ids m (Gateway.list kind query)
      (.ok (l.filter fun r ↦ satisfies (kind.encode r) query)) := by
  refine Tells.listed hcalm ?_
  rw [h, List.filter_map, List.map_map, List.forall₂_map_left_iff]
  exact List.forall₂_same.2 fun r _ ↦ kind.decode_encode r

/-- Over a memory of seeded and written ports, a filter lists those of all the ports that it
matches, in the order in which they were created. -/
theorem listPorts_filtered (hfurnished : Furnished ids m) (hcalm : m.failures = [])
    (f : PortFilter) :
    ∃ ports, m.Keeps .port ports ∧
      (Gateway.listPorts {}).run (transport ids) m = (.ok ports, m) ∧
      (Gateway.listPorts f).run (transport ids) m =
        (.ok (ports.filter fun p ↦ f.Matches p), m) := by
  obtain ⟨hkeyed, hwritten⟩ := hfurnished.keyed_written
  obtain ⟨ports, hports⟩ := hwritten.exists_values hkeyed .port
  have hkeeps : m.Keeps .port ports := keeps_of_values hports
  have hfilter : ports.filter (fun p ↦ satisfies p.encode f.toQuery) =
      ports.filter fun p ↦ f.Matches p :=
    List.filter_congr fun p _ ↦ Bool.eq_iff_iff.2 (by simpa using satisfies_toQuery f p)
  refine ⟨ports, hkeeps, Tells.listAll hcalm hkeeps, ?_⟩
  exact hfilter ▸ tells_list_of_values hcalm hports f.toQuery

/-- One of two ports has an address that looks like a term of a query itself. -/
def lookalikes : Memory :=
  (Demand.serve numberedId (.create .port { deviceId := some "a=b" })
    (Demand.serve numberedId (.seedPort
      { id := some "p", fixedIps := [{ ipAddress := "" }, { ipAddress := "ip_address=1" }],
        deviceId := some "a=b" }) { project := "p" }).2).2

theorem listPorts_filtered_lookalikes :
    Furnished numberedId lookalikes ∧ lookalikes.failures = [] ∧
      ∃ port, (Gateway.listPorts { ipAddress := some "ip_address=1", deviceId := some "a=b" }).run
        (transport numberedId) lookalikes = (.ok [port], lookalikes) ∧ port.id = some "p" := by
  have hfurnished : Furnished numberedId lookalikes := ((Furnished.empty "p").serve _).serve _
  refine ⟨hfurnished, rfl, ?_⟩
  obtain ⟨ports, hkeeps, hall, hfiltered⟩ := listPorts_filtered hfurnished rfl
    { ipAddress := some "ip_address=1", deviceId := some "a=b" }
  obtain rfl : ports = [
      { id := some "p", fixedIps := [{ ipAddress := "" }, { ipAddress := "ip_address=1" }],
        deviceId := some "a=b" },
      { id := some (numberedId 1), projectId := some "p", tenantId := some "p",
        deviceId := some "a=b" }] :=
    Except.ok.inj ((congrArg Prod.fst hall).symm.trans (by decide +kernel))
  exact ⟨_, hfiltered, rfl⟩

end Memory

end TrafficSteering
