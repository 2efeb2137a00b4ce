import Telemetry.Proofs.Definition.Configured
import Telemetry.Proofs.Definition.Routing
import Telemetry.Proofs.Json.RoundTrip

/-!
# Routes and updates

Whether a definition takes a metric is asked twice: when the metric is routed to a group, and when
the state of the group is updated. Both agree (`Definition.update_of_routed`): a routed metric
updates at least one variable, and exactly those whose filters take it; no other entry of the state
is touched, and each of theirs becomes what the variable makes of it.
-/

namespace Telemetry

variable {m : Metric} {groupBy : List String} {stores stores' : Stores} {name : String}

/-! ## Updates of variables -/

namespace Variable

variable {v : Variable} {l : List Variable}

/-- An update writes the entry of the variable only. -/
theorem get?_update_of_ne (h : name ≠ v.name) :
    (v.update stores m groupBy).get? name = stores.get? name := by
  unfold update
  split <;> rw [NameMap.get?_insert, if_neg h]

/-- An update reads the entry of the variable only. -/
theorem get?_update_congr (h : stores.get? v.name = stores'.get? v.name) :
    (v.update stores m groupBy).get? v.name = (v.update stores' m groupBy).get? v.name := by
  unfold update
  split
  · rw [NameMap.get?_insert_self, NameMap.get?_insert_self]
  · rw [NameMap.get?_insert_self, NameMap.get?_insert_self, h]

theorem get?_updates_of_forall_ne (h : ∀ v ∈ l, name ≠ v.name) :
    (l.foldl (fun stores v => v.update stores m groupBy) stores).get? name = stores.get? name := by
  induction l generalizing stores with
  | nil => rfl
  | cons first rest ih =>
      obtain ⟨hfirst, hrest⟩ := List.forall_mem_cons.mp h
      exact (ih hrest).trans (get?_update_of_ne hfirst)

/-- Among variables of different names each makes of its entry what it makes of it alone. -/
theorem get?_updates_of_mem (hl : l.Pairwise fun v v' => v.name ≠ v'.name) (hv : v ∈ l) :
    (l.foldl (fun stores v => v.update stores m groupBy) stores).get? v.name =
      (v.update stores m groupBy).get? v.name := by
  induction l generalizing stores with
  | nil => cases hv
  | cons first rest ih =>
      obtain ⟨hfirst, hrest⟩ := List.pairwise_cons.mp hl
      rcases List.mem_cons.mp hv with rfl | hv
      · exact get?_updates_of_forall_ne hfirst
      · refine (ih hrest hv).trans (get?_update_congr ?_)
        exact get?_update_of_ne (hfirst v hv).symm

end Variable

namespace Definition

variable {d : Definition} {key : StateKey} {v : Variable}

/-! ## Variables that take a metric -/

theorem NamesVars.pairwise_takers (hd : d.NamesVars) (m : Metric) :
    (d.takers m).Pairwise fun v v' => v.name ≠ v'.name := by
  unfold takers
  split
  · exact (NameMap.pairwise_values hd).filter _
  · exact List.Pairwise.nil

theorem NamesVars.mem_takers_iff (hd : d.NamesVars) (hfilter : d.filter.test m.attributes = true) :
    v ∈ d.takers m ↔ d.vars.get? v.name = some v ∧ v.test m = true := by
  rw [takers, if_pos hfilter, List.mem_filter, NameMap.mem_values]
  refine and_congr_left fun _ => ⟨?_, fun h => ⟨v.name, h⟩⟩
  rintro ⟨name, h⟩
  rwa [hd name v h]

/-- The variables that are updated are those whose filters take the metric. -/
theorem NamesVars.mem_updated_iff (hd : d.NamesVars)
    (hfilter : d.filter.test m.attributes = true) (stores : Stores) (groupBy : List String) :
    name ∈ (d.update stores m groupBy).1 ↔
      ∃ v, d.vars.get? name = some v ∧ v.test m = true := by
  constructor
  · intro h
    obtain ⟨v, hv, rfl⟩ := List.mem_map.mp h
    exact ⟨v, (hd.mem_takers_iff hfilter).mp hv⟩
  · rintro ⟨v, hv, htest⟩
    obtain rfl := hd name v hv
    exact List.mem_map_of_mem ((hd.mem_takers_iff hfilter).mpr ⟨hv, htest⟩)

/-- The entries of the variables that are updated. -/
theorem NamesVars.get?_update_of_mem (hd : d.NamesVars)
    (hfilter : d.filter.test m.attributes = true) (hv : d.vars.get? name = some v)
    (htest : v.test m = true) :
    (d.update stores m groupBy).2.get? name = (v.update stores m groupBy).get? name := by
  obtain rfl := hd name v hv
  exact Variable.get?_updates_of_mem (hd.pairwise_takers m)
    ((hd.mem_takers_iff hfilter).mpr ⟨hv, htest⟩)

/-- All other entries stay as they are. -/
theorem get?_update_of_not_mem (h : name ∉ (d.update stores m groupBy).1) :
    (d.update stores m groupBy).2.get? name = stores.get? name := by
  refine Variable.get?_updates_of_forall_ne fun v hv hname => h ?_
  exact hname ▸ List.mem_map_of_mem hv

theorem update_of_takers_eq_nil (h : d.takers m = []) (stores : Stores) (groupBy : List String) :
    d.update stores m groupBy = ([], stores) := by
  rw [update, h]
  rfl

/-! ## Routes -/

theorem appliesTo_iff : d.appliesTo m = true ↔ d.isValid = true ∧
    d.filter.test m.attributes = true ∧ ∃ v ∈ d.vars.values, v.test m = true := by
  rw [appliesTo, Bool.and_eq_true, Bool.and_eq_true, List.any_eq_true, and_assoc]

theorem appliesTo_of_key? (h : d.key? m = some key) : d.appliesTo m = true := by
  unfold key? at h
  split at h
  · assumption
  · cases h

/-- A metric that a valid definition does not take changes nothing. -/
theorem takers_of_not_appliesTo (hvalid : d.isValid = true) (h : d.appliesTo m = false) :
    d.takers m = [] := by
  unfold takers
  split
  · rename_i hfilter
    refine List.filter_eq_nil_iff.mpr fun v hv htest => ?_
    rw [appliesTo_iff.mpr ⟨hvalid, hfilter, v, hv, htest⟩] at h
    cases h
  · rfl

/-- A metric without a group misses one of the attributes that group. -/
theorem exists_missing {g : Grouping} (h : g.group? m = none) :
    ∃ names, g = .attributes names ∧ ∃ x ∈ names, m.attribute? x = none := by
  cases g with
  | none => cases h
  | all => cases h
  | «attributes» names =>
      refine ⟨names, rfl, ?_⟩
      have hmissing : ¬(names.mapM fun x => (m.attribute? x).map fun text => (x, text)).isSome := by
        rw [Option.not_isSome_iff_eq_none]
        exact Option.map_eq_none_iff.mp h
      simpa [Json.isSome_mapM] using hmissing

/-- A metric that a valid definition does not route either changes nothing, or has no group. -/
theorem takers_or_group?_of_key?_eq_none (hvalid : d.isValid = true) (h : d.key? m = none) :
    d.takers m = [] ∨ d.grouping.group? m = none := by
  unfold key? at h
  split at h
  · exact .inr (Option.map_eq_none_iff.mp h)
  · rename_i happlies
    exact .inl (takers_of_not_appliesTo hvalid (Bool.eq_false_iff.mpr happlies))

/-- What an update derives if any variable triggers it. -/
theorem derive?_of_any {tree : Node} {updated : List String} (htrigger : d.trigger = .any)
    (hsome : updated ≠ []) (htree : d.equation = some tree) (stores : Stores) (m : Metric)
    (group : Attributes) :
    d.derive? stores m group updated =
      match tree.evaluate (d.source stores m.timestamp) with
      | .absent => none
      | value => some ⟨m.timestamp, value, withProducer d.name group⟩ := by
  have htriggered : d.isTriggered updated = true := by
    rw [isTriggered, htrigger]
    simpa using hsome
  rw [derive?, if_pos htriggered, evaluate, htree]
  dsimp only
  cases tree.evaluate (d.source stores m.timestamp) <;> rfl

/-- **Routes and updates agree.** Take any definition, after any configurations, any metric and any
state. If the metric is routed to a group, the update of the group reports at least one variable,
and exactly the variables whose filters take the metric; what they hold becomes what each of them
makes of the metric, and all other entries stay as they are; and if any variable triggers the
definition, a metric with the value of the equation is derived, unless that is absent. If the
definition is valid and the metric is not routed, an update would report and change nothing, or the
metric misses an attribute that groups. -/
theorem update_of_routed (name : String) (history : List (Properties × Nat)) (m : Metric)
    (stores : Stores) :
    let d := configured name history
    (∀ key, d.key? m = some key →
      let groupBy := key.group.keys
      let (updated, stores') := d.update stores m groupBy
      updated ≠ [] ∧
      (∀ x, x ∈ updated ↔ ∃ v, d.vars.get? x = some v ∧ v.test m = true) ∧
      (∀ x v, d.vars.get? x = some v → v.test m = true →
        stores'.get? x = (v.update stores m groupBy).get? x) ∧
      (∀ x, x ∉ updated → stores'.get? x = stores.get? x) ∧
      (d.trigger = .any → ∃ tree, d.equation = some tree ∧
        d.derive? stores' m key.group updated =
          match tree.evaluate (d.source stores' m.timestamp) with
          | .absent => none
          | value => some ⟨m.timestamp, value, withProducer name key.group⟩)) ∧
    (d.isValid = true → d.key? m = none →
      (∀ groupBy, d.update stores m groupBy = ([], stores)) ∨
        ∃ names, d.grouping = .attributes names ∧ ∃ x ∈ names, m.attribute? x = none) := by
  have hd := namesVars_configured name history
  have hname : (configured name history).name = name := name_configured name history
  dsimp only
  generalize configured name history = d at hd hname ⊢
  refine ⟨fun key hkey => ?_, fun hvalid hkey => ?_⟩
  · obtain ⟨hvalid, hfilter, v, hv, htest⟩ := appliesTo_iff.mp (appliesTo_of_key? hkey)
    obtain ⟨x, hx⟩ := NameMap.mem_values.mp hv
    have hupdated : ∀ x, x ∈ (d.update stores m key.group.keys).1 ↔
        ∃ v, d.vars.get? x = some v ∧ v.test m = true :=
      fun x => hd.mem_updated_iff hfilter stores key.group.keys
    have hsome : (d.update stores m key.group.keys).1 ≠ [] :=
      List.ne_nil_of_mem ((hupdated x).mpr ⟨v, hx, htest⟩)
    refine ⟨hsome, hupdated, fun x v hv htest => hd.get?_update_of_mem hfilter hv htest,
      fun x hx => get?_update_of_not_mem hx, fun htrigger => ?_⟩
    rw [isValid, Bool.and_eq_true, Option.isSome_iff_exists] at hvalid
    obtain ⟨-, tree, htree⟩ := hvalid
    refine ⟨tree, htree, ?_⟩
    rw [derive?_of_any htrigger hsome htree, hname]
  · rcases takers_or_group?_of_key?_eq_none hvalid hkey with hnone | hgroup
    · exact .inl (update_of_takers_eq_nil hnone stores)
    · exact .inr (exists_missing hgroup)

def hostLoad : Definition :=
  configured "load" [(.ofList [("metrics.groupby", "host"), ("value", "cpu + mem"),
    ("variables.cpu.filter.attribute.kind", "cpu"),
    ("variables.mem.filter.attribute.kind", "mem")], 10)]

def cpuOf (attributes : List (String × String)) : Metric :=
  ⟨.epoch, .numeric 1, .ofList (("kind", "cpu") :: attributes)⟩

/-- A metric of a host updates the processor and leaves the memory alone; a metric without a host
misses the attribute that groups. -/
theorem hostLoad_routes :
    hostLoad.key? (cpuOf [("host", "h1")]) = some ⟨"load", .ofList [("host", "h1")]⟩ ∧
      "cpu" ∈ (hostLoad.update .empty (cpuOf [("host", "h1")]) ["host"]).1 ∧
      (hostLoad.update .empty (cpuOf [("host", "h1")]) ["host"]).2.get? "mem" = none ∧
      hostLoad.isValid = true ∧ hostLoad.key? (cpuOf []) = none ∧
      ∃ names, hostLoad.grouping = .attributes names ∧
        ∃ x ∈ names, (cpuOf []).attribute? x = none := by
  have hstate : hostLoad.key? (cpuOf [("host", "h1")]) =
        some ⟨"load", .ofList [("host", "h1")]⟩ ∧
      hostLoad.isValid = true ∧ hostLoad.key? (cpuOf []) = none ∧
      (hostLoad.vars.get? "cpu").any (·.test (cpuOf [("host", "h1")])) = true ∧
      "mem" ∉ (hostLoad.update .empty (cpuOf [("host", "h1")]) ["host"]).1 ∧
      (hostLoad.update .empty (cpuOf []) []).1 ≠ [] := by
    decide +kernel
  obtain ⟨hkey, hvalid, hnone, hcpu, hmem, hsome⟩ := hstate
  obtain ⟨-, hupdated, -, hother, -⟩ :=
    (update_of_routed "load" _ (cpuOf [("host", "h1")]) .empty).1 _ hkey
  refine ⟨hkey, (hupdated "cpu").mpr ((Option.any_eq_true _ _).mp hcpu), hother "mem" hmem, hvalid,
    hnone, ?_⟩
  refine ((update_of_routed "load" _ (cpuOf []) .empty).2 hvalid hnone).resolve_left fun h => ?_
  exact hsome (congrArg Prod.fst (h []))

end Definition

end Telemetry
