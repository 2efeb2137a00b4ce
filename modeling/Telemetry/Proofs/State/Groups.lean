import Telemetry.Proofs.Schema.Attributes
import Telemetry.Proofs.State.Isolation

/-!
# What a derived metric says of its group

A pipeline routes metrics to the states of its definitions, and what is derived for a state carries
the group of the state and the name of the definition. The name stands in the two attributes that
say who made a metric, so those of the group are lost: the metrics that are derived for two states
have the same attributes exactly if the states are of one definition and their groups differ in
these two attributes only (`Pipeline.derived_identifies_group`). Groups of all attributes may do so
(`Pipeline.groups_merged`).
-/

namespace Telemetry

/-! ## The attributes of a derived metric -/

def NamesProducer (name : String) : Prop :=
  name = Metric.schemaAttribute ∨ name = Metric.definitionAttribute

instance (name : String) : Decidable (NamesProducer name) := inferInstanceAs (Decidable (_ ∨ _))

theorem get?_withProducer (name : String) (attributes : Attributes) (k : String) :
    (Definition.withProducer name attributes).get? k =
      if NamesProducer k then some name else attributes.get? k := by
  rw [Definition.withProducer, NameMap.get?_insert, NameMap.get?_insert]
  by_cases hschema : k = Metric.schemaAttribute
  · rw [if_pos hschema, if_pos (show NamesProducer k from .inl hschema)]
  · by_cases hdefinition : k = Metric.definitionAttribute
    · rw [if_neg hschema, if_pos hdefinition, if_pos (show NamesProducer k from .inr hdefinition)]
    · rw [if_neg hschema, if_neg hdefinition,
        if_neg fun h : NamesProducer k => h.elim hschema hdefinition]

theorem withProducer_eq_iff {name name' : String} {a a' : Attributes} :
    Definition.withProducer name a = Definition.withProducer name' a' ↔
      name = name' ∧ ∀ k, ¬NamesProducer k → a.get? k = a'.get? k := by
  have hschema : NamesProducer Metric.schemaAttribute := .inl rfl
  constructor
  · intro h
    constructor
    · have hget := congrArg (NameMap.get? · Metric.schemaAttribute) h
      simp only [get?_withProducer, if_pos hschema] at hget
      exact Option.some.inj hget
    · intro k hk
      have hget := congrArg (NameMap.get? · k) h
      simpa only [get?_withProducer, if_neg hk] using hget
  · rintro ⟨rfl, h⟩
    refine NameMap.ext_get? fun k => ?_
    rw [get?_withProducer, get?_withProducer]
    split
    · rfl
    · exact h k ‹_›

/-! ## What is derived for a key -/

namespace Store

variable {definitions : Definitions} {now : Instant} {s : Store} {key : StateKey} {m : Metric}

theorem attributes_of_apply (hs : definitions.Named) {event : Event}
    (h : (s.apply definitions now key event).1 = some m) :
    m.attributes = Definition.withProducer key.definition key.group := by
  cases event with
  | timeout => cases h
  | metric m' =>
      unfold apply at h
      cases hd : definitions.valid? key.definition with
      | none =>
          rw [hd] at h
          cases h
      | some d =>
          rw [hd] at h
          have hname : d.name = key.definition :=
            hs _ d (Option.filter_eq_some_iff.mp hd).1
          unfold Definition.derive? at h
          dsimp only at h
          split at h
          · obtain ⟨v, -, rfl⟩ := Option.map_eq_some_iff.mp h
            rw [hname]
          · cases h

theorem attributes_of_mem_run (hs : definitions.Named) {ds : List Delivery}
    (h : (key, some m) ∈ (run definitions s ds).1) :
    m.attributes = Definition.withProducer key.definition key.group := by
  induction ds generalizing s with
  | nil => cases h
  | cons d rest ih =>
      rcases List.mem_cons.mp h with hfirst | hmore
      · obtain ⟨rfl, hderived⟩ := Prod.mk.inj hfirst
        exact attributes_of_apply hs hderived.symm
      · exact ih hmore

/-- What a metric derives for a key that nothing is stored for. -/
def firstDerived? (definitions : Definitions) (key : StateKey) (m : Metric) : Option Metric :=
  (definitions.valid? key.definition).bind fun d =>
    let (updated, stores) := d.update .empty m key.group.keys
    d.derive? stores m key.group updated

theorem apply_fst_of_fresh (h : s[key]? = none) :
    (s.apply definitions now key (.metric m)).1 = firstDerived? definitions key m := by
  have hcurrent : s.current key = .empty := by rw [current, held, h]
  unfold apply firstDerived?
  cases definitions.valid? key.definition with
  | none => rfl
  | some d =>
      dsimp only
      rw [hcurrent]
      rfl

theorem mem_run_of_sole {ds : List Delivery} {derived : Metric} (h : s[key]? = none)
    (hsole : deliveriesTo key ds = [⟨now, key, .metric m⟩])
    (hderived : firstDerived? definitions key m = some derived) :
    (key, some derived) ∈ (run definitions s ds).1 := by
  have hseen : (seen key (run definitions s ds)).1 = [some derived] := by
    rw [seen_run_congr (t := s) rfl, hsole, seen_run_cons_self (d := ⟨now, key, .metric m⟩) rfl,
      apply_fst_of_fresh h, hderived]
    rfl
  have hmem : some derived ∈ (seen key (run definitions s ds)).1 := by
    rw [hseen]
    exact List.mem_singleton_self _
  obtain ⟨⟨key', outcome⟩, hfiltered, rfl⟩ := List.mem_map.mp hmem
  obtain ⟨ho, hkey⟩ := List.mem_filter.mp hfiltered
  exact of_decide_eq_true hkey ▸ ho

/-! ## Metrics as deliveries -/

theorem run_append (before after : List Delivery) :
    run definitions s (before ++ after) =
      ((run definitions s before).1 ++ (run definitions (run definitions s before).2 after).1,
        (run definitions (run definitions s before).2 after).2) := by
  induction before generalizing s with
  | nil => rfl
  | cons d rest ih => simp [run, ih]

def routed (definitions : Definitions) (now : Instant) (m : Metric) : List Delivery :=
  (definitions.keys m).map fun key => ⟨now, key, .metric m⟩

theorem applyTo_eq_run (m : Metric) (keys : List StateKey) :
    applyTo definitions now m s keys =
      (((run definitions s (keys.map fun key => ⟨now, key, .metric m⟩)).1.filterMap (·.2)),
        (run definitions s (keys.map fun key => ⟨now, key, .metric m⟩)).2) := by
  induction keys generalizing s with
  | nil => rfl
  | cons key rest ih =>
      rw [applyTo, List.map_cons, run]
      dsimp only
      rw [ih]
      cases (s.apply definitions now key (.metric m)).1 <;> rfl

theorem processAll_eq_run (ms : List Metric) :
    processAll definitions now s ms =
      ((run definitions s (ms.flatMap (routed definitions now))).1.filterMap (·.2),
        (run definitions s (ms.flatMap (routed definitions now))).2) := by
  induction ms generalizing s with
  | nil => rfl
  | cons m rest ih =>
      have hfirst : s.process definitions now m = _ := applyTo_eq_run m (definitions.keys m)
      rw [processAll, hfirst]
      dsimp only
      rw [ih, List.flatMap_cons, run_append, List.filterMap_append]
      rfl

end Store

/-! ## Pipelines -/

structure Pipeline where
  definitions : Definitions
  timeout : Duration
  store : Store

namespace Pipeline

inductive Task
  | process (now : Instant) (ms : List Metric)
  | expire (now : Instant)
  /-- Takes other definitions. -/
  | reload (l : List Definition)

def ofDefinitions (l : List Definition) (timeout : Duration) (store : Store) : Pipeline :=
  ⟨.ofDefinitions l, timeout, store⟩

/-- The metrics that a task derives, each with the state that it is derived for. -/
def handle (p : Pipeline) : Task → List (StateKey × Metric) × Pipeline
  | .process now ms =>
    let (outcomes, store) :=
      p.store.run p.definitions (ms.flatMap (Store.routed p.definitions now))
    (outcomes.filterMap fun o => o.2.map (o.1, ·), { p with store })
  | .expire now => ([], { p with store := (p.store.expire p.definitions now p.timeout).2 })
  | .reload l => ([], { p with definitions := .ofDefinitions l })

def derived (p : Pipeline) : List Task → List (StateKey × Metric)
  | [] => []
  | t :: rest => (p.handle t).1 ++ (p.handle t).2.derived rest

variable {p : Pipeline} {key key' : StateKey} {m m' : Metric}

/-- Without the states, what is derived for metrics is what the store derives. -/
theorem handle_process (p : Pipeline) (now : Instant) (ms : List Metric) :
    ((p.handle (.process now ms)).1.map (·.2), (p.handle (.process now ms)).2.store) =
      p.store.processAll p.definitions now ms := by
  rw [Store.processAll_eq_run, handle]
  dsimp only
  rw [List.map_filterMap]
  simp [Function.comp_def]

theorem attributes_of_mem_handle (hs : p.definitions.Named) {t : Task}
    (h : (key, m) ∈ (p.handle t).1) :
    m.attributes = Definition.withProducer key.definition key.group := by
  cases t with
  | process now ms =>
      obtain ⟨⟨key', derived⟩, ho, heq⟩ := List.mem_filterMap.mp h
      obtain ⟨m', rfl, hm⟩ := Option.map_eq_some_iff.mp heq
      cases hm
      exact Store.attributes_of_mem_run hs ho
  | expire now => cases h
  | reload l => cases h

theorem named_handle (hs : p.definitions.Named) (t : Task) : (p.handle t).2.definitions.Named := by
  cases t with
  | process now ms => exact hs
  | expire now => exact hs
  | reload l => exact Definitions.named_ofDefinitions l

theorem attributes_of_mem_derived (hs : p.definitions.Named) {tasks : List Task}
    (h : (key, m) ∈ p.derived tasks) :
    m.attributes = Definition.withProducer key.definition key.group := by
  induction tasks generalizing p with
  | nil => cases h
  | cons t rest ih =>
      rcases List.mem_append.mp h with hfirst | hmore
      · exact attributes_of_mem_handle hs hfirst
      · exact ih (named_handle hs t) hmore

/-- **A derived metric identifies its group but for the producer's names.** What a pipeline derives
for a state carries the group of the state, with the name of its definition in the two attributes
that say who made a metric. So of all that a pipeline derives, whatever it is asked to do, two
metrics have the same attributes if and only if their states are of one definition and the groups
agree on every other attribute. -/
theorem derived_identifies_group (l : List Definition) (timeout : Duration) (store : Store)
    (tasks : List Task) (key key' : StateKey) (m m' : Metric)
    (h : (key, m) ∈ (ofDefinitions l timeout store).derived tasks)
    (h' : (key', m') ∈ (ofDefinitions l timeout store).derived tasks) :
    (∀ name, m.attributes.get? name =
      if NamesProducer name then some key.definition else key.group.get? name) ∧
    (m.attributes = m'.attributes ↔
      key.definition = key'.definition ∧
        ∀ name, ¬NamesProducer name → key.group.get? name = key'.group.get? name) := by
  have hs : (ofDefinitions l timeout store).definitions.Named := Definitions.named_ofDefinitions l
  rw [attributes_of_mem_derived hs h, attributes_of_mem_derived hs h']
  exact ⟨get?_withProducer key.definition key.group, withProducer_eq_iff⟩

/-! ## Groups of all attributes -/

/-- A state that one metric of a task reaches, when nothing is stored, has what that metric alone
derives. -/
theorem mem_derived_of_sole {l : List Definition} {timeout : Duration} {now : Instant}
    {ms : List Metric} {derived : Metric}
    (hsole : Store.deliveriesTo key (ms.flatMap (Store.routed (.ofDefinitions l) now)) =
      [⟨now, key, .metric m⟩])
    (hderived : Store.firstDerived? (.ofDefinitions l) key m = some derived) :
    (key, derived) ∈ (ofDefinitions l timeout .empty).derived [.process now ms] := by
  have hmem : (key, some derived) ∈
      (Store.empty.run (.ofDefinitions l) (ms.flatMap (Store.routed (.ofDefinitions l) now))).1 :=
    Store.mem_run_of_sole Std.HashMap.getElem?_empty hsole hderived
  exact List.mem_append_left _ (List.mem_filterMap.mpr ⟨_, hmem, rfl⟩)

/-- A count of all metrics, for every group of attributes. -/
def countingAll : Definition :=
  .build "total" (.ofList [("metrics.groupby", "ALL"), ("variables.v.aggregate", "count")])
    Variable.defaultMaxSeries

def hostMetric (schema host : String) : Metric :=
  ⟨.epoch, .boolean true, .ofList [("$schema", schema), ("host", host)]⟩

def hostKey (schema host : String) : StateKey := ⟨"total", (hostMetric schema host).attributes⟩

def hostCount (host : String) : Metric :=
  ⟨.epoch, .numeric 1, .ofList [("$defined_metric", "total"), ("$schema", "total"), ("host", host)]⟩

/-- Metrics of two schemas, and of one of them for two hosts. -/
def hostMetrics : List Metric := [hostMetric "a" "h1", hostMetric "b" "h1", hostMetric "b" "h2"]

def counting : Pipeline := ofDefinitions [countingAll] (.ofMilliseconds 3600000) .empty

theorem keys_hostMetrics : hostMetrics.map (Definitions.ofDefinitions [countingAll]).keys =
    [[hostKey "a" "h1"], [hostKey "b" "h1"], [hostKey "b" "h2"]] := by
  decide +kernel

theorem valid?_countingAll :
    (Definitions.ofDefinitions [countingAll]).valid? "total" = some countingAll := by
  with_unfolding_all rfl

theorem equation_countingAll : countingAll.equation = some (.variable "v" .numeric) := by
  with_unfolding_all rfl

theorem evaluate_countingAll (stores : Stores) (time : Instant) :
    countingAll.evaluate stores time =
      match Node.checked "v" .numeric (countingAll.source stores time "v") with
      | .absent => none
      | v => some v := by
  cases h : Node.checked "v" .numeric (countingAll.source stores time "v") <;>
    simp [Definition.evaluate, equation_countingAll, Node.evaluate, h]

theorem firstDerived?_hostMetrics :
    Store.firstDerived? (.ofDefinitions [countingAll]) (hostKey "a" "h1") (hostMetric "a" "h1") =
        some (hostCount "h1") ∧
      Store.firstDerived? (.ofDefinitions [countingAll]) (hostKey "b" "h1") (hostMetric "b" "h1") =
        some (hostCount "h1") ∧
      Store.firstDerived? (.ofDefinitions [countingAll]) (hostKey "b" "h2") (hostMetric "b" "h2") =
        some (hostCount "h2") := by
  simp only [Store.firstDerived?, hostKey, valid?_countingAll, Option.bind_some,
    Definition.derive?, evaluate_countingAll]
  decide +kernel

theorem deliveries_hostMetrics :
    hostMetrics.flatMap (Store.routed (.ofDefinitions [countingAll]) .epoch) =
      [⟨.epoch, hostKey "a" "h1", .metric (hostMetric "a" "h1")⟩,
        ⟨.epoch, hostKey "b" "h1", .metric (hostMetric "b" "h1")⟩,
        ⟨.epoch, hostKey "b" "h2", .metric (hostMetric "b" "h2")⟩] := by
  have hkeys := keys_hostMetrics
  simp only [hostMetrics, List.map_cons, List.map_nil, List.cons.injEq] at hkeys
  simp [hostMetrics, Store.routed, hkeys]

theorem mem_derived_counting :
    (hostKey "a" "h1", hostCount "h1") ∈ counting.derived [.process .epoch hostMetrics] ∧
      (hostKey "b" "h1", hostCount "h1") ∈ counting.derived [.process .epoch hostMetrics] ∧
      (hostKey "b" "h2", hostCount "h2") ∈ counting.derived [.process .epoch hostMetrics] := by
  have hne : hostKey "a" "h1" ≠ hostKey "b" "h1" ∧ hostKey "a" "h1" ≠ hostKey "b" "h2" ∧
      hostKey "b" "h1" ≠ hostKey "b" "h2" := by decide +kernel
  obtain ⟨hab, hac, hbc⟩ := hne
  obtain ⟨ha, hb, hc⟩ := firstDerived?_hostMetrics
  refine ⟨mem_derived_of_sole ?_ ha, mem_derived_of_sole ?_ hb, mem_derived_of_sole ?_ hc⟩ <;>
    rw [deliveries_hostMetrics] <;>
    simp [Store.deliveriesTo, hab, hac, hbc, hab.symm, hac.symm, hbc.symm]

/-- The counts for two hosts differ in their attributes. -/
theorem hosts_told_apart :
    (hostKey "b" "h1", hostCount "h1") ∈ counting.derived [.process .epoch hostMetrics] ∧
      (hostKey "b" "h2", hostCount "h2") ∈ counting.derived [.process .epoch hostMetrics] ∧
      (hostCount "h1").attributes ≠ (hostCount "h2").attributes := by
  obtain ⟨-, hfirst, hsecond⟩ := mem_derived_counting
  refine ⟨hfirst, hsecond, fun heq => ?_⟩
  have hagree := (derived_identifies_group [countingAll] _ .empty _ _ _ _ _ hfirst hsecond).2.mp heq
  exact absurd (hagree.2 "host" (by decide)) (by decide)

/-- The counts for two groups that differ in the schema alone have the same attributes, so derived
metrics of different groups need not differ. -/
theorem groups_merged :
    countingAll.isValid = true ∧
      ¬∀ key m key' m', (key, m) ∈ counting.derived [.process .epoch hostMetrics] →
        (key', m') ∈ counting.derived [.process .epoch hostMetrics] → key ≠ key' →
        m.attributes ≠ m'.attributes := by
  obtain ⟨hvalid, hne⟩ : countingAll.isValid = true ∧ hostKey "a" "h1" ≠ hostKey "b" "h1" := by
    decide +kernel
  refine ⟨hvalid, fun h => ?_⟩
  exact h _ _ _ _ mem_derived_counting.1 mem_derived_counting.2.1 hne rfl

end Pipeline

end Telemetry
