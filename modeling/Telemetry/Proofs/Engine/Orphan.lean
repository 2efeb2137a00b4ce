import Telemetry.Engine
import Telemetry.Proofs.State.Locality

/-!
# States whose definition is gone

A reload may take away the definition of a state, or put it in error. Metrics are routed by the
definitions of the moment, so none reaches such a state any more: neither does it change, nor is it
removed, until it is timed out because it is idle (`run_gone_keeps_state`).
-/

namespace Telemetry.Engine

inductive Request
  | reload (p : Properties)
  | process (now : Instant) (source : String) (record : Json)
  | expire (now : Instant)

def handle (g : Engine) : Request → Engine
  | .reload p => g.reload p
  | .process now source record => (g.process now source record).2
  | .expire now => (g.expire now).2

def run (g : Engine) (requests : List Request) : Engine := requests.foldl handle g

def Request.timesOut (timeout : Duration) (stored : StoredState) : Request → Bool
  | .expire now => Store.isIdle now timeout stored
  | .reload _ | .process _ _ _ => false

variable {g : Engine} {key : StateKey}

/-! ## One request -/

theorem settings_handle (g : Engine) (r : Request) : (g.handle r).settings = g.settings := by
  cases r <;> rfl

theorem definitions_reload (g : Engine) (p : Properties) :
    (g.reload p).definitions = Definitions.ofProperties p g.settings.state.maxSeries := rfl

theorem named_ofProperties (settings : Settings) (p : Properties) :
    (ofProperties settings p).definitions.Named :=
  Definitions.named_ofProperties p _

theorem store_reload (g : Engine) (p : Properties) : (g.reload p).store = g.store := rfl

theorem named_reload (g : Engine) (p : Properties) : (g.reload p).definitions.Named :=
  Definitions.named_ofProperties p _

theorem named_handle (r : Request) (h : g.definitions.Named) : (g.handle r).definitions.Named := by
  cases r with
  | reload p => exact named_reload g p
  | process now source record => exact h
  | expire now => exact h

theorem getElem?_store_process (now : Instant) (source : String) (record : Json)
    (hs : g.definitions.Named) (h : g.definitions.valid? key.definition = none) :
    (g.process now source record).2.store[key]? = g.store[key]? :=
  Store.getElem?_processAll_of_not_mem fun _ _ => hs.not_mem_keys h

/-- While a definition is there, its states stay when records are handled. -/
theorem isSome_store_process {m : Metric} {now : Instant} {source : String} {record : Json}
    (hs : g.definitions.Named) (hm : m ∈ (g.extract now source record).1)
    (h : key ∈ g.definitions.keys m) : (g.process now source record).2.store[key]?.isSome :=
  Store.isSome_getElem?_processAll hs hm h

theorem getElem?_store_handle (r : Request) (hs : g.definitions.Named)
    (h : g.definitions.valid? key.definition = none) :
    (g.handle r).store[key]? =
      g.store[key]?.filter fun stored => !r.timesOut g.settings.timeout stored := by
  have hkept : g.store[key]? = g.store[key]?.filter fun _ => true := by
    cases g.store[key]? <;> rfl
  cases r with
  | reload p => exact hkept
  | process now source record => exact (getElem?_store_process now source record hs h).trans hkept
  | expire now => exact Store.getElem?_expire _

theorem valid?_handle (r : Request) (h : g.definitions.valid? key.definition = none)
    (hr : ∀ p, r = .reload p →
      (Definitions.ofProperties p g.settings.state.maxSeries).valid? key.definition = none) :
    (g.handle r).definitions.valid? key.definition = none := by
  cases r with
  | reload p => exact hr p rfl
  | process now source record => exact h
  | expire now => exact h

/-! ## Runs -/

theorem getElem?_store_run (requests : List Request) (hs : g.definitions.Named)
    (h : g.definitions.valid? key.definition = none)
    (hgone : ∀ p, .reload p ∈ requests →
      (Definitions.ofProperties p g.settings.state.maxSeries).valid? key.definition = none) :
    (g.run requests).store[key]? =
      g.store[key]?.filter fun stored => !requests.any (·.timesOut g.settings.timeout stored) := by
  induction requests generalizing g with
  | nil => cases hg : g.store[key]? <;> simp [run, hg, Option.filter_some]
  | cons r rest ih =>
      -- the definition is still gone after `r`, so `ih` is about the engine that `r` leaves
      have hr := valid?_handle r h fun p hp => hgone p (hp ▸ List.mem_cons_self)
      have hrest : ∀ p, .reload p ∈ rest → (Definitions.ofProperties p
          (g.handle r).settings.state.maxSeries).valid? key.definition = none := by
        intro p hp
        rw [settings_handle]
        exact hgone p (List.mem_cons_of_mem _ hp)
      have hrun := ih (named_handle r hs) hr hrest
      rw [settings_handle, getElem?_store_handle r hs h] at hrun
      show ((g.handle r).run rest).store[key]? = _
      rw [hrun, Option.filter_filter]
      simp only [List.any_cons, Bool.not_or]

/-- **A state whose definition is gone leaves only when it is idle.** After a reload that takes
away the definition of a key or puts it in error, and while it stays so, no record has any effect on
what is stored for the key: it is there until a time-out finds it idle. -/
theorem run_gone_keeps_state (g : Engine) (p : Properties) (requests : List Request)
    (key : StateKey)
    (hgone : ∀ q, .reload q ∈ Request.reload p :: requests →
      (Definitions.ofProperties q g.settings.state.maxSeries).valid? key.definition = none) :
    (g.run (.reload p :: requests)).store[key]? =
      g.store[key]?.filter fun stored => !requests.any (·.timesOut g.settings.timeout stored) :=
  getElem?_store_run (g := g.reload p) requests (named_reload g p)
    (hgone p List.mem_cons_self) fun q hq => hgone q (List.mem_cons_of_mem _ hq)

/-! ## A state that no metric removes -/

def countingProperties : Properties :=
  .ofList [("metrics.define.total.variables.v.aggregate", "count"),
    ("metrics.schema.s.sources", "events"), ("metrics.schema.s.value.cpu.key", "cpu")]

def readingProperties : Properties :=
  .ofList [("metrics.schema.s.sources", "events"), ("metrics.schema.s.value.cpu.key", "cpu")]

def cpuRecord : Json := .object [("cpu", .bool true), ("timestamp", .number (.int 1000))]

def cpuMetric : Metric := ⟨⟨1, 0⟩, .boolean true, .ofList [("$schema", "s"), ("$value", "cpu")]⟩

def totalKey : StateKey := ⟨"total", .empty⟩

def counting : Engine := ofProperties {} countingProperties

def counted : Engine := (counting.process .epoch "events" cpuRecord).2

def reading : Engine := counted.reload readingProperties

theorem cpuMetric_mem_extract_counting :
    cpuMetric ∈ (counting.extract .epoch "events" cpuRecord).1 := by
  decide +kernel

theorem cpuMetric_mem_extract_reading :
    cpuMetric ∈ (reading.extract .epoch "events" cpuRecord).1 := by
  decide +kernel

theorem totalKey_mem_keys : totalKey ∈ counting.definitions.keys cpuMetric := by
  decide +kernel

theorem isSome_counted : counted.store[totalKey]?.isSome := by
  have hs : counting.definitions.Named := named_ofProperties {} countingProperties
  rw [counted]
  exact isSome_store_process hs cpuMetric_mem_extract_counting totalKey_mem_keys

theorem valid?_readingProperties (maxSeries : Nat) :
    (Definitions.ofProperties readingProperties maxSeries).valid? totalKey.definition = none := by
  have hids : (readingProperties.subset "metrics.define").ids = [] := by decide +kernel
  unfold Definitions.ofProperties
  simp only [hids]
  rfl

theorem reading_valid? : reading.definitions.valid? totalKey.definition = none := by
  rw [reading, definitions_reload]
  exact valid?_readingProperties _

/-- The count is taken away, and then the engine handles another record, with a metric that was
routed to the count before: the state of the count is still there. -/
theorem reload_keeps_total :
    counted.store[totalKey]?.isSome ∧
    reading.definitions.valid? totalKey.definition = none ∧
    (∃ m ∈ (reading.extract .epoch "events" cpuRecord).1, totalKey ∈ counting.definitions.keys m) ∧
    (reading.process .epoch "events" cpuRecord).2.store[totalKey]?.isSome := by
  have hs : reading.definitions.Named := named_reload counted readingProperties
  have hkept : (reading.process .epoch "events" cpuRecord).2.store[totalKey]?.isSome := by
    rw [getElem?_store_process _ _ _ hs reading_valid?, reading, store_reload]
    exact isSome_counted
  have hrouted : ∃ m ∈ (reading.extract .epoch "events" cpuRecord).1,
      totalKey ∈ counting.definitions.keys m :=
    ⟨cpuMetric, cpuMetric_mem_extract_reading, totalKey_mem_keys⟩
  exact ⟨isSome_counted, reading_valid?, hrouted, hkept⟩

theorem counted_run_gone :
    (∀ q, .reload q ∈ [Request.reload readingProperties, .process .epoch "events" cpuRecord] →
      (Definitions.ofProperties q counted.settings.state.maxSeries).valid? "total" = none) ∧
    (counted.run [.reload readingProperties, .process .epoch "events" cpuRecord]).store[totalKey]? =
      counted.store[totalKey]?.filter fun stored =>
        !List.any [Request.process .epoch "events" cpuRecord]
          (·.timesOut counted.settings.timeout stored) := by
  have hgone : ∀ q, .reload q ∈ [Request.reload readingProperties,
      .process .epoch "events" cpuRecord] → (Definitions.ofProperties q
        counted.settings.state.maxSeries).valid? totalKey.definition = none := by
    intro q hq
    simp only [List.mem_cons, List.not_mem_nil, or_false] at hq
    rcases hq with h | h
    · cases h
      exact valid?_readingProperties _
    · cases h
  exact ⟨hgone, run_gone_keeps_state counted readingProperties _ totalKey hgone⟩

end Telemetry.Engine
