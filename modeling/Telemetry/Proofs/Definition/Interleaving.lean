import Mathlib.Data.List.Induction
import Mathlib.Data.List.Count
import Telemetry.Proofs.Definition.Newest

/-!
# Aggregation does not depend on how series interleave

Metrics of many series reach an aggregating variable, those of each series in the order of time.
However the series interleave, the value of the variable is the same: that of the last samples of
the series which are among the newest and not too old (`valueAt_interleaved`).

Different orders pass through different states. The invariant of a run is that what is live of the
state, at any later time, is what is live of the newest of the last samples (`filter_recordAll`).
-/

namespace Telemetry

/-! ## Live samples -/

theorem Sample.isLive_of_not_before {s s' : Sample} {start : Option Instant}
    (h : s'.timestamp.before s.timestamp = false) (hs : s.isLive start = true) :
    s'.isLive start = true := by
  cases start with
  | none => rfl
  | some t =>
      rw [isLive, Bool.not_eq_true'] at *
      exact Instant.not_before_trans hs h

namespace Variable

variable {v : Variable} {groupBy : List String} {ms ms' : List Metric} {m : Metric} {time : Instant}

/-- What counts at a later time counted before. -/
theorem isLive_windowStart_mono {t : Instant} {s : Sample} (hexpire : 0 ≤ v.expire.nanos)
    (ht : t.IsPlain) (htime : time.IsPlain) (hle : time.before t = false)
    (hs : s.isLive (v.windowStart time) = true) : s.isLive (v.windowStart t) = true := by
  cases hstart : v.windowStart t with
  | none => rfl
  | some a =>
      obtain ⟨b, hb, hba⟩ := ht.exists_earlier? htime hexpire hle hstart
      have hlive : s.isLive (some b) = true := hb ▸ hs
      rw [Sample.isLive, Bool.not_eq_true'] at *
      exact Instant.not_before_trans hba hlive

theorem isLive_of_older {e f : String × Sample} {start : Option Instant} (h : older e f = true)
    (he : e.2.isLive start = true) : f.2.isLive start = true := by
  refine Sample.isLive_of_not_before ?_ he
  rcases older_iff.mp h with h | ⟨h, -⟩
  · exact Instant.before_asymm h
  · exact h

/-! ## Runs of metrics -/

def updateAll (v : Variable) (groupBy : List String) (ms : List Metric) : Stores :=
  ms.foldl (fun stores m => v.update stores m groupBy) .empty

def recordAll (v : Variable) (groupBy : List String) (ms : List Metric) : NameMap Sample :=
  ms.foldl (fun samples m => v.record samples m groupBy) .empty

def latest (groupBy : List String) (ms : List Metric) : NameMap Sample :=
  .ofList (ms.map fun m => (seriesKey m groupBy, .ofMetric m))

def ofSeries (groupBy : List String) (key : String) (ms : List Metric) : List Metric :=
  ms.filter fun m => seriesKey m groupBy = key

/-- Two orders of metrics in which those of each series stand in the same order. -/
def Interleaved (groupBy : List String) (ms ms' : List Metric) : Prop :=
  ∀ key, ofSeries groupBy key ms = ofSeries groupBy key ms'

def Orderly (groupBy : List String) (ms : List Metric) : Prop :=
  ∀ key, (ofSeries groupBy key ms).Pairwise fun m m' => m'.timestamp.before m.timestamp = false

theorem mem_ofSeries {key : String} :
    m ∈ ofSeries groupBy key ms ↔ m ∈ ms ∧ seriesKey m groupBy = key := by
  simp [ofSeries]

theorem ofSeries_concat (key : String) : ofSeries groupBy key (ms ++ [m]) =
    ofSeries groupBy key ms ++ if seriesKey m groupBy = key then [m] else [] := by
  by_cases h : seriesKey m groupBy = key <;> simp [ofSeries, h]

/-- Two such orders are orders of the same metrics. -/
theorem Interleaved.perm (h : Interleaved groupBy ms ms') : ms.Perm ms' := by
  rw [List.perm_iff_count]
  intro m
  have hcount : ∀ l : List Metric, (ofSeries groupBy (seriesKey m groupBy) l).count m = l.count m :=
    fun l => List.count_filter (by simp)
  rw [← hcount ms, ← hcount ms', h]

theorem Orderly.of_concat (h : Orderly groupBy (ms ++ [m])) : Orderly groupBy ms := by
  intro key
  have hkey := h key
  rw [ofSeries_concat] at hkey
  exact (List.pairwise_append.mp hkey).1

theorem Orderly.not_before {m' : Metric} (h : Orderly groupBy (ms ++ [m])) (hm' : m' ∈ ms)
    (hkey : seriesKey m' groupBy = seriesKey m groupBy) :
    m.timestamp.before m'.timestamp = false := by
  have hpair := h (seriesKey m groupBy)
  rw [ofSeries_concat, if_pos rfl] at hpair
  exact (List.pairwise_append.mp hpair).2.2 m' (mem_ofSeries.mpr ⟨hm', hkey⟩) m
    (List.mem_singleton.mpr rfl)

/-! ## Last samples -/

theorem latest_concat : latest groupBy (ms ++ [m]) =
    (latest groupBy ms).insert (seriesKey m groupBy) (.ofMetric m) := by
  rw [latest, List.map_append, List.map_singleton, NameMap.ofList_concat]
  rfl

theorem get?_latest (key : String) :
    (latest groupBy ms).get? key = ((ofSeries groupBy key ms).getLast?).map Sample.ofMetric := by
  induction ms using List.reverseRecOn with
  | nil => rfl
  | append_singleton ms m ih =>
      rw [latest_concat, NameMap.get?_insert, ih, ofSeries_concat]
      by_cases h : seriesKey m groupBy = key
      · simp [h]
      · simp [h, Ne.symm h]

/-- The last samples do not depend on how series interleave. -/
theorem Interleaved.latest_eq (h : Interleaved groupBy ms ms') :
    latest groupBy ms = latest groupBy ms' := by
  refine NameMap.ext_get? fun key => ?_
  rw [get?_latest, get?_latest, h key]

theorem Orderly.not_before_latest {old : Sample} (h : Orderly groupBy (ms ++ [m]))
    (hold : (latest groupBy ms).get? (seriesKey m groupBy) = some old) :
    m.timestamp.before old.timestamp = false := by
  rw [get?_latest] at hold
  obtain ⟨m', hlast, rfl⟩ := Option.map_eq_some_iff.mp hold
  obtain ⟨hm', hkey⟩ := mem_ofSeries.mp (List.mem_of_getLast? hlast)
  exact h.not_before hm' hkey

/-! ## The invariant of a run -/

theorem record_eq_newest (samples : NameMap Sample) (m : Metric) : v.record samples m groupBy =
    newest v.maxSeries ((samples.insert (seriesKey m groupBy) (.ofMetric m)).filter
      fun _ s => s.isLive (v.windowStart m.timestamp)) := by
  rw [record, evict_eq_newest]

/-- Of what counts at a later time, an update drops only what is not among the newest. -/
theorem filter_record (samples : NameMap Sample) (hexpire : 0 ≤ v.expire.nanos)
    (hm : m.timestamp.IsPlain) (htime : time.IsPlain) (hle : time.before m.timestamp = false) :
    (v.record samples m groupBy).filter (fun _ s => s.isLive (v.windowStart time)) =
      newest v.maxSeries ((samples.insert (seriesKey m groupBy) (.ofMetric m)).filter
        fun _ s => s.isLive (v.windowStart time)) := by
  rw [record_eq_newest, filter_newest fun e f h => isLive_of_older h, NameMap.filter_filter]
  congr 1
  refine NameMap.ext_mem fun e => ?_
  rw [NameMap.mem_filter, NameMap.mem_filter, Bool.and_eq_true]
  constructor
  · rintro ⟨he, -, hlive⟩
    exact ⟨he, hlive⟩
  · rintro ⟨he, hlive⟩
    exact ⟨he, isLive_windowStart_mono hexpire hm htime hle hlive, hlive⟩

/-- What counts of the state at a later time is what counts of the newest of the last samples. -/
theorem filter_recordAll (hexpire : 0 ≤ v.expire.nanos) (htime : time.IsPlain)
    (hms : ∀ m ∈ ms, m.timestamp.IsPlain ∧ time.before m.timestamp = false)
    (horder : Orderly groupBy ms) :
    (v.recordAll groupBy ms).filter (fun _ s => s.isLive (v.windowStart time)) =
      (newest v.maxSeries (latest groupBy ms)).filter
        fun _ s => s.isLive (v.windowStart time) := by
  induction ms using List.reverseRecOn with
  | nil => rfl
  | append_singleton ms m ih =>
      obtain ⟨hm, hle⟩ := hms m (List.mem_append_right _ List.mem_cons_self)
      have hprefix := ih (fun m' hm' => hms m' (List.mem_append_left _ hm')) horder.of_concat
      rw [filter_newest fun e f h => isLive_of_older h] at hprefix
      rw [recordAll, List.foldl_append]
      show (v.record (v.recordAll groupBy ms) m groupBy).filter _ = _
      rw [filter_record _ hexpire hm htime hle, latest_concat,
        filter_newest fun e f h => isLive_of_older h]
      cases hlive : (Sample.ofMetric m).isLive (v.windowStart time) with
      | true =>
          -- what the state had dropped would be dropped again after `m` is put in
          rw [NameMap.filter_insert_of_pos hlive, NameMap.filter_insert_of_pos hlive, hprefix]
          refine newest_insert_newest _ _ fun old hold => ?_
          rw [NameMap.get?_filter, Option.filter_eq_some_iff] at hold
          exact horder.not_before_latest hold.1
      | false =>
          -- the sample before it in its series does not count either
          have hgone : ((latest groupBy ms).filter
              fun _ s => s.isLive (v.windowStart time)).get? (seriesKey m groupBy) = none := by
            rw [NameMap.get?_filter, Option.filter_eq_none_iff]
            intro old hold hlive'
            have hnot := horder.not_before_latest hold
            have hstays : (Sample.ofMetric m).isLive (v.windowStart time) = true :=
              Sample.isLive_of_not_before hnot hlive'
            rw [hstays] at hlive
            cases hlive
          have hgone' : (newest v.maxSeries ((latest groupBy ms).filter
              fun _ s => s.isLive (v.windowStart time))).get? (seriesKey m groupBy) = none := by
            rw [newest, NameMap.get?_filter, hgone]
            rfl
          rw [NameMap.filter_insert_of_neg hlive, NameMap.filter_insert_of_neg hlive, hprefix,
            NameMap.erase_of_get?_eq_none hgone, NameMap.erase_of_get?_eq_none hgone',
            newest_newest]

/-! ## The value -/

theorem update_of_aggregation {a : Aggregation} (ha : v.aggregation = some a) (stores : Stores)
    (m : Metric) : v.update stores m groupBy = stores.insert v.name (.series (v.record
      (match stores.get? v.name with | some (.series samples) => samples | _ => .empty)
      m groupBy)) := by
  cases v
  cases ha
  rfl

theorem get?_updateAll {a : Aggregation} (ha : v.aggregation = some a) :
    (v.updateAll groupBy ms).get? v.name =
      if ms = [] then none else some (.series (v.recordAll groupBy ms)) := by
  induction ms using List.reverseRecOn with
  | nil => rfl
  | append_singleton ms m ih =>
      rw [updateAll, List.foldl_append, if_neg (by simp), recordAll, List.foldl_append]
      show (v.update (v.updateAll groupBy ms) m groupBy).get? v.name =
        some (.series (v.record (v.recordAll groupBy ms) m groupBy))
      rw [update_of_aggregation ha, NameMap.get?_insert_self, ih]
      by_cases hms : ms = []
      · subst hms
        rfl
      · rw [if_neg hms]

theorem valueAt_updateAll {a : Aggregation} (ha : v.aggregation = some a) :
    v.valueAt (v.updateAll groupBy ms) time = a.apply v.name
      ((v.recordAll groupBy ms).filter fun _ s => s.isLive (v.windowStart time)).values := by
  unfold valueAt
  rw [get?_updateAll ha, ha]
  by_cases hms : ms = []
  · subst hms
    cases a <;> rfl
  · rw [if_neg hms]
    show a.apply v.name (List.filter _ (List.map _ _)) =
      a.apply v.name (List.map _ (List.filter _ _))
    rw [List.filter_map]
    rfl

/-- **The value does not depend on how series interleave.** If the metrics of each series arrive in
the order of time, an aggregating variable has the same value at every later time, in whatever
order the series take turns. It is the aggregate, in the order of their keys, of those samples that
are among the newest of the last samples of all series and not older than the window. -/
theorem valueAt_interleaved (v : Variable) (a : Aggregation) (groupBy : List String)
    (ms ms' : List Metric) (time : Instant) (ha : v.aggregation = some a)
    (hexpire : 0 ≤ v.expire.nanos) (hsame : Interleaved groupBy ms ms')
    (horder : Orderly groupBy ms) (hplain : ∀ m ∈ ms, m.timestamp.IsPlain) (htime : time.IsPlain)
    (hlater : ∀ m ∈ ms, time.before m.timestamp = false) :
    v.valueAt (v.updateAll groupBy ms) time = v.valueAt (v.updateAll groupBy ms') time ∧
    v.valueAt (v.updateAll groupBy ms) time = a.apply v.name
      ((newest v.maxSeries (latest groupBy ms)).filter
        fun _ s => s.isLive (time.earlier? v.expire)).values := by
  have hms : ∀ m ∈ ms, m.timestamp.IsPlain ∧ time.before m.timestamp = false :=
    fun m hm => ⟨hplain m hm, hlater m hm⟩
  have hms' : ∀ m ∈ ms', m.timestamp.IsPlain ∧ time.before m.timestamp = false :=
    fun m hm => hms m (hsame.perm.mem_iff.mpr hm)
  have horder' : Orderly groupBy ms' := fun key => hsame key ▸ horder key
  rw [valueAt_updateAll ha, valueAt_updateAll ha, filter_recordAll hexpire htime hms horder,
    filter_recordAll hexpire htime hms' horder', hsame.latest_eq]
  exact ⟨rfl, rfl⟩

def sumOfOne : Variable := ((ofName "load").withAggregation .sum).withMaxSeries 1

def loadOf (host : String) (seconds : Int) : Metric :=
  ⟨⟨seconds, 0⟩, .numeric 1, .ofList [("cluster", "c"), ("host", host)]⟩

/-- The first host is dropped for the second, comes back too late, and is dropped again. -/
theorem valueAt_sumOfOne :
    Interleaved ["cluster"] [loadOf "a" 0, loadOf "b" 2, loadOf "a" 1]
      [loadOf "a" 0, loadOf "a" 1, loadOf "b" 2] ∧
    Orderly ["cluster"] [loadOf "a" 0, loadOf "b" 2, loadOf "a" 1] ∧
    sumOfOne.valueAt (sumOfOne.updateAll ["cluster"] [loadOf "a" 0, loadOf "b" 2, loadOf "a" 1])
        ⟨3, 0⟩ =
      sumOfOne.valueAt (sumOfOne.updateAll ["cluster"] [loadOf "a" 0, loadOf "a" 1, loadOf "b" 2])
        ⟨3, 0⟩ := by
  have ha₀ : seriesKey (loadOf "a" 0) ["cluster"] = "host=a" := by decide
  have ha₁ : seriesKey (loadOf "a" 1) ["cluster"] = "host=a" := by decide
  have hb₂ : seriesKey (loadOf "b" 2) ["cluster"] = "host=b" := by decide
  have hsame : Interleaved ["cluster"] [loadOf "a" 0, loadOf "b" 2, loadOf "a" 1]
      [loadOf "a" 0, loadOf "a" 1, loadOf "b" 2] := by
    intro key
    by_cases ha : "host=a" = key
    · subst ha
      simp [ofSeries, ha₀, ha₁, hb₂]
    · by_cases hb : "host=b" = key <;> simp [ofSeries, ha₀, ha₁, hb₂, ha, hb]
  have horder : Orderly ["cluster"] [loadOf "a" 0, loadOf "b" 2, loadOf "a" 1] := by
    intro key
    by_cases ha : "host=a" = key
    · subst ha
      simp [ofSeries, ha₀, ha₁, hb₂]
      decide
    · by_cases hb : "host=b" = key <;> simp [ofSeries, ha₀, ha₁, hb₂, ha, hb]
  have hplain : ∀ m ∈ [loadOf "a" 0, loadOf "b" 2, loadOf "a" 1], m.timestamp.IsPlain := by
    simp only [List.forall_mem_cons, List.not_mem_nil, false_implies, implies_true, and_true]
    refine ⟨⟨?_, ?_, ?_⟩, ⟨?_, ?_, ?_⟩, ⟨?_, ?_, ?_⟩⟩ <;> decide
  have hvalue := valueAt_interleaved sumOfOne .sum ["cluster"] _ _ ⟨3, 0⟩ rfl (by decide) hsame
    horder hplain ⟨by decide, by decide, by decide⟩ (by decide)
  exact ⟨hsame, horder, hvalue.1⟩

end Variable

end Telemetry
