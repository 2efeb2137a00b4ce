import Mathlib.Data.List.Induction
import Telemetry.Proofs.Definition.Series

/-!
# The order of arrival

What is remembered of a series is the sample of the metric that arrived last, whatever its time
(`sample?_after`). So it is the latest one, and is never replaced by an older one, if and only if
the metrics of the series arrive in the order of time while the series is remembered
(`latest_iff_in_order`). A metric that arrives too late takes the place of a newer sample
(`older_replaces_newer`).
-/

namespace Telemetry.Variable

/-- A metric that reaches a variable, with the names of the attributes that group. -/
structure Arrival where
  taker : Variable
  metric : Metric
  groupBy : List String
  deriving DecidableEq

def after (arrivals : List Arrival) : Stores :=
  arrivals.foldl (fun stores a => a.taker.update stores a.metric a.groupBy) .empty

def Arrival.isOf (a : Arrival) (name key : String) : Bool :=
  name = a.taker.name ∧ key = seriesKey a.metric a.groupBy

def Arrival.sample (a : Arrival) : Sample := .ofMetric a.metric

/-- The stores after one more metric, and the samples of a series that were recorded since it was
last absent. -/
def observe (name key : String) (state : Stores × List Sample) (a : Arrival) :
    Stores × List Sample :=
  let stores := a.taker.update state.1 a.metric a.groupBy
  match stores.sample? name key with
  | none => (stores, [])
  | some _ => (stores, if a.isOf name key then state.2 ++ [a.sample] else state.2)

/-- The samples of a series that were recorded since it was last absent, in the order of arrival. -/
def recorded (name key : String) (arrivals : List Arrival) : List Sample :=
  (arrivals.foldl (observe name key) (.empty, [])).2

variable {arrivals before : List Arrival} {a : Arrival} {name key : String} {s : Sample}

/-! ## What is remembered of a series -/

theorem after_concat (arrivals : List Arrival) (a : Arrival) :
    after (arrivals ++ [a]) = a.taker.update (after arrivals) a.metric a.groupBy := by
  rw [after, List.foldl_append]
  rfl

theorem observe_fst (state : Stores × List Sample) (a : Arrival) :
    (observe name key state a).1 = a.taker.update state.1 a.metric a.groupBy := by
  unfold observe
  dsimp only
  split <;> rfl

theorem foldl_observe_fst (name key : String) (arrivals : List Arrival) :
    (arrivals.foldl (observe name key) (.empty, [])).1 = after arrivals := by
  induction arrivals using List.reverseRecOn with
  | nil => rfl
  | append_singleton arrivals a ih =>
      rw [after_concat, List.foldl_append, List.foldl_cons, List.foldl_nil, observe_fst, ih]

theorem recorded_concat (name key : String) (arrivals : List Arrival) (a : Arrival) :
    recorded name key (arrivals ++ [a]) =
      match (after (arrivals ++ [a])).sample? name key with
      | none => []
      | some _ =>
        if a.isOf name key then recorded name key arrivals ++ [a.sample]
        else recorded name key arrivals := by
  rw [recorded, List.foldl_append, List.foldl_cons, List.foldl_nil, observe, foldl_observe_fst,
    after_concat]
  split <;> rfl

/-- What is recorded is empty after a metric that the series does not outlast. -/
theorem recorded_concat_of_none (h : (after (arrivals ++ [a])).sample? name key = none) :
    recorded name key (arrivals ++ [a]) = [] := by
  rw [recorded_concat, h]

/-- A metric of another series does not change what is remembered and recorded. -/
theorem recorded_concat_of_other (h : (after (arrivals ++ [a])).sample? name key = some s)
    (hother : a.isOf name key = false) :
    (after arrivals).sample? name key = some s ∧
      recorded name key (arrivals ++ [a]) = recorded name key arrivals := by
  have hnot : ¬(name = a.taker.name ∧ key = seriesKey a.metric a.groupBy) := by
    simpa [Arrival.isOf] using hother
  have hupdate := sample?_of_update (after_concat arrivals a ▸ h)
  rw [if_neg hnot] at hupdate
  exact ⟨hupdate, by rw [recorded_concat, h]; simp [hother]⟩

/-- A metric of the series is remembered, and recorded as the last one. -/
theorem recorded_concat_of_isOf (h : (after (arrivals ++ [a])).sample? name key = some s)
    (hof : a.isOf name key = true) :
    s = a.sample ∧ recorded name key (arrivals ++ [a]) = recorded name key arrivals ++ [s] := by
  have hboth : name = a.taker.name ∧ key = seriesKey a.metric a.groupBy := by
    simpa [Arrival.isOf] using hof
  have hupdate := sample?_of_update (after_concat arrivals a ▸ h)
  rw [if_pos hboth] at hupdate
  obtain rfl : s = a.sample := hupdate
  exact ⟨rfl, by rw [recorded_concat, h]; simp [hof]⟩

/-- The sample that is remembered is the one that arrived last. -/
theorem sample?_after (name key : String) (arrivals : List Arrival) :
    (after arrivals).sample? name key = (recorded name key arrivals).getLast? := by
  induction arrivals using List.reverseRecOn with
  | nil => rfl
  | append_singleton arrivals a ih =>
      cases h : (after (arrivals ++ [a])).sample? name key with
      | none => rw [recorded_concat_of_none h, List.getLast?_nil]
      | some s =>
          cases hof : a.isOf name key with
          | true => rw [(recorded_concat_of_isOf h hof).2, List.getLast?_concat]
          | false =>
              obtain ⟨hold, hsame⟩ := recorded_concat_of_other h hof
              rw [hsame, ← ih, hold]

/-! ## The latest sample -/

/-- No metric makes an older sample take the place of a newer one. -/
def NeverOlder (name key : String) (arrivals : List Arrival) : Prop :=
  ∀ before a, before ++ [a] <+: arrivals → ∀ old new,
    (after before).sample? name key = some old →
    (after (before ++ [a])).sample? name key = some new →
    new.timestamp.before old.timestamp = false

/-- At all times, what is remembered of a series has the greatest timestamp of the samples that were
recorded since it was last absent. -/
def HoldsLatest (name key : String) (arrivals : List Arrival) : Prop :=
  ∀ before, before <+: arrivals → ∀ s, (after before).sample? name key = some s →
    ∀ s' ∈ recorded name key before, s.timestamp.before s'.timestamp = false

/-- At all times, the samples that were recorded of a series since it was last absent arrived in the
order of their timestamps. -/
def ArrivesInOrder (name key : String) (arrivals : List Arrival) : Prop :=
  ∀ before, before <+: arrivals → (recorded name key before).Pairwise
    fun s s' => s'.timestamp.before s.timestamp = false

theorem ArrivesInOrder.holdsLatest (h : ArrivesInOrder name key arrivals) :
    HoldsLatest name key arrivals := by
  intro before hbefore s hs s' hs'
  rw [sample?_after] at hs
  obtain ⟨first, hsplit⟩ := List.getLast?_eq_some_iff.mp hs
  have horder := h before hbefore
  rw [hsplit] at horder hs'
  rcases List.mem_append.mp hs' with hmem | hlast
  · exact (List.pairwise_append.mp horder).2.2 s' hmem s (List.mem_singleton_self s)
  · rw [List.mem_singleton.mp hlast]
    exact Instant.before_irrefl _

theorem HoldsLatest.neverOlder (h : HoldsLatest name key arrivals) :
    NeverOlder name key arrivals := by
  intro before a hbefore old new hold hnew
  cases hof : a.isOf name key with
  | true =>
      have hrecorded := (recorded_concat_of_isOf hnew hof).2
      refine h _ hbefore new hnew old ?_
      rw [sample?_after] at hold
      rw [hrecorded]
      exact List.mem_append_left _ (List.mem_of_getLast? hold)
  | false =>
      have hsame := (recorded_concat_of_other hnew hof).1
      rw [hold, Option.some.injEq] at hsame
      rw [hsame]
      exact Instant.before_irrefl _

theorem NeverOlder.arrivesInOrder (h : NeverOlder name key arrivals) :
    ArrivesInOrder name key arrivals := by
  intro before hbefore
  induction before using List.reverseRecOn with
  | nil => exact List.Pairwise.nil
  | append_singleton before a ih =>
      have horder := ih ((List.prefix_append before [a]).trans hbefore)
      cases hnew : (after (before ++ [a])).sample? name key with
      | none =>
          rw [recorded_concat_of_none hnew]
          exact List.Pairwise.nil
      | some new =>
          cases hof : a.isOf name key with
          | false => rwa [(recorded_concat_of_other hnew hof).2]
          | true =>
              rw [(recorded_concat_of_isOf hnew hof).2, List.pairwise_append]
              refine ⟨horder, List.pairwise_singleton _ _, fun s' hs' last hlast => ?_⟩
              rw [List.mem_singleton.mp hlast]
              -- the sample before it is not newer, and no other is newer than that one
              obtain ⟨old, hold⟩ : ∃ old, (recorded name key before).getLast? = some old :=
                ⟨_, List.getLast?_eq_some_getLast (List.ne_nil_of_mem hs')⟩
              have hnot := h before a hbefore old new ((sample?_after ..).trans hold) hnew
              obtain ⟨first, hsplit⟩ := List.getLast?_eq_some_iff.mp hold
              rw [hsplit] at horder hs'
              rcases List.mem_append.mp hs' with hmem | hlast
              · exact Instant.not_before_trans
                  ((List.pairwise_append.mp horder).2.2 s' hmem old (List.mem_singleton_self old))
                  hnot
              · rw [List.mem_singleton.mp hlast]
                exact hnot

/-- Metrics of a series that arrive in the order of time arrive so while it is remembered. -/
theorem arrivesInOrder_of_pairwise
    (h : ((arrivals.filter (·.isOf name key)).map Arrival.sample).Pairwise
      fun s s' => s'.timestamp.before s.timestamp = false) :
    ArrivesInOrder name key arrivals := by
  have hsublist : ∀ before : List Arrival, (recorded name key before).Sublist
      ((before.filter (·.isOf name key)).map Arrival.sample) := by
    intro before
    induction before using List.reverseRecOn with
    | nil => exact List.Sublist.slnil
    | append_singleton before a ih =>
        rw [List.filter_append, List.map_append]
        cases hs : (after (before ++ [a])).sample? name key with
        | none =>
            rw [recorded_concat_of_none hs]
            exact List.nil_sublist _
        | some s =>
            cases hof : a.isOf name key with
            | false =>
                rw [(recorded_concat_of_other hs hof).2]
                exact ih.trans (List.sublist_append_left _ _)
            | true =>
                obtain ⟨rfl, hrecorded⟩ := recorded_concat_of_isOf hs hof
                rw [hrecorded]
                exact ih.append (by simp [hof])
  intro before hbefore
  have hmore := (hbefore.sublist.filter (·.isOf name key)).map Arrival.sample
  exact h.sublist ((hsublist before).trans hmore)

/-- **What is remembered is the latest exactly if metrics arrive in order.** Take any metrics that
reach any variables one after the other, and a series of one of the variables. The following are the
same: no update makes an older sample take the place of a newer one; the sample that is remembered
always has the greatest timestamp of all that were recorded since the series was last absent; the
metrics of the series arrive in the order of time while the series is remembered. They do so if all
metrics of the series arrive in the order of time. -/
theorem latest_iff_in_order (arrivals : List Arrival) (name key : String) :
    (NeverOlder name key arrivals ↔ ArrivesInOrder name key arrivals) ∧
      (HoldsLatest name key arrivals ↔ ArrivesInOrder name key arrivals) ∧
      (((arrivals.filter (·.isOf name key)).map Arrival.sample).Pairwise
          (fun s s' => s'.timestamp.before s.timestamp = false) →
        ArrivesInOrder name key arrivals) :=
  ⟨⟨fun h => h.arrivesInOrder, fun h => h.holdsLatest.neverOlder⟩,
    ⟨fun h => h.neverOlder.arrivesInOrder, fun h => h.holdsLatest⟩, arrivesInOrder_of_pairwise⟩

/-- A metric of the hour before takes the place of the sample of its series. -/
theorem older_replaces_newer :
    let newer : Arrival := ⟨sumOfHosts, loadAt 7200 [("host", "h1")], ["cluster"]⟩
    let older : Arrival := ⟨sumOfHosts, loadAt 3600 [("host", "h1")], ["cluster"]⟩
    (after [newer]).sample? "load" "host=h1" = some newer.sample ∧
      (after [newer, older]).sample? "load" "host=h1" = some older.sample ∧
      recorded "load" "host=h1" [newer, older] = [newer.sample, older.sample] ∧
      ¬NeverOlder "load" "host=h1" [newer, older] ∧
      ¬HoldsLatest "load" "host=h1" [newer, older] := by
  intro newer older
  have hfirst : (after [newer]).sample? "load" "host=h1" = some newer.sample := by decide +kernel
  have hlast : (after [newer, older]).sample? "load" "host=h1" = some older.sample := by
    decide +kernel
  have hrecorded : recorded "load" "host=h1" [newer, older] = [newer.sample, older.sample] := by
    decide +kernel
  have hbefore : older.sample.timestamp.before newer.sample.timestamp = true := by decide
  refine ⟨hfirst, hlast, hrecorded, fun h => ?_, fun h => ?_⟩
  · have hnot := h [newer] older (List.prefix_refl _) _ _ hfirst hlast
    rw [hbefore] at hnot
    cases hnot
  · have hnot := h _ (List.prefix_refl _) _ hlast newer.sample (by rw [hrecorded]; simp)
    rw [hbefore] at hnot
    cases hnot

end Telemetry.Variable
