import Telemetry.Proofs.Definition.Arrivals
import Telemetry.Proofs.Definition.Interleaving
import Telemetry.Proofs.Definition.Storable
import Telemetry.Proofs.Definition.Updates

/-!
# Values of aggregating variables

An aggregating variable makes its value of the samples that count, and that is never a truth value
(`Aggregation.apply_ne_boolean`). But a variable of the same name that did not aggregate, in an
earlier configuration, may have left a single sample behind. Until a metric of its own arrives, the
aggregating variable gives this sample as its value, whatever it is
(`aggregate_unless_left_behind`).
-/

namespace Telemetry

/-- An aggregate is no truth value, unless it is one of the samples. -/
theorem Aggregation.apply_ne_boolean {a : Aggregation} (ha : a ≠ .last) (owner : String)
    (samples : List Sample) (b : Bool) : a.apply owner samples ≠ .boolean b := by
  unfold apply
  split
  · exact nofun
  · exact absurd rfl ha
  · split
    · exact nofun
    · split
      · dsimp only
        split <;> exact nofun
      · split
        · rename_i v _ hcontagious
          rintro rfl
          cases hcontagious
        · exact nofun

namespace Variable

variable {v : Variable} {a : Aggregation} {stores : Stores} {time : Instant} {s : Sample}
  {arrivals : List Arrival} {name : String}

def liveSamples (v : Variable) (stores : Stores) (time : Instant) : List Sample :=
  ((stores.get? v.name).elim [] VariableState.samples).filter (·.isLive (v.windowStart time))

/-! ## Values -/

theorem valueAt_of_last (h : stores.get? v.name = some (.last s)) (time : Instant) :
    v.valueAt stores time = if s.isLive (v.windowStart time) then s.value else .absent := by
  rw [valueAt, h]

/-- Without a single sample the value is the aggregate of those that count. -/
theorem valueAt_of_not_last (ha : v.aggregation = some a)
    (h : ∀ s, stores.get? v.name ≠ some (.last s)) (time : Instant) :
    v.valueAt stores time = a.apply v.name (v.liveSamples stores time) := by
  rw [valueAt, liveSamples, ha]
  cases hstate : stores.get? v.name with
  | none => cases a <;> rfl
  | some state =>
      cases state with
      | last s => exact absurd hstate (h s)
      | series samples => rfl

/-- The value is a truth value exactly if it is a single sample that is one. -/
theorem valueAt_boolean_iff (ha : v.aggregation = some a) (hne : a ≠ .last) (stores : Stores)
    (time : Instant) (b : Bool) :
    v.valueAt stores time = .boolean b ↔
      ∃ s, stores.get? v.name = some (.last s) ∧ s.isLive (v.windowStart time) = true ∧
        s.value = .boolean b := by
  constructor
  · intro h
    by_cases hlast : ∃ s, stores.get? v.name = some (.last s)
    · obtain ⟨s, hs⟩ := hlast
      rw [valueAt_of_last hs] at h
      split at h
      · exact ⟨s, hs, ‹_›, h⟩
      · cases h
    · rw [valueAt_of_not_last ha (not_exists.mp hlast)] at h
      exact absurd h (Aggregation.apply_ne_boolean hne _ _ b)
  · rintro ⟨s, hs, hlive, hvalue⟩
    rw [valueAt_of_last hs, if_pos hlive, hvalue]

/-- The value is the number of samples that count, unless a single sample is there that does not
count or is another value. -/
theorem valueAt_count_iff (ha : v.aggregation = some .count) (stores : Stores) (time : Instant) :
    v.valueAt stores time = .numeric (Float.ofNat (v.liveSamples stores time).length) ↔
      ∀ s, stores.get? v.name = some (.last s) →
        s.isLive (v.windowStart time) = true ∧ s.value = .numeric (Float.ofNat 1) := by
  by_cases hlast : ∃ s, stores.get? v.name = some (.last s)
  · obtain ⟨s, hs⟩ := hlast
    have hsamples : v.liveSamples stores time =
        if s.isLive (v.windowStart time) then [s] else [] := by
      rw [liveSamples, hs]
      exact List.filter_cons
    rw [valueAt_of_last hs, hsamples, hs]
    cases hlive : s.isLive (v.windowStart time) with
    | true => simp [hlive]
    | false => simp [hlive]
  · have hnone := not_exists.mp hlast
    rw [valueAt_of_not_last ha hnone]
    exact ⟨fun _ s hs => absurd hs (hnone s), fun _ => rfl⟩

/-! ## Samples that are left behind -/

def latestAt (name : String) (arrivals : List Arrival) : Option Arrival :=
  (arrivals.filter (·.taker.name = name)).getLast?

/-- The last metric reached a variable of the name that does not aggregate, with this sample. -/
def LeftBehind (name : String) (arrivals : List Arrival) (s : Sample) : Prop :=
  ∃ x, latestAt name arrivals = some x ∧ x.taker.aggregation = none ∧ x.sample = s

/-- A single sample is remembered exactly if it is left behind. -/
theorem get?_after_eq_last_iff (arrivals : List Arrival) (name : String) (s : Sample) :
    (after arrivals).get? name = some (.last s) ↔ LeftBehind name arrivals s := by
  unfold LeftBehind
  induction arrivals using List.reverseRecOn with
  | nil => simp [after, latestAt]
  | append_singleton arrivals x ih =>
      rw [after_concat]
      by_cases hname : x.taker.name = name
      · have hlatest : latestAt name (arrivals ++ [x]) = some x := by simp [latestAt, hname]
        subst hname
        rw [hlatest]
        cases haggregation : x.taker.aggregation with
        | none =>
            rw [update, haggregation, NameMap.get?_insert_self]
            simp [haggregation, Arrival.sample]
        | some a =>
            rw [update_of_aggregation haggregation, NameMap.get?_insert_self]
            simp [haggregation]
      · have hlatest : latestAt name (arrivals ++ [x]) = latestAt name arrivals := by
          simp [latestAt, hname]
        rw [hlatest, get?_update_of_ne (Ne.symm hname), ih]

/-- **A variable aggregates unless a sample was left behind.** Take a variable with an aggregation
other than the last sample, and any metrics that reached variables of any configurations before. If
the last one for its name reached a variable that aggregates, or there is none, the value is the
aggregate of the samples that count. It is a truth value exactly if a sample was left behind that
counts and is one; and a count is the number of samples that count exactly if no sample was left
behind, or one that counts and happens to be the number one. -/
theorem aggregate_unless_left_behind (v : Variable) (a : Aggregation)
    (ha : v.aggregation = some a) (hne : a ≠ .last) (arrivals : List Arrival) (time : Instant) :
    let stores := after arrivals
    ((∀ s, ¬LeftBehind v.name arrivals s) →
      v.valueAt stores time = a.apply v.name (v.liveSamples stores time)) ∧
    (∀ b, v.valueAt stores time = .boolean b ↔
      ∃ s, LeftBehind v.name arrivals s ∧ s.isLive (v.windowStart time) = true ∧
        s.value = .boolean b) ∧
    (a = .count →
      (v.valueAt stores time = .numeric (Float.ofNat (v.liveSamples stores time).length) ↔
        ∀ s, LeftBehind v.name arrivals s →
          s.isLive (v.windowStart time) = true ∧ s.value = .numeric (Float.ofNat 1))) := by
  simp only [← get?_after_eq_last_iff]
  refine ⟨fun hnone => valueAt_of_not_last ha hnone time, valueAt_boolean_iff ha hne _ time, ?_⟩
  rintro rfl
  exact valueAt_count_iff ha _ time

def countOfHosts : Variable := (ofName "load").withAggregation .count

/-- What an earlier variable left behind is gone with the first metric of the count. -/
theorem countOfHosts_after :
    let earlier : Arrival := ⟨ofName "load", loadAt 0 [("host", "h1")], ["cluster"]⟩
    let first : Arrival := ⟨countOfHosts, loadAt 1 [("host", "h2")], ["cluster"]⟩
    (countOfHosts.liveSamples (after [earlier, first]) ⟨1, 0⟩).length = 1 ∧
      countOfHosts.valueAt (after [earlier, first]) ⟨1, 0⟩ = .numeric (Float.ofNat 1) := by
  intro earlier first
  have hlive : (countOfHosts.liveSamples (after [earlier, first]) ⟨1, 0⟩).length = 1 := by
    decide +kernel
  have hnone : ∀ s, ¬LeftBehind countOfHosts.name [earlier, first] s := by
    rintro s ⟨x, hx, haggregation, -⟩
    obtain rfl : first = x := Option.some.inj hx
    cases haggregation
  obtain ⟨-, -, hcount⟩ := aggregate_unless_left_behind countOfHosts .count rfl (by decide)
    [earlier, first] ⟨1, 0⟩
  refine ⟨hlive, ?_⟩
  rw [(hcount rfl).mpr fun s hs => absurd hs (hnone s), hlive]

/-- A definition whose variable holds the last value, and then counts. -/
def holding : Definition := .build "d" (.ofList [("variables.v.type", "any")]) 10

def counting : Definition := .build "d" (.ofList [("variables.v.aggregate", "count")]) 10

/-- A variable that counts gives the value that it held before, and this does not suit its type. -/
theorem count_gives_value_held_before :
    let stores := (holding.update .empty ⟨.epoch, .boolean true, .empty⟩ []).2
    (counting.vars.get? "v").map (fun v => (v.aggregation, v.type)) =
        some (some .count, .numeric) ∧
      (counting.vars.get? "v").map (fun v => (v.liveSamples stores .epoch).length) = some 1 ∧
      (counting.vars.get? "v").map (fun v => v.valueAt stores .epoch) = some (.boolean true) := by
  decide +kernel

end Variable

end Telemetry
