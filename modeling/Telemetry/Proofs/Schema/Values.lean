import Mathlib.Data.List.Forall2
import Telemetry.Schema.Basic

/-!
# Values read off a record

What a value source reads off a record is a finite number or a truth value
(`ValueSource.isMeasured_of_extract`). If a schema can read all its values, it gives one metric for
each that the record holds, in their order (`Schema.measured_of_readValues`); every other metric of
a schema carries a failure (`Schema.gives_of_mem_extract`).
-/

namespace Telemetry

variable {record : Json} {v : Value} {m : Metric}

inductive Value.IsMeasured : Value → Prop
  | numeric {x : Float} (h : x.isFinite = true) : IsMeasured (.numeric x)
  | boolean (b : Bool) : IsMeasured (.boolean b)

theorem Value.IsMeasured.isException (h : v.IsMeasured) : v.isException = false := by
  cases h <;> rfl

theorem ValueKind.isMeasured_of_convert {kind : ValueKind} {key raw : String} {element : Json}
    (h : kind.convert key element raw = .ok v) : v.IsMeasured := by
  unfold convert at h
  cases hnumber : number? raw with
  | none =>
      simp only [hnumber] at h
      repeat' split at h
      all_goals cases h <;> exact .boolean _
  | some x =>
      have hx : x.isFinite = true := (Option.filter_eq_some_iff.mp hnumber).2
      simp only [hnumber] at h
      repeat' split at h
      all_goals cases h <;> first | exact .numeric hx | exact .boolean _

theorem ValueSource.isMeasured_of_extract {source : ValueSource}
    (h : source.extract record = .ok (some v)) : v.IsMeasured := by
  have hconvert : ∀ {element : Json} {raw : String},
      (source.kind.convert source.key element raw).map some = .ok (some v) → v.IsMeasured := by
    intro element raw h
    cases hv : source.kind.convert source.key element raw with
    | error e => simp [hv, Except.map] at h
    | ok v' =>
        rw [hv] at h
        cases h
        exact ValueKind.isMeasured_of_convert hv
  unfold extract at h
  split at h
  · cases h
  split at h
  · cases h
  split at h
  · exact hconvert h
  split at h
  · cases h
  · exact hconvert h

def ValueSource.isIn (source : ValueSource) (record : Json) : Bool :=
  match source.extract record with
  | .ok (some _) => true
  | .ok none | .error _ => false

namespace Schema

variable {s : Schema} {now : Instant} {e : Exceptions} {attributes : Attributes}
  {values : List ValueSource} {metrics : List Metric}

structure Measures (s : Schema) (record : Json) (source : ValueSource) (m : Metric) : Prop where
  value : source.extract record = .ok (some m.value)
  timestamp : s.timestamp.extract record = .ok m.timestamp
  attributes : m.attributes = withValue (s.attributes record) source

theorem measured_of_readValues {timestamp : Instant}
    (htime : s.timestamp.extract record = .ok timestamp)
    (h : readValues record timestamp (s.attributes record) values = .ok metrics) :
    List.Forall₂ (s.Measures record) (values.filter (·.isIn record)) metrics := by
  induction values generalizing metrics with
  | nil =>
      cases h
      exact .nil
  | cons source rest ih =>
      rw [readValues] at h
      cases hvalue : source.extract record with
      | error error =>
          rw [hvalue] at h
          cases h
      | ok value =>
          cases hmore : readValues record timestamp (s.attributes record) rest with
          | error error =>
              rw [hvalue, hmore] at h
              cases h
          | ok more =>
              rw [hvalue, hmore] at h
              cases h
              cases value with
              | none =>
                  rw [List.filter_cons_of_neg (by simp [ValueSource.isIn, hvalue])]
                  exact ih hmore
              | some x =>
                  rw [List.filter_cons_of_pos (by simp [ValueSource.isIn, hvalue])]
                  exact .cons ⟨hvalue, htime, rfl⟩ (ih hmore)

theorem exists_measures {R : ValueSource → Metric → Prop} (h : List.Forall₂ R values metrics)
    (hm : m ∈ metrics) : ∃ source, R source m := by
  induction h with
  | nil => cases hm
  | cons hfirst _ ih =>
      rcases List.mem_cons.mp hm with rfl | hm
      · exact ⟨_, hfirst⟩
      · exact ih hm

/-- Every metric that is read is one of a value. -/
theorem measures_of_mem_readValues {timestamp : Instant}
    (htime : s.timestamp.extract record = .ok timestamp)
    (h : readValues record timestamp (s.attributes record) values = .ok metrics)
    (hm : m ∈ metrics) : ∃ source, s.Measures record source m :=
  exists_measures (measured_of_readValues htime h) hm

theorem Measures.isMeasured {source : ValueSource} (h : s.Measures record source m) :
    m.value.IsMeasured :=
  ValueSource.isMeasured_of_extract h.value

/-! ## Where metrics come from -/

theorem mem_raise {owner cause : String} {timestamp : Instant}
    (h : m ∈ (e.raise now owner cause timestamp attributes).1) :
    m = ⟨timestamp, .exception cause, attributes⟩ := by
  unfold Exceptions.raise at h
  dsimp only at h
  split at h
  · exact List.mem_singleton.mp h
  · cases h

theorem mem_raiseForValues {cause : String}
    (h : m ∈ (s.raiseForValues now cause attributes values e).1) :
    ∃ source, m = ⟨now, .exception cause, withValue attributes source⟩ := by
  induction values generalizing e with
  | nil => cases h
  | cons source rest ih =>
      rcases List.mem_append.mp h with hfirst | hmore
      · exact ⟨source, mem_raise hfirst⟩
      · exact ih hmore

/-- What a metric of a record can be: the error of the configuration, a failure of the whole record,
a failure of one of its values for want of a time, or a value that was read. -/
inductive Gives (s : Schema) (now : Instant) (record : Json) : Metric → Prop
  | misconfigured {error : ConfigurationError} (h : s.error = some error) :
    Gives s now record ⟨now, .exception error.message, s.fixed⟩
  | unreadable (h : s.error = none) (error : ExtractionError) :
    Gives s now record ⟨now, .exception error.message, s.fixed⟩
  | timeless (h : s.error = none) (source : ValueSource) (error : ExtractionError) :
    Gives s now record ⟨now, .exception error.message, withValue (s.attributes record) source⟩
  | measured (h : s.error = none) {source : ValueSource} {m : Metric}
    (hm : s.Measures record source m) : Gives s now record m

theorem gives_of_mem_extract (h : m ∈ (s.extract now record e).1) : s.Gives now record m := by
  unfold extract at h
  cases herror : s.error with
  | some error =>
      rw [herror] at h
      rw [mem_raise h]
      exact .misconfigured herror
  | none =>
      rw [herror] at h
      dsimp only at h
      split at h
      · split at h
        · rename_i htime
          split at h
          · rename_i hvalues
            obtain ⟨source, hmeasures⟩ :=
              measures_of_mem_readValues htime hvalues (List.mem_filter.mp h).1
            exact .measured herror hmeasures
          · rename_i error _
            rw [mem_raise h]
            exact .unreadable herror error
        · rename_i error _
          obtain ⟨source, rfl⟩ := mem_raiseForValues (List.mem_filter.mp h).1
          exact .timeless herror source error
      · cases h

end Schema

end Telemetry
