import Telemetry.Proofs.Configuration.Faults
import Telemetry.Proofs.Schema.Independence
import Telemetry.Proofs.Schema.Values

/-!
# All values of a record, or none

A record that fails gives metrics that carry failures and nothing else; which of them, the failures
let through a moment ago decide. A record that does not fail gives one metric for each value that it
holds and that passes the filter, in the order of the values, and neither the clock nor earlier
failures have a say in it (`Schema.extract_whole_or_failed`).
-/

namespace Telemetry

/-! ## The order of values -/

theorem ValueSource.id_of_ofProperties {id : String} {p : Properties} {v : ValueSource}
    (h : ofProperties id p = .ok v) : v.id = id := by
  unfold ofProperties at h
  obtain ⟨-, -, h⟩ := bind_eq_ok_iff.mp h
  obtain ⟨key, -, h⟩ := bind_eq_ok_iff.mp h
  obtain ⟨kind, -, h⟩ := bind_eq_ok_iff.mp h
  obtain ⟨pattern, -, h⟩ := bind_eq_ok_iff.mp h
  cases h
  rfl

namespace Schema

/-- The schema after configurations, one after the other. Any of them may be in error. -/
def configured (id : String) (history : List Properties) : Schema :=
  history.foldl (fun s p => (s.configure p).2) (unconfigured id)

theorem configured_concat (id : String) (history : List Properties) (p : Properties) :
    configured id (history ++ [p]) = ((configured id history).configure p).2 := by
  rw [configured, List.foldl_append]
  rfl

/-- Values are read in the order of their ids, and those in error are left out. -/
theorem values_pairwise_configure (s : Schema) (p : Properties) :
    (s.configure p).2.values.Pairwise fun v w => v.id < w.id := by
  have hread {block id : String} {q : Properties} {v : ValueSource}
      (h : (inBlock block (ValueSource.ofProperties id q)).toOption = some v) : v.id = id := by
    rw [toOption_inBlock] at h
    cases hv : ValueSource.ofProperties id q with
    | error e => simp [hv, Except.toOption] at h
    | ok w =>
        rw [hv] at h
        cases h
        exact ValueSource.id_of_ofProperties hv
  have hids := NameMap.sortedNames_pairwise
  refine ((hids _).map (S := fun r r' : Except ConfigurationError ValueSource =>
    ∀ v, r.toOption = some v → ∀ w, r'.toOption = some w → v.id < w.id) _ ?_).filterMap _
    fun _ _ h => h
  intro id id' hlt v hv w hw
  rw [hread hv, hread hw]
  exact hlt

theorem values_pairwise_configured (id : String) (history : List Properties) :
    (configured id history).values.Pairwise fun v w => v.id < w.id := by
  cases history using List.reverseRecOn with
  | nil => exact .nil
  | append_singleton before p =>
      rw [configured_concat]
      exact values_pairwise_configure _ p

/-! ## Records that fail -/

variable {s : Schema} {record : Json} {now : Instant} {e : Exceptions} {m : Metric}

def shows (s : Schema) (record : Json) (source : ValueSource) : Bool :=
  source.isIn record && s.filter.test (withValue (s.attributes record) source)

/-- One metric for each value that a record shows, if the record passes the filter. -/
def IsOutput (s : Schema) (record : Json) (metrics : List Metric) : Prop :=
  if s.filter.test (s.attributes record) then
    List.Forall₂ (s.Measures record) (s.values.filter (s.shows record)) metrics
  else metrics = []

theorem forall₂_shows {timestamp : Instant} {metrics : List Metric}
    (htime : s.timestamp.extract record = .ok timestamp)
    (h : readValues record timestamp (s.attributes record) s.values = .ok metrics) :
    List.Forall₂ (s.Measures record) (s.values.filter (s.shows record))
      (metrics.filter fun m => s.filter.test m.attributes) := by
  have hpasses : ∀ ⦃source m⦄, s.Measures record source m →
      (s.filter.test (withValue (s.attributes record) source) = true ↔
        s.filter.test m.attributes = true) := by
    intro source m hmeasures
    rw [hmeasures.attributes]
  have hboth := List.rel_filter hpasses (measured_of_readValues htime h)
  rw [List.filter_filter] at hboth
  have hshows : s.shows record = fun source =>
      s.filter.test (withValue (s.attributes record) source) && source.isIn record :=
    funext fun source => Bool.and_comm _ _
  rw [hshows]
  exact hboth

theorem isException_of_reported (h : s.reported record ≠ [])
    (hm : m ∈ (s.extract now record e).1) : m.value.isException = true := by
  have hown {cause : String} (hm : m ∈ (s.raiseOwn now cause e).1) :
      m.value.isException = true := by
    rw [mem_raise hm]
    rfl
  unfold reported at h
  unfold extract at hm
  cases herror : s.error with
  | some error =>
      rw [herror] at hm
      exact hown hm
  | none =>
      rw [herror] at h hm
      dsimp only at h hm
      split at hm
      · rename_i htest
        rw [if_pos htest] at h
        cases htime : s.timestamp.extract record with
        | ok timestamp =>
            rw [htime] at h hm
            dsimp only at h hm
            cases hvalues : readValues record timestamp (s.attributes record) s.values with
            | ok metrics =>
                rw [hvalues] at h
                exact absurd rfl h
            | error error =>
                rw [hvalues] at hm
                exact hown hm
        | error error =>
            rw [htime] at hm
            obtain ⟨source, rfl⟩ := mem_raiseForValues (List.mem_filter.mp hm).1
            rfl
      · cases hm

/-- A record without failures has one output, at all times. -/
theorem exists_isOutput (h : s.reported record = []) :
    ∃ metrics, s.IsOutput record metrics ∧ ∀ now e, (s.extract now record e).1 = metrics := by
  unfold reported at h
  cases herror : s.error with
  | some error =>
      rw [herror] at h
      cases h
  | none =>
      rw [herror] at h
      dsimp only at h
      by_cases htest : s.filter.test (s.attributes record) = true
      · rw [if_pos htest] at h
        simp only [IsOutput, if_pos htest]
        cases htime : s.timestamp.extract record with
        | ok timestamp =>
            rw [htime] at h
            dsimp only at h
            cases hvalues : readValues record timestamp (s.attributes record) s.values with
            | error error =>
                rw [hvalues] at h
                cases h
            | ok metrics =>
                refine ⟨metrics.filter fun m => s.filter.test m.attributes, ?_, ?_⟩
                · exact forall₂_shows htime hvalues
                · intro now e
                  simp only [extract, herror, htest, htime, hvalues, if_true]
        | error error =>
            rw [htime] at h
            have hnone : s.values = [] := List.map_eq_nil_iff.mp h
            refine ⟨[], ?_, ?_⟩
            · rw [hnone]
              exact .nil
            · intro now e
              simp only [extract, herror, htest, htime, hnone, if_true]
              rfl
      · refine ⟨[], ?_, ?_⟩
        · unfold IsOutput
          rw [if_neg htest]
        · intro now e
          simp only [extract, herror, htest, Bool.false_eq_true, if_false]

theorem IsOutput.isException {metrics : List Metric} (h : s.IsOutput record metrics)
    (hm : m ∈ metrics) : m.value.isException = false := by
  unfold IsOutput at h
  split at h
  · obtain ⟨source, hmeasures⟩ := exists_measures h hm
    exact hmeasures.isMeasured.isException
  · rw [h] at hm
    cases hm

/-- **A record gives all of its values or only failures.** Take a schema, configured any number of
times and with or without error, and a record. At any two times, and whatever failures were let
through before: if the record fails, both extractions give nothing but failures. If it does not,
both give the same metrics: none if the attributes of the record do not pass the filter, and else
one, in the order of the values' ids, for each value that is there and passes the filter. -/
theorem extract_whole_or_failed (id : String) (history : List Properties) (record : Json)
    (now now' : Instant) (e e' : Exceptions) :
    let s := configured id history
    let metrics := (s.extract now record e).1
    let metrics' := (s.extract now' record e').1
    s.values.Pairwise (fun v w => v.id < w.id) ∧
      (s.reported record ≠ [] ∧ (∀ m ∈ metrics ++ metrics', m.value.isException = true) ∨
        s.reported record = [] ∧ metrics = metrics' ∧
          (∀ m ∈ metrics, m.value.isException = false) ∧ s.IsOutput record metrics) := by
  intro s metrics metrics'
  refine ⟨values_pairwise_configured id history, ?_⟩
  by_cases hreported : s.reported record = []
  · right
    obtain ⟨output, houtput, hextract⟩ := exists_isOutput hreported
    have hfirst : metrics = output := hextract now e
    have hsecond : metrics' = output := hextract now' e'
    rw [hfirst, hsecond]
    exact ⟨hreported, rfl, fun m hm => houtput.isException hm, houtput⟩
  · left
    refine ⟨hreported, ?_⟩
    intro m hm
    rcases List.mem_append.mp hm with hm | hm
    · exact isException_of_reported hreported hm
    · exact isException_of_reported hreported hm

end Schema

end Telemetry
