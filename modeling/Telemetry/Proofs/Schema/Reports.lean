import Telemetry.Proofs.Schema.Attributes
import Telemetry.Proofs.Schema.Independence
import Telemetry.Proofs.Schema.Messages

/-!
# Errors of configurations that are reported

A schema in error reports its error for every record of its sources. Its sources come from the
configuration that is in error: a schema that does not name any is never asked for a record, and its
error is told to nobody (`Schemas.reports_error_iff`).
-/

namespace Telemetry

/-! ## Failures that were not let through -/

namespace Exceptions

variable {e : Exceptions} {now : Instant}

theorem getElem?_tryAll {reports : List (Reporter × String)} {p : String × String}
    (h : e.raised[p]? = none) (hne : ∀ report ∈ reports, p ≠ (report.1.key, report.2)) :
    (e.tryAll now reports).raised[p]? = none := by
  induction reports generalizing e with
  | nil => exact h
  | cons report rest ih =>
      obtain ⟨hfirst, hrest⟩ := List.forall_mem_cons.mp hne
      exact ih (getElem?_tryRaise_of_ne h hfirst) hrest

end Exceptions

/-! ## Schemas in error -/

namespace Schema

variable {s : Schema} {now : Instant} {record : Json} {e : Exceptions} {m : Metric}
  {cause id source : String} {p : Properties}

theorem configure_of_error {error : ConfigurationError} (h : (build id p).error = some error) :
    ((unconfigured id).configure p).1 = .error error := by
  unfold build configure at *
  dsimp only at *
  cases hresult : ConfigurationError.collect (Sections.ofProperties p).errors with
  | ok _ =>
      rw [hresult] at h
      cases h
  | error error' =>
      rw [hresult] at h
      cases h
      rfl

/-- The sources are the words of a parameter, also if another one is in error. -/
theorem hasSource_build_iff (id : String) : (build id p).hasSource source = true ↔
    ∃ raw, p.get? "sources" = some raw ∧ source ∈ Text.words raw := by
  have hsources : (build id p).sources =
      ((p.takeRequired "sources").1.map Text.words).toOption.getD [] := rfl
  rw [hasSource, List.contains_iff_mem, hsources]
  unfold Properties.takeRequired
  cases p.get? "sources" with
  | none => simp [Except.map, Except.toOption]
  | some raw => simp [Except.map, Except.toOption]

/-- A schema with another id reports nothing under this owner, unless it is a failure of the
record. -/
theorem ne_of_mem_reported {report : Reporter × String} (h : report ∈ s.reported record)
    (hid : s.id ≠ id) (hcause : ∀ error : ExtractionError, cause ≠ error.message) :
    ((Reporter.schema id).key, cause) ≠ (report.1.key, report.2) := by
  intro heq
  obtain ⟨hkey, rfl⟩ := Prod.mk.inj heq
  unfold reported at h
  split at h
  · rw [List.mem_singleton.mp h] at hkey
    exact hid (Reporter.key_eq_iff.mp hkey).symm
  · split at h
    · split at h
      · split at h
        · cases h
        · rename_i error _
          exact hcause error (by rw [List.mem_singleton.mp h])
      · rename_i error _
        obtain ⟨v, -, rfl⟩ := List.mem_map.mp h
        exact hcause error rfl
    · cases h

theorem extract_of_error {error : ConfigurationError} (h : s.error = some error)
    (hfresh : e.raised[((Reporter.schema s.id).key, error.message)]? = none) :
    (s.extract now record e).1 = [⟨now, .exception error.message, s.fixed⟩] := by
  unfold extract
  rw [h]
  exact Exceptions.raise_of_not_wasRaised (Exceptions.wasRaised_of_getElem?_eq_none hfresh now) now
    s.fixed

/-- A failure that is none of the record is the error of the schema. -/
theorem error_of_mem_extract (hm : m ∈ (s.extract now record e).1)
    (hvalue : m.value = .exception cause) (hcause : ∀ x : ExtractionError, cause ≠ x.message) :
    s.error ≠ none ∧ m.attributes = s.fixed := by
  cases gives_of_mem_extract hm with
  | misconfigured herror => exact ⟨by simp [herror], rfl⟩
  | unreadable _ error =>
      cases hvalue
      exact absurd rfl (hcause error)
  | timeless _ source error =>
      cases hvalue
      exact absurd rfl (hcause error)
  | measured _ hmeasures =>
      have hno := hmeasures.isMeasured.isException
      rw [hvalue] at hno
      cases hno

theorem ownAttributes_injective {id' : String} (h : ownAttributes id = ownAttributes id') :
    id = id' := by
  have hschema := (ofSchema_ownAttributes id).schema
  rw [h, (ofSchema_ownAttributes id').schema] at hschema
  exact (Option.some.inj hschema).symm

end Schema

/-! ## Several schemas -/

namespace Schemas

variable {schemas : List Schema} {s : Schema} {now : Instant} {record : Json} {e : Exceptions}
  {m : Metric} {id source : String} {p : Properties} {error : ConfigurationError}

/-- Among schemas with different ids, one in error reports its error if it did not do so before. -/
theorem mem_extractAll_of_error (hids : schemas.Pairwise fun s s' => s.id ≠ s'.id)
    (hs : s ∈ schemas) (herror : s.error = some error)
    (hmessage : ∀ x : ExtractionError, error.message ≠ x.message)
    (hfresh : e.raised[((Reporter.schema s.id).key, error.message)]? = none) :
    ⟨now, .exception error.message, s.fixed⟩ ∈ (extractAll now record schemas e).1 := by
  induction schemas generalizing e with
  | nil => cases hs
  | cons first rest ih =>
      obtain ⟨hfirst, hrest⟩ := List.pairwise_cons.mp hids
      rcases List.mem_cons.mp hs with rfl | hs
      · refine mem_extractAll_cons ?_
        rw [Schema.extract_of_error herror hfresh]
        exact List.mem_singleton_self _
      · have hafter : (first.extract now record e).2.raised[
            ((Reporter.schema s.id).key, error.message)]? = none := by
          rw [Schema.extract_snd]
          exact Exceptions.getElem?_tryAll hfresh fun report hreport =>
            Schema.ne_of_mem_reported hreport (hfirst s hs) hmessage
        exact List.mem_append_right _ (ih hrest hs hafter)

theorem eq_build_of_get? (h : (ofProperties p).get? id = some s) :
    s = Schema.build id (block p id) := by
  rw [get?_ofProperties] at h
  split at h
  · exact (Option.some.inj h).symm
  · cases h

/-- The schemas of a configuration have different ids. -/
theorem pairwise_values (p : Properties) :
    (ofProperties p).values.Pairwise fun s s' => s.id ≠ s'.id := by
  refine NameMap.pairwise_values fun id s hs => ?_
  rw [eq_build_of_get? hs]
  rfl

/-- **A schema in error is heard of by its sources only.** Take a schema whose configuration is in
error, for whatever reason. Its error is among the metrics of a record, when nothing was reported
before, if and only if the source of the record is one of the words of its parameter `sources`. -/
theorem reports_error_iff (hs : (ofProperties p).get? id = some s) (herror : s.error = some error)
    (source : String) (now : Instant) (window : Duration) (record : Json) :
    ⟨now, .exception error.message, Schema.ownAttributes id⟩ ∈
        ((ofProperties p).extract now source record (.ofWindow window)).1 ↔
      ∃ raw, (block p id).get? "sources" = some raw ∧ source ∈ Text.words raw := by
  obtain rfl := eq_build_of_get? hs
  have hmessage := Schema.message_ne_of_configure (Schema.configure_of_error herror)
  have hfixed : (Schema.build id (block p id)).fixed = Schema.ownAttributes id :=
    Schema.fixed_build_of_error (by simp [herror])
  rw [← Schema.hasSource_build_iff id]
  constructor
  · intro hm
    obtain ⟨other, hother, e, hm⟩ := mem_extractAll hm
    obtain ⟨hvalues, hsource⟩ := List.mem_filter.mp hother
    obtain ⟨otherId, hget⟩ := NameMap.mem_values.mp hvalues
    obtain rfl := eq_build_of_get? hget
    obtain ⟨hinError, hattributes⟩ := Schema.error_of_mem_extract hm rfl hmessage
    rw [Schema.fixed_build_of_error hinError] at hattributes
    obtain rfl := Schema.ownAttributes_injective hattributes
    exact hsource
  · intro hsource
    rw [← hfixed]
    refine mem_extractAll_of_error ((pairwise_values p).filter _) ?_ herror hmessage ?_
    · exact List.mem_filter.mpr ⟨NameMap.mem_values.mpr ⟨id, hs⟩, hsource⟩
    · simp [Exceptions.ofWindow]

def valueless : Properties := .ofList [("metrics.schema.s.sources", "events")]

/-- The error of the schema is reported for its source. -/
theorem reports_valueless :
    ((ofProperties valueless).get? "s").isSome = true ∧
      ⟨.epoch, .exception "value must be specified", Schema.ownAttributes "s"⟩ ∈
        ((ofProperties valueless).extract .epoch "events" (.object [])
          (.ofWindow (.ofMilliseconds 600000))).1 := by
  have hids : (valueless.subset "metrics.schema").ids = ["s"] := by decide +kernel
  have hs : (ofProperties valueless).get? "s" = some (Schema.build "s" (block valueless "s")) := by
    rw [get?_ofProperties, hids]
    rfl
  have hmessage : (Schema.build "s" (block valueless "s")).error.map ConfigurationError.message =
      some "value must be specified" := by decide +kernel
  have hsources : (block valueless "s").get? "sources" = some "events" := by decide +kernel
  obtain ⟨error, herror, htext⟩ := Option.map_eq_some_iff.mp hmessage
  rw [hs, ← htext]
  refine ⟨rfl, ?_⟩
  exact (reports_error_iff hs herror "events" .epoch (.ofMilliseconds 600000) (.object [])).mpr
    ⟨"events", hsources, by decide +kernel⟩

/-- A schema whose sources are given under another name. -/
def sourceless : Properties :=
  .ofList [("metrics.schema.s.source", "events"), ("metrics.schema.s.value.cpu.key", "cpu")]

/-- The schema is in error, and whatever is extracted, nothing is reported. -/
theorem silent_sourceless :
    (((ofProperties sourceless).get? "s").any fun s => s.error.isSome) = true ∧
      ∀ (now : Instant) (source : String) (record : Json) (e : Exceptions),
        ((ofProperties sourceless).extract now source record e).1 = [] := by
  have hids : (sourceless.subset "metrics.schema").ids = ["s"] := by decide +kernel
  have hs : (ofProperties sourceless).get? "s" =
      some (Schema.build "s" (block sourceless "s")) := by
    rw [get?_ofProperties, hids]
    rfl
  have herror : (Schema.build "s" (block sourceless "s")).error.isSome = true := by decide +kernel
  have hsources : (Schema.build "s" (block sourceless "s")).sources = [] := by decide +kernel
  refine ⟨by rw [hs]; exact herror, ?_⟩
  intro now source record e
  have hnone : (ofProperties sourceless).values.filter (·.hasSource source) = [] := by
    rw [values_ofProperties_of_single hids]
    refine List.filter_cons_of_neg ?_
    simp [Schema.hasSource, hsources]
  rw [extract, hnone]
  rfl

end Schemas

end Telemetry
