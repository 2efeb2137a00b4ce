import Telemetry.Proofs.Definition.Storable
import Telemetry.Proofs.Schema.Set
import Telemetry.Proofs.Schema.Values
import Telemetry.Proofs.Time.Pattern

/-!
# What schemas extract can be stored

Whatever a record holds, the metrics that schemas extract from it are storable
(`Schemas.isStorable_of_mem_extract`): a number that is not finite is a failure, and a time that is
read is within the calendar. The metrics that carry failures have the time of the clock.
-/

namespace Telemetry

/-! ## Times -/

namespace TimestampFormat

theorem inCalendar_of_ofMillis? {raw : String} {i : Instant} (h : ofMillis? raw = some i) :
    i.InCalendar := by
  unfold ofMillis? at h
  split at h
  · exact Instant.inCalendar_of_ofParts? h
  · obtain ⟨_, -, h⟩ := Option.bind_eq_some_iff.mp h
    exact Instant.inCalendar_of_ofParts? h

theorem inCalendar_of_read? {format : TimestampFormat} {element : Json} {raw : String} {i : Instant}
    (h : format.read? element raw = some i) : i.InCalendar := by
  unfold read? at h
  split at h
  · split at h
    · exact inCalendar_of_ofMillis? h
    · rcases Option.or_eq_some_iff.mp h with h | ⟨-, h⟩
      · exact Instant.inCalendar_of_ofStamp? h
      · exact inCalendar_of_ofMillis? h
  · exact inCalendar_of_ofMillis? h
  · obtain ⟨_, -, h⟩ := Option.bind_eq_some_iff.mp h
    exact Instant.inCalendar_of_ofParts? h
  · exact Instant.inCalendar_of_ofStamp? h
  · obtain ⟨items, hitems, h⟩ := Option.bind_eq_some_iff.mp h
    exact TimePattern.inCalendar_of_read? hitems h

end TimestampFormat

theorem TimestampSource.inCalendar_of_extract {source : TimestampSource} {record : Json}
    {i : Instant} (h : source.extract record = .ok i) : i.InCalendar := by
  unfold extract at h
  split at h
  · cases h
  split at h
  · cases h
  split at h
  · cases h
  · rename_i hread
    cases h
    exact TimestampFormat.inCalendar_of_read? hread

theorem Value.IsMeasured.isFinite {v : Value} (h : v.IsMeasured) : v.isFinite = true := by
  cases h with
  | numeric hx => exact hx
  | boolean b => rfl

/-! ## Metrics -/

variable {now : Instant} {record : Json} {m : Metric} {e : Exceptions}

namespace Schema

theorem isStorable_of_mem_extract {s : Schema} (h : now.InCalendar)
    (hm : m ∈ (s.extract now record e).1) : m.IsStorable := by
  cases gives_of_mem_extract hm with
  | misconfigured _ => exact ⟨rfl, h⟩
  | unreadable _ error => exact ⟨rfl, h⟩
  | timeless _ source error => exact ⟨rfl, h⟩
  | measured _ hmeasures =>
      exact ⟨hmeasures.isMeasured.isFinite,
        TimestampSource.inCalendar_of_extract hmeasures.timestamp⟩

end Schema

namespace Schemas

theorem isStorable_of_mem_extract {s : Schemas} {source : String} (h : now.InCalendar)
    (hm : m ∈ (s.extract now source record e).1) : m.IsStorable := by
  obtain ⟨schema, -, e', hm⟩ := mem_extractAll hm
  exact Schema.isStorable_of_mem_extract h hm

end Schemas

end Telemetry
