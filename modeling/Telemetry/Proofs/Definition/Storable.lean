import Telemetry.Definition.Basic
import Telemetry.Proofs.Definition.Newest
import Telemetry.Proofs.Time.Fields

/-!
# Samples that can be stored

A sample can be stored if its number is finite and its instant is of the calendar. Variables
remember no other samples than those of the metrics that they take, so stores stay storable when a
metric that is storable updates them (`Definition.update_isStorable`).
-/

namespace Telemetry

def Value.isFinite : Value → Bool
  | .numeric x => x.isFinite
  | .boolean _ | .exception _ | .absent => true

structure Sample.IsStorable (s : Sample) : Prop where
  isFinite : s.value.isFinite = true
  inCalendar : s.timestamp.InCalendar

def Metric.IsStorable (m : Metric) : Prop := (Sample.ofMetric m).IsStorable

def VariableState.samples : VariableState → List Sample
  | .last s => [s]
  | .series samples => samples.values

namespace Stores

def samples (s : Stores) : List Sample := s.values.flatMap VariableState.samples

def IsStorable (s : Stores) : Prop := ∀ x ∈ s.samples, x.IsStorable

theorem isStorable_empty : IsStorable .empty := fun _ h => by cases h

theorem IsStorable.of_get? {s : Stores} (h : s.IsStorable) {name : String} {v : VariableState}
    (hv : s.get? name = some v) : ∀ x ∈ v.samples, x.IsStorable :=
  fun x hx => h x (List.mem_flatMap.mpr ⟨v, NameMap.mem_values.mpr ⟨name, hv⟩, hx⟩)

theorem IsStorable.insert {s : Stores} (h : s.IsStorable) {name : String} {v : VariableState}
    (hv : ∀ x ∈ v.samples, x.IsStorable) : IsStorable (s.insert name v) := by
  intro x hx
  obtain ⟨v', hv', hx⟩ := List.mem_flatMap.mp hx
  obtain ⟨e, he, rfl⟩ := List.mem_map.mp hv'
  rcases NameMap.mem_insert.mp he with rfl | ⟨he, -⟩
  · exact hv x hx
  · exact h x (List.mem_flatMap.mpr ⟨e.2, List.mem_map_of_mem he, hx⟩)

end Stores

/-! ## Updates -/

namespace Variable

variable {stores : Stores} {samples : NameMap Sample} {m : Metric} {groupBy : List String}

/-- What is left of the samples is among them. -/
theorem mem_of_mem_dropOldest {count : Nat} {e : String × Sample}
    (h : e ∈ (dropOldest count samples).entries) : e ∈ samples.entries := by
  induction count generalizing samples with
  | zero => exact h
  | succ count ih =>
      rw [dropOldest] at h
      split at h
      · exact (NameMap.mem_erase.mp (ih h)).1
      · exact h

theorem mem_of_mem_record {v : Variable} {e : String × Sample}
    (h : e ∈ (v.record samples m groupBy).entries) : e.2 = .ofMetric m ∨ e ∈ samples.entries := by
  have hfilter := (NameMap.mem_filter.mp (mem_of_mem_dropOldest h)).1
  rcases NameMap.mem_insert.mp hfilter with rfl | ⟨he, -⟩
  · exact .inl rfl
  · exact .inr he

theorem update_isStorable (v : Variable) (h : stores.IsStorable) (hm : m.IsStorable) :
    (v.update stores m groupBy).IsStorable := by
  unfold update
  split
  · exact h.insert fun x hx => List.mem_singleton.mp hx ▸ hm
  · refine h.insert fun x hx => ?_
    obtain ⟨e, he, rfl⟩ := List.mem_map.mp hx
    rcases mem_of_mem_record he with heq | he
    · exact heq ▸ hm
    · split at he
      · rename_i hold
        exact h.of_get? hold e.2 (List.mem_map_of_mem he)
      · cases he

end Variable

theorem Definition.update_isStorable (d : Definition) {stores : Stores} {m : Metric}
    (h : stores.IsStorable) (hm : m.IsStorable) (groupBy : List String) :
    (d.update stores m groupBy).2.IsStorable := by
  have hfold : ∀ (takers : List Variable) {stores : Stores}, stores.IsStorable →
      (takers.foldl (fun stores v => v.update stores m groupBy) stores).IsStorable := by
    intro takers
    induction takers with
    | nil => exact fun h => h
    | cons v rest ih => exact fun h => ih (v.update_isStorable h hm)
  exact hfold (d.takers m) h

end Telemetry
