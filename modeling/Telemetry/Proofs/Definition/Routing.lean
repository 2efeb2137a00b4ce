import Telemetry.Definition.Set
import Telemetry.Proofs.NameMap

/-!
# Where metrics are routed

In a set that a configuration describes each definition stands under its own name, so a metric is
routed only to states of definitions that the set has and that derive metrics
(`Definitions.Named.valid?_of_mem_keys`).
-/

namespace Telemetry

/-- A definition takes metrics only if it derives metrics, and to states of its own. -/
theorem Definition.valid_of_key? {d : Definition} {m : Metric} {key : StateKey}
    (h : d.key? m = some key) : d.isValid = true ∧ d.name = key.definition := by
  unfold key? at h
  split at h
  · rename_i happlies
    obtain ⟨group, -, rfl⟩ := Option.map_eq_some_iff.mp h
    unfold appliesTo at happlies
    simp only [Bool.and_eq_true] at happlies
    exact ⟨happlies.1.1, rfl⟩
  · cases h

namespace Definitions

def Named (s : Definitions) : Prop := ∀ name d, s.get? name = some d → d.name = name

theorem named_ofDefinitions (l : List Definition) : (ofDefinitions l).Named := by
  intro name d h
  have hmem := NameMap.mem_entries_ofList (NameMap.get?_eq_some_iff.mp h)
  obtain ⟨d', -, heq⟩ := List.mem_map.mp hmem
  cases heq
  rfl

theorem named_ofProperties (p : Properties) (maxSeries : Nat) : (ofProperties p maxSeries).Named :=
  named_ofDefinitions _

variable {s : Definitions} {m : Metric} {key : StateKey}

theorem mem_values_iff (hs : s.Named) {d : Definition} :
    d ∈ s.values ↔ s.get? d.name = some d := by
  constructor
  · intro h
    obtain ⟨⟨name, d'⟩, he, rfl⟩ := List.mem_map.mp h
    have hget := NameMap.get?_eq_some_iff.mpr he
    rwa [hs name d' hget]
  · exact fun h => List.mem_map.mpr ⟨(d.name, d), NameMap.get?_eq_some_iff.mp h, rfl⟩

/-! ## Routes -/

/-- A metric is routed to states of definitions that derive metrics. -/
theorem Named.valid?_of_mem_keys (hs : s.Named) (h : key ∈ s.keys m) :
    ∃ d, s.valid? key.definition = some d ∧ d.key? m = some key := by
  obtain ⟨d, hd, hkey⟩ := List.mem_filterMap.mp h
  obtain ⟨hvalid, hname⟩ := Definition.valid_of_key? hkey
  refine ⟨d, ?_, hkey⟩
  rw [valid?, ← hname, (mem_values_iff hs).mp hd, Option.filter_some, if_pos hvalid]

theorem Named.not_mem_keys (hs : s.Named) (h : s.valid? key.definition = none) :
    key ∉ s.keys m := by
  intro hmem
  obtain ⟨d, hd, -⟩ := hs.valid?_of_mem_keys hmem
  rw [h] at hd
  cases hd

end Definitions

end Telemetry
