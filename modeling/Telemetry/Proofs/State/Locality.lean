import Telemetry.Proofs.Definition.Routing
import Telemetry.State.Update

/-!
# An event touches one key

What `Store.apply` derives, and what it leaves for its key, is read off what the store holds for
that key (`apply_fst_congr`, `getElem?_apply_congr`); what the store holds for any other key stays
as it is (`getElem?_apply_of_ne`). Metrics that are routed to other keys therefore leave a key
alone (`getElem?_processAll_of_not_mem`), a metric that is routed to a key leaves a state there
(`isSome_getElem?_process`), and a time-out of idle states removes a key exactly if it is idle
(`getElem?_expire`).
-/

namespace Telemetry.Store

variable {definitions : Definitions} {now : Instant} {s t : Store} {key other : StateKey}

/-! ## One event -/

theorem held_congr (h : s[key]? = t[key]?) : s.held key = t.held key := by
  rw [held, held, h]

theorem current_congr (h : s[key]? = t[key]?) : s.current key = t.current key := by
  rw [current, current, held_congr h]

theorem apply_fst_congr (event : Event) (h : s[key]? = t[key]?) :
    (s.apply definitions now key event).1 = (t.apply definitions now key event).1 := by
  cases event with
  | timeout => rfl
  | metric m =>
      unfold apply
      cases definitions.valid? key.definition with
      | none => rfl
      | some d =>
          show d.derive? _ _ _ _ = d.derive? _ _ _ _
          rw [current_congr h]

theorem getElem?_apply_congr (event : Event) (h : s[key]? = t[key]?) :
    (s.apply definitions now key event).2[key]? = (t.apply definitions now key event).2[key]? := by
  cases event with
  | timeout => simp [apply]
  | metric m =>
      unfold apply
      cases definitions.valid? key.definition with
      | none => simp
      | some d => simp [put, putBytes, current_congr h]

theorem getElem?_apply_of_ne (event : Event) (h : other ≠ key) :
    (s.apply definitions now other event).2[key]? = s[key]? := by
  cases event with
  | timeout => simp [apply, Std.HashMap.getElem?_erase, h]
  | metric m =>
      unfold apply
      cases definitions.valid? other.definition with
      | none => simp [Std.HashMap.getElem?_erase, h]
      | some d => simp [put, putBytes, Std.HashMap.getElem?_insert, h]

@[simp] theorem getElem?_apply_timeout :
    (s.apply definitions now key .timeout).2[key]? = none := by
  simp [apply]

/-! ## Metrics -/

theorem getElem?_applyTo_of_not_mem (m : Metric) {keys : List StateKey} (h : key ∉ keys) :
    (applyTo definitions now m s keys).2[key]? = s[key]? := by
  induction keys generalizing s with
  | nil => rfl
  | cons first rest ih =>
      obtain ⟨hfirst, hrest⟩ := List.ne_and_not_mem_of_not_mem_cons h
      rw [applyTo]
      exact (ih hrest).trans (getElem?_apply_of_ne _ hfirst.symm)

theorem getElem?_processAll_of_not_mem {ms : List Metric}
    (h : ∀ m ∈ ms, key ∉ definitions.keys m) :
    (processAll definitions now s ms).2[key]? = s[key]? := by
  induction ms generalizing s with
  | nil => rfl
  | cons m rest ih =>
      rw [processAll]
      exact (ih fun m' hm' => h m' (List.mem_cons_of_mem _ hm')).trans
        (getElem?_applyTo_of_not_mem m (h m List.mem_cons_self))

theorem updated_apply_metric {m : Metric} {d : Definition}
    (h : definitions.valid? key.definition = some d) :
    (s.apply definitions now key (.metric m)).2[key]?.map StoredState.updated = some now := by
  unfold apply
  rw [h]
  simp [put, putBytes]

theorem isSome_getElem?_apply_metric {m : Metric} {d : Definition}
    (h : definitions.valid? key.definition = some d) :
    (s.apply definitions now key (.metric m)).2[key]?.isSome := by
  rw [← Option.isSome_map (f := StoredState.updated), updated_apply_metric h]
  rfl

theorem updated_applyTo {m : Metric} {keys : List StateKey} (hmem : key ∈ keys)
    (hvalid : ∀ k ∈ keys, ∃ d, definitions.valid? k.definition = some d) :
    (applyTo definitions now m s keys).2[key]?.map StoredState.updated = some now := by
  induction keys generalizing s with
  | nil => cases hmem
  | cons first rest ih =>
      rw [applyTo]
      by_cases hrest : key ∈ rest
      · exact ih hrest fun k hk => hvalid k (List.mem_cons_of_mem _ hk)
      · -- this is the last time that the key is written
        obtain rfl : key = first := (List.mem_cons.mp hmem).resolve_right hrest
        obtain ⟨d, hd⟩ := hvalid key List.mem_cons_self
        show (applyTo definitions now m _ rest).2[key]?.map StoredState.updated = some now
        rw [getElem?_applyTo_of_not_mem m hrest]
        exact updated_apply_metric hd

/-- A metric leaves its time at every key that it is routed to. -/
theorem updated_process {m : Metric} (hs : definitions.Named) (h : key ∈ definitions.keys m) :
    (s.process definitions now m).2[key]?.map StoredState.updated = some now := by
  refine updated_applyTo h fun k hk => ?_
  obtain ⟨d, hd, -⟩ := hs.valid?_of_mem_keys hk
  exact ⟨d, hd⟩

/-- A metric leaves a state for every key that it is routed to. -/
theorem isSome_getElem?_process {m : Metric} (hs : definitions.Named)
    (h : key ∈ definitions.keys m) : (s.process definitions now m).2[key]?.isSome := by
  have hupdated : (s.process definitions now m).2[key]?.map StoredState.updated = some now :=
    updated_process hs h
  rw [← Option.isSome_map, hupdated]
  rfl

/-- Metrics do not remove states. -/
theorem isSome_getElem?_process_of_isSome {m : Metric} (hs : definitions.Named)
    (h : s[key]?.isSome) : (s.process definitions now m).2[key]?.isSome := by
  by_cases hmem : key ∈ definitions.keys m
  · exact isSome_getElem?_process hs hmem
  · rw [process, getElem?_applyTo_of_not_mem m hmem]
    exact h

theorem isSome_getElem?_processAll_of_isSome {ms : List Metric} (hs : definitions.Named)
    (h : s[key]?.isSome) : (processAll definitions now s ms).2[key]?.isSome := by
  induction ms generalizing s with
  | nil => exact h
  | cons m rest ih =>
      rw [processAll]
      exact ih (isSome_getElem?_process_of_isSome hs h)

theorem isSome_getElem?_processAll {m : Metric} {ms : List Metric} (hs : definitions.Named)
    (hm : m ∈ ms) (h : key ∈ definitions.keys m) :
    (processAll definitions now s ms).2[key]?.isSome := by
  induction ms generalizing s with
  | nil => cases hm
  | cons first rest ih =>
      rw [processAll]
      rcases List.mem_cons.mp hm with rfl | hrest
      · exact isSome_getElem?_processAll_of_isSome hs (isSome_getElem?_process hs h)
      · exact ih hrest

/-! ## Idle states -/

theorem mem_idleKeys {timeout : Duration} :
    key ∈ s.idleKeys now timeout ↔ ∃ stored, s[key]? = some stored ∧ isIdle now timeout stored := by
  rw [idleKeys, Std.HashMap.mem_keys, Std.HashMap.mem_iff_isSome_getElem?,
    Std.HashMap.getElem?_filter', Option.isSome_iff_exists]
  simp only [Option.filter_eq_some_iff]

theorem getElem?_foldl_timeout (keys : List StateKey) :
    (keys.foldl (fun s key => (s.apply definitions now key .timeout).2) s)[key]? =
      if key ∈ keys then none else s[key]? := by
  induction keys generalizing s with
  | nil => simp
  | cons first rest ih =>
      rw [List.foldl_cons, ih]
      by_cases h : first = key
      · subst h
        simp
      · simp [getElem?_apply_of_ne .timeout h, Ne.symm h]

/-- A time-out of idle states removes those that are idle and leaves the others. -/
theorem getElem?_expire (timeout : Duration) :
    (s.expire definitions now timeout).2[key]? =
      s[key]?.filter fun stored => !isIdle now timeout stored := by
  show ((s.idleKeys now timeout).foldl _ s)[key]? = _
  rw [getElem?_foldl_timeout]
  cases h : s[key]? with
  | none => simp
  | some stored =>
      have hmem : key ∈ s.idleKeys now timeout ↔ isIdle now timeout stored = true := by
        rw [mem_idleKeys, h]
        simp
      rw [Option.filter_some]
      by_cases hidle : isIdle now timeout stored = true
      · rw [if_pos (hmem.mpr hidle), hidle]
        rfl
      · rw [if_neg fun hk => hidle (hmem.mp hk), if_pos (by simpa using hidle)]

end Telemetry.Store
