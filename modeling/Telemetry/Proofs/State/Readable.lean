import Telemetry.Proofs.State.Groups
import Telemetry.Proofs.State.Persistence

/-!
# Stores whose states can be read

All that is stored are the bytes of storable states (`Store.IsReadable`). Then every state can be
read, and what is read is storable, so an event that brings no other sample than a storable one
leaves the store as it was in this respect (`Store.IsReadable.apply`), and so do events one after
the other (`Store.IsReadable.run`).
-/

namespace Telemetry

def Event.IsStorable : Event → Prop
  | .metric m => m.IsStorable
  | .timeout => True

namespace Store

variable {definitions : Definitions} {now : Instant} {s : Store} {key : StateKey}

def IsReadable (s : Store) : Prop := ∀ (key : StateKey) (stored : StoredState),
  s[key]? = some stored → ∃ stores : Stores, stores.IsStorable ∧ stored.bytes = stores.bytes

theorem isReadable_empty : IsReadable .empty := by
  intro key stored h
  rw [empty, Std.HashMap.getElem?_empty] at h
  cases h

/-- Nothing is held, or a storable state. -/
theorem IsReadable.held (hs : s.IsReadable) (key : StateKey) : s.held key = .nothing ∨
    ∃ stores : Stores, s.held key = .state stores ∧ stores.IsStorable := by
  cases hstored : s[key]? with
  | none => exact .inl (by rw [Store.held, hstored])
  | some stored =>
      obtain ⟨stores, hstores, hbytes⟩ := hs key stored hstored
      obtain ⟨stores', hread, hstores'⟩ := hstores.exists_ofBytes?
      refine .inr ⟨stores', ?_, hstores'⟩
      simp only [Store.held, hstored, hbytes, hread]

theorem IsReadable.held_ne (hs : s.IsReadable) (key : StateKey) : s.held key ≠ .unreadable := by
  rcases hs.held key with h | ⟨stores, h, -⟩ <;> rw [h] <;> simp

theorem IsReadable.current (hs : s.IsReadable) (key : StateKey) :
    (s.current key).IsStorable := by
  rcases hs.held key with h | ⟨stores, h, hstores⟩
  · rw [Store.current, h]
    exact Stores.isStorable_empty
  · rw [Store.current, h]
    exact hstores

/-! ## Events -/

theorem IsReadable.erase (hs : s.IsReadable) (key : StateKey) : IsReadable (s.erase key) := by
  intro other stored h
  rw [Std.HashMap.getElem?_erase] at h
  split at h
  · cases h
  · exact hs other stored h

theorem IsReadable.put {stores : Stores} (hs : s.IsReadable) (h : stores.IsStorable) (now : Instant)
    (key : StateKey) : (s.put now key stores).IsReadable := by
  intro other stored hstored
  rw [Store.put, putBytes, Std.HashMap.getElem?_insert] at hstored
  split at hstored
  · cases hstored
    exact ⟨stores, h, rfl⟩
  · exact hs other stored hstored

theorem IsReadable.apply {event : Event} (hs : s.IsReadable) (h : event.IsStorable)
    (definitions : Definitions) (now : Instant) (key : StateKey) :
    (s.apply definitions now key event).2.IsReadable := by
  cases event with
  | timeout => exact hs.erase key
  | metric m =>
      unfold Store.apply
      cases definitions.valid? key.definition with
      | none => exact hs.erase key
      | some d => exact hs.put (d.update_isStorable (hs.current key) h _) now key

/-- What a metric leaves for a key can be read. -/
theorem IsReadable.held_apply {m : Metric} {d : Definition} (hs : s.IsReadable)
    (hm : m.IsStorable) (hd : definitions.valid? key.definition = some d) :
    ∃ stores : Stores, (s.apply definitions now key (.metric m)).2.held key = .state stores := by
  have hsome : (s.apply definitions now key (.metric m)).2[key]?.isSome :=
    isSome_getElem?_apply_metric hd
  obtain ⟨stored, hstored⟩ := Option.isSome_iff_exists.mp hsome
  have happly : (s.apply definitions now key (.metric m)).2.IsReadable :=
    hs.apply (show Event.IsStorable (.metric m) from hm) definitions now key
  rcases happly.held key with h | ⟨stores, h, -⟩
  · simp only [Store.held, hstored] at h
    split at h <;> cases h
  · exact ⟨stores, h⟩

theorem IsReadable.run {ds : List Delivery} (hs : s.IsReadable)
    (h : ∀ d ∈ ds, d.event.IsStorable) : (run definitions s ds).2.IsReadable := by
  induction ds generalizing s with
  | nil => exact hs
  | cons d rest ih =>
      obtain ⟨hd, hrest⟩ := List.forall_mem_cons.mp h
      exact ih (hs.apply hd definitions d.now d.key) hrest

theorem IsReadable.processAll {ms : List Metric} (hs : s.IsReadable)
    (h : ∀ m ∈ ms, m.IsStorable) : (processAll definitions now s ms).2.IsReadable := by
  rw [processAll_eq_run]
  refine hs.run fun d hd => ?_
  obtain ⟨m, hm, hd⟩ := List.mem_flatMap.mp hd
  obtain ⟨key, -, rfl⟩ := List.mem_map.mp hd
  exact h m hm

theorem IsReadable.expire (hs : s.IsReadable) (definitions : Definitions) (now : Instant)
    (timeout : Duration) : (s.expire definitions now timeout).2.IsReadable := by
  have hfold : ∀ (keys : List StateKey) {s : Store}, s.IsReadable →
      IsReadable (keys.foldl (fun s key => (s.apply definitions now key .timeout).2) s) := by
    intro keys
    induction keys with
    | nil => exact fun hs => hs
    | cons key rest ih =>
        intro s hs
        have hfirst : (s.apply definitions now key .timeout).2.IsReadable :=
          hs.apply (show Event.IsStorable .timeout from trivial) definitions now key
        exact ih hfirst
  exact hfold _ hs

end Store

end Telemetry
