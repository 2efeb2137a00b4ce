import Mathlib.Data.List.Induction
import Telemetry.Proofs.State.Locality

/-!
# Idle states

A store is handed metrics one at a time, and is asked now and then to time out what is idle. What is
there after a time-out are the states whose last metric is no older than the time allowed, and was
so at every time-out since it came (`expire_exact`). The keys of a store are listed in no particular
order, so a time-out goes through the idle ones in an order of its own (`Visit`); what it leaves
does not depend on it.
-/

namespace Telemetry.Store

/-- An order in which keys are visited: a rearrangement of every list of keys. -/
structure Visit where
  arrange : List StateKey → List StateKey
  perm (keys : List StateKey) : (arrange keys).Perm keys

def Visit.listed : Visit := ⟨id, fun keys => .refl keys⟩

/-- Times out the idle states in the order of a visit, and counts them. -/
def expireBy (definitions : Definitions) (visit : Visit) (now : Instant) (timeout : Duration)
    (s : Store) : Nat × Store :=
  let idle := visit.arrange (s.idleKeys now timeout)
  (idle.length, idle.foldl (fun s key => (s.apply definitions now key .timeout).2) s)

inductive Call
  | process (now : Instant) (m : Metric)
  | expire (now : Instant) (visit : Visit)

def handle (definitions : Definitions) (timeout : Duration) (s : Store) : Call → Store
  | .process now m => (s.process definitions now m).2
  | .expire now visit => (s.expireBy definitions visit now timeout).2

def after (definitions : Definitions) (timeout : Duration) (calls : List Call) : Store :=
  calls.foldl (handle definitions timeout) .empty

variable {definitions : Definitions} {timeout : Duration} {visit visit' : Visit} {s t : Store}
  {key : StateKey} {now u : Instant} {m : Metric} {calls calls' : List Call} {c c' : Call}

theorem after_concat (calls : List Call) (c : Call) :
    after definitions timeout (calls ++ [c]) =
      (after definitions timeout calls).handle definitions timeout c := by
  unfold after
  rw [List.foldl_append]
  rfl

/-! ## A time-out in any order -/

theorem expire_eq_expireBy (definitions : Definitions) (now : Instant) (timeout : Duration)
    (s : Store) : s.expire definitions now timeout = s.expireBy definitions .listed now timeout :=
  rfl

theorem getElem?_expireBy (s : Store) (visit : Visit) :
    (s.expireBy definitions visit now timeout).2[key]? =
      s[key]?.filter fun stored => !isIdle now timeout stored := by
  have hmem : key ∈ visit.arrange (s.idleKeys now timeout) ↔ key ∈ s.idleKeys now timeout :=
    (visit.perm _).mem_iff
  have hlisted : (s.expireBy definitions visit now timeout).2[key]? =
      (s.expire definitions now timeout).2[key]? := by
    show (List.foldl _ s (visit.arrange (s.idleKeys now timeout)))[key]? =
      (List.foldl _ s (s.idleKeys now timeout))[key]?
    rw [getElem?_foldl_timeout, getElem?_foldl_timeout]
    simp only [hmem]
  rw [hlisted, getElem?_expire]

theorem mem_of_mem_idleKeys (h : key ∈ s.idleKeys now timeout) : key ∈ s := by
  obtain ⟨stored, hstored, -⟩ := mem_idleKeys.mp h
  rw [Std.HashMap.mem_iff_isSome_getElem?, hstored]
  rfl

/-- A time-out of a key that is there makes the store smaller by one. -/
theorem size_erase_of_mem (h : key ∈ s) : (s.erase key).size + 1 = s.size := by
  have hpos : 0 < s.size := by
    rw [← Std.HashMap.length_keys]
    exact List.length_pos_of_mem (Std.HashMap.mem_keys.mpr h)
  rw [Std.HashMap.size_erase, if_pos h]
  omega

theorem size_foldl_timeout {keys : List StateKey} (hnodup : keys.Nodup)
    (hmem : ∀ key ∈ keys, key ∈ s) :
    keys.length + (keys.foldl (fun s key => (s.apply definitions now key .timeout).2) s).size =
      s.size := by
  induction keys generalizing s with
  | nil => exact Nat.zero_add _
  | cons key rest ih =>
      obtain ⟨hkey, hrest⟩ := List.nodup_cons.mp hnodup
      -- the keys of `rest` are other keys, so they are still there
      have hin : ∀ other ∈ rest, other ∈ s.erase key := by
        intro other hother
        rw [Std.HashMap.mem_erase]
        constructor
        · rw [beq_eq_false_iff_ne]
          rintro rfl
          exact hkey hother
        · exact hmem other (List.mem_cons_of_mem _ hother)
      have herased := size_erase_of_mem (hmem key List.mem_cons_self)
      have hsize := ih hrest hin
      show rest.length + 1 + (List.foldl _ (s.erase key) rest).size = s.size
      omega

/-- What a time-out counts is what it removes. -/
theorem size_expireBy (definitions : Definitions) (now : Instant) (timeout : Duration) (s : Store)
    (visit : Visit) :
    (s.expireBy definitions visit now timeout).1 +
      (s.expireBy definitions visit now timeout).2.size = s.size := by
  have hperm := visit.perm (s.idleKeys now timeout)
  have hnodup : (s.idleKeys now timeout).Nodup := Std.HashMap.nodup_keys
  apply size_foldl_timeout
  · exact hperm.nodup_iff.mpr hnodup
  · intro key hkey
    exact mem_of_mem_idleKeys (hperm.mem_iff.mp hkey)

/-! ## Histories -/

/-- A call that leaves a key alone that was last fed at `u`: a metric for other keys, or a time-out
at which this was not too long ago. -/
def Call.Spares (definitions : Definitions) (timeout : Duration) (key : StateKey) (u : Instant) :
    Call → Prop
  | .process _ m => key ∉ definitions.keys m
  | .expire now _ => now.minus u ≤ timeout.nanos

/-- The last metric for a key came at `u`, and no time-out since then found the key idle. -/
def LastFed (definitions : Definitions) (timeout : Duration) (key : StateKey) (u : Instant)
    (calls : List Call) : Prop :=
  ∃ earlier m later, calls = earlier ++ .process u m :: later ∧ key ∈ definitions.keys m ∧
    ∀ c ∈ later, c.Spares definitions timeout key u

theorem not_lastFed_nil : ¬LastFed definitions timeout key u [] := by
  rintro ⟨earlier, m, later, hcalls, -, -⟩
  simp at hcalls

theorem lastFed_concat : LastFed definitions timeout key u (calls ++ [c]) ↔
    (∃ m, c = .process u m ∧ key ∈ definitions.keys m) ∨
      LastFed definitions timeout key u calls ∧ c.Spares definitions timeout key u := by
  constructor
  · rintro ⟨earlier, m, later, hcalls, hkey, hlater⟩
    -- the metric is the last call, or the last call is one of those after it
    cases later using List.reverseRecOn with
    | nil =>
        obtain ⟨-, hlast⟩ := List.append_inj' hcalls rfl
        exact .inl ⟨m, List.singleton_inj.mp hlast, hkey⟩
    | append_singleton later c' =>
        rw [← List.cons_append, ← List.append_assoc] at hcalls
        obtain ⟨rfl, hlast⟩ := List.append_inj' hcalls rfl
        obtain rfl := List.singleton_inj.mp hlast
        refine .inr ⟨⟨earlier, m, later, rfl, hkey, ?_⟩, hlater c (by simp)⟩
        intro c' hc'
        exact hlater c' (List.mem_append_left _ hc')
  · rintro (⟨m, rfl, hkey⟩ | ⟨⟨earlier, m, later, rfl, hkey, hlater⟩, hc⟩)
    · exact ⟨calls, m, [], rfl, hkey, by simp⟩
    · refine ⟨earlier, m, later ++ [c], by simp, hkey, ?_⟩
      intro c' hc'
      rcases List.mem_append.mp hc' with hc' | hc'
      · exact hlater c' hc'
      · rwa [List.mem_singleton.mp hc']

theorem updated_expireBy_eq_some_iff (s : Store) (visit : Visit) :
    (s.expireBy definitions visit now timeout).2[key]?.map StoredState.updated = some u ↔
      s[key]?.map StoredState.updated = some u ∧ now.minus u ≤ timeout.nanos := by
  rw [getElem?_expireBy]
  simp only [Option.map_eq_some_iff, Option.filter_eq_some_iff, isIdle]
  constructor
  · rintro ⟨stored, ⟨hstored, hidle⟩, rfl⟩
    exact ⟨⟨stored, hstored, rfl⟩, by simpa using hidle⟩
  · rintro ⟨⟨stored, hstored, rfl⟩, hrecent⟩
    exact ⟨stored, ⟨hstored, by simpa using hrecent⟩, rfl⟩

/-- A state carries the time of the last metric for its key. -/
theorem updated_after (hs : definitions.Named) :
    (after definitions timeout calls)[key]?.map StoredState.updated = some u ↔
      LastFed definitions timeout key u calls := by
  induction calls using List.reverseRecOn with
  | nil => simp [after, empty, not_lastFed_nil]
  | append_singleton calls c ih =>
      rw [after_concat, lastFed_concat, ← ih]
      cases c with
      | process now m =>
          by_cases hkey : key ∈ definitions.keys m
          · rw [handle, updated_process hs hkey]
            constructor
            · rintro ⟨rfl⟩
              exact .inl ⟨m, rfl, hkey⟩
            · rintro (⟨m', hcall, -⟩ | ⟨-, hspares⟩)
              · cases hcall
                rfl
              · exact absurd hkey hspares
          · rw [handle, process, getElem?_applyTo_of_not_mem m hkey]
            constructor
            · intro h
              exact .inr ⟨h, hkey⟩
            · rintro (⟨m', hcall, hkey'⟩ | ⟨h, -⟩)
              · cases hcall
                exact absurd hkey' hkey
              · exact h
      | expire now visit =>
          rw [handle, updated_expireBy_eq_some_iff]
          constructor
          · exact .inr
          · rintro (⟨m', hcall, -⟩ | h)
            · cases hcall
            · exact h

/-! ## The order of visits -/

/-- Two calls that differ at most in the order in which idle keys are visited. -/
inductive Call.Alike : Call → Call → Prop
  | process (now : Instant) (m : Metric) : Alike (.process now m) (.process now m)
  | expire (now : Instant) (visit visit' : Visit) :
    Alike (.expire now visit) (.expire now visit')

theorem getElem?_applyTo_congr (m : Metric) (keys : List StateKey)
    (h : ∀ key : StateKey, s[key]? = t[key]?) (key : StateKey) :
    (applyTo definitions now m s keys).2[key]? = (applyTo definitions now m t keys).2[key]? := by
  induction keys generalizing s t with
  | nil => exact h key
  | cons first rest ih =>
      rw [applyTo, applyTo]
      apply ih
      intro other
      by_cases hother : first = other
      · subst hother
        exact getElem?_apply_congr _ (h first)
      · rw [getElem?_apply_of_ne _ hother, getElem?_apply_of_ne _ hother]
        exact h other

theorem getElem?_handle_congr (hc : c.Alike c') (h : ∀ key : StateKey, s[key]? = t[key]?)
    (key : StateKey) :
    (s.handle definitions timeout c)[key]? = (t.handle definitions timeout c')[key]? := by
  cases hc with
  | process now m => exact getElem?_applyTo_congr m _ h key
  | expire now visit visit' => rw [handle, handle, getElem?_expireBy, getElem?_expireBy, h key]

theorem getElem?_foldl_handle_congr (hcalls : List.Forall₂ Call.Alike calls calls')
    (h : ∀ key : StateKey, s[key]? = t[key]?) (key : StateKey) :
    (calls.foldl (handle definitions timeout) s)[key]? =
      (calls'.foldl (handle definitions timeout) t)[key]? := by
  induction hcalls generalizing s t with
  | nil => exact h key
  | cons hc _ ih => exact ih (getElem?_handle_congr hc h)

/-- The order of visits does not show in what is stored. -/
theorem getElem?_after_congr (definitions : Definitions) (timeout : Duration)
    (hcalls : List.Forall₂ Call.Alike calls calls') (key : StateKey) :
    (after definitions timeout calls)[key]? = (after definitions timeout calls')[key]? :=
  getElem?_foldl_handle_congr hcalls (fun _ => rfl) key

theorem expireBy_congr (h : ∀ key : StateKey, s[key]? = t[key]?) (visit visit' : Visit) :
    (s.expireBy definitions visit now timeout).1 = (t.expireBy definitions visit' now timeout).1 ∧
      ∀ key : StateKey, (s.expireBy definitions visit now timeout).2[key]? =
        (t.expireBy definitions visit' now timeout).2[key]? := by
  have hleft : ∀ key : StateKey, (s.expireBy definitions visit now timeout).2[key]? =
      (t.expireBy definitions visit' now timeout).2[key]? := by
    intro key
    rw [getElem?_expireBy, getElem?_expireBy, h key]
  -- the stores were of one size, and are of one size again
  have hsize := (Std.HashMap.Equiv.of_forall_getElem?_eq h).size_eq
  have hsizeLeft := (Std.HashMap.Equiv.of_forall_getElem?_eq hleft).size_eq
  have hs := size_expireBy definitions now timeout s visit
  have ht := size_expireBy definitions now timeout t visit'
  refine ⟨?_, hleft⟩
  omega

/-! ## What is left -/

/-- **A time-out removes exactly what is idle.** A store starts empty and answers calls at whatever
times a clock shows. After a time-out at `now` it has the keys whose last metric, since they were
timed out last, came at some `u` from which no more than the allowed time passed until `now`. The
time-out counts the keys that it removes, and the states of the others are as before. Had any
time-out visited the keys in another order, the count and all states would be the same. -/
theorem expire_exact (l : List Definition) (timeout : Duration) (calls : List Call)
    (now : Instant) :
    let definitions := Definitions.ofDefinitions l
    let before := after definitions timeout calls
    let expired := before.expire definitions now timeout
    (∀ key, key ∈ expired.2 ↔
      ∃ u, LastFed definitions timeout key u calls ∧ now.minus u ≤ timeout.nanos) ∧
    expired.1 + expired.2.size = before.size ∧
    (∀ key ∈ expired.2, expired.2[key]? = before[key]?) ∧
    ∀ calls' visit, List.Forall₂ Call.Alike calls calls' →
      let expired' := (after definitions timeout calls').expireBy definitions visit now timeout
      expired'.1 = expired.1 ∧ ∀ key : StateKey, expired'.2[key]? = expired.2[key]? := by
  intro definitions before expired
  have hs : definitions.Named := Definitions.named_ofDefinitions l
  have hexpired : expired = before.expireBy definitions .listed now timeout :=
    expire_eq_expireBy definitions now timeout before
  rw [hexpired]
  refine ⟨?_, size_expireBy definitions now timeout before .listed, ?_, ?_⟩
  · intro key
    rw [Std.HashMap.mem_iff_isSome_getElem?, ← Option.isSome_map (f := StoredState.updated),
      Option.isSome_iff_exists]
    simp only [before, updated_expireBy_eq_some_iff, updated_after hs]
  · intro key hkey
    rw [Std.HashMap.mem_iff_isSome_getElem?] at hkey
    obtain ⟨stored, hstored⟩ := Option.isSome_iff_exists.mp hkey
    have hfiltered := hstored
    rw [getElem?_expireBy, Option.filter_eq_some_iff] at hfiltered
    rw [hstored, hfiltered.1]
  · intro calls' visit hcalls
    have hbefore := getElem?_after_congr definitions timeout hcalls
    exact expireBy_congr (fun key => (hbefore key).symm) visit .listed

end Telemetry.Store
