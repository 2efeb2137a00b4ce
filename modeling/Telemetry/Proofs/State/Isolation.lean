import Telemetry.Proofs.State.Locality

/-!
# Keys are isolated

Events reach a store in some order, each for one key. What can be seen of a key after a run, the
metrics derived for it and what the store then holds for it, depends on the events of that key and
on what the store held for it at first; a time-out makes the key begin anew.

The runs compared have different lengths, so the statement for a single key
(`seen_run_congr`) is over any two stores that agree on the key.
-/

namespace Telemetry.Store

/-- An event for a key, and what the clock shows when it arrives. -/
structure Delivery where
  now : Instant
  key : StateKey
  event : Event

/-- Applies deliveries in their order. Each has an outcome: its key, and the metric that it derives
if there is one. -/
def run (definitions : Definitions) :
    Store → List Delivery → List (StateKey × Option Metric) × Store
  | s, [] => ([], s)
  | s, d :: rest =>
    let (derived, s) := s.apply definitions d.now d.key d.event
    let (more, s) := run definitions s rest
    ((d.key, derived) :: more, s)

def only (s : Store) (key : StateKey) : Store := s.filter fun other _ => other = key

def deliveriesTo (key : StateKey) (ds : List Delivery) : List Delivery := ds.filter (·.key = key)

/-- What is seen of a key after a run: what its events derived, and what is stored for it. -/
def seen (key : StateKey) (r : List (StateKey × Option Metric) × Store) :
    List (Option Metric) × Option StoredState :=
  ((r.1.filter (·.1 = key)).map (·.2), r.2[key]?)

variable {definitions : Definitions} {s t : Store} {key : StateKey}

theorem getElem?_only (s : Store) (key other : StateKey) :
    (s.only key)[other]? = if other = key then s[other]? else none := by
  rw [only, Std.HashMap.getElem?_filter']
  cases s[other]? with
  | none => simp
  | some stored => rw [Option.filter_some]; simp

/-! ## One delivery -/

theorem seen_run_cons_self {d : Delivery} {rest : List Delivery} (h : d.key = key) :
    seen key (run definitions s (d :: rest)) =
      ((s.apply definitions d.now key d.event).1 ::
          (seen key (run definitions (s.apply definitions d.now key d.event).2 rest)).1,
        (seen key (run definitions (s.apply definitions d.now key d.event).2 rest)).2) := by
  subst h
  simp [seen, run]

theorem seen_run_cons_of_ne {d : Delivery} {rest : List Delivery} (h : d.key ≠ key) :
    seen key (run definitions s (d :: rest)) =
      seen key (run definitions (s.apply definitions d.now d.key d.event).2 rest) := by
  simp [seen, run, h]

/-! ## Runs -/

theorem seen_run_congr {ds : List Delivery} (h : s[key]? = t[key]?) :
    seen key (run definitions s ds) = seen key (run definitions t (deliveriesTo key ds)) := by
  induction ds generalizing s t with
  | nil => simp [deliveriesTo, run, seen, h]
  | cons d rest ih =>
      by_cases hd : d.key = key
      · -- both runs take the step, from stores that agree on the key
        have hds : deliveriesTo key (d :: rest) = d :: deliveriesTo key rest := by
          simp [deliveriesTo, hd]
        have hstep : (s.apply definitions d.now key d.event).2[key]? =
            (t.apply definitions d.now key d.event).2[key]? := getElem?_apply_congr d.event h
        rw [hds, seen_run_cons_self hd, seen_run_cons_self hd, apply_fst_congr d.event h, ih hstep]
      · -- only the longer run takes the step, and it leaves the key alone
        have hds : deliveriesTo key (d :: rest) = deliveriesTo key rest := by
          simp [deliveriesTo, hd]
        rw [hds, seen_run_cons_of_ne hd]
        exact ih ((getElem?_apply_of_ne _ hd).trans h)

/-- What is not stored for the key makes no difference to it. -/
theorem seen_run_congr_store {ds : List Delivery} (h : s[key]? = t[key]?) :
    seen key (run definitions s ds) = seen key (run definitions t ds) := by
  rw [seen_run_congr (t := t) h, ← seen_run_congr (s := t) rfl]

theorem seen_run_append (before after : List Delivery) :
    seen key (run definitions s (before ++ after)) =
      ((seen key (run definitions s before)).1 ++
          (seen key (run definitions (run definitions s before).2 after)).1,
        (seen key (run definitions (run definitions s before).2 after)).2) := by
  induction before generalizing s with
  | nil => simp [seen, run]
  | cons d rest ih =>
      by_cases hd : d.key = key
      · rw [List.cons_append, seen_run_cons_self hd, seen_run_cons_self hd, ih]
        subst hd
        rfl
      · rw [List.cons_append, seen_run_cons_of_ne hd, seen_run_cons_of_ne hd, ih]
        rfl

/-- A time-out of the key divides a run: behind it the key is seen as from a store without it. -/
theorem seen_run_timeout (before after : List Delivery) (now : Instant) (h : t[key]? = none) :
    seen key (run definitions s (before ++ ⟨now, key, .timeout⟩ :: after)) =
      ((seen key (run definitions s before)).1 ++ none :: (seen key (run definitions t after)).1,
        (seen key (run definitions t after)).2) := by
  have hnone : ((run definitions s before).2.apply definitions now key .timeout).2[key]? =
      t[key]? := getElem?_apply_timeout.trans h.symm
  rw [seen_run_append, seen_run_cons_self (d := ⟨now, key, .timeout⟩) rfl,
    seen_run_congr_store hnone]
  rfl

/-- **Isolation of keys.** What is seen of a key after any deliveries is what is seen of it after
its own ones, from a store that holds nothing else. If one of them is a time-out of the key, what
follows is seen as from a store without the key, whatever else that store may hold. -/
theorem seen_run_isolated (definitions : Definitions) (s : Store) (key : StateKey) :
    (∀ ds, seen key (run definitions s ds) =
      seen key (run definitions (s.only key) (deliveriesTo key ds))) ∧
    ∀ before now after (t : Store),
      seen key (run definitions s (before ++ ⟨now, key, .timeout⟩ :: after)) =
        ((seen key (run definitions s before)).1 ++
            none :: (seen key (run definitions (t.erase key) after)).1,
          (seen key (run definitions (t.erase key) after)).2) := by
  constructor
  · intro ds
    have honly : s[key]? = (s.only key)[key]? := by rw [getElem?_only, if_pos rfl]
    exact seen_run_congr honly
  · intro before now after t
    exact seen_run_timeout before after now Std.HashMap.getElem?_erase_self

end Telemetry.Store
