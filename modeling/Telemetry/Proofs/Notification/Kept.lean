import Mathlib.Data.List.DropRight
import Mathlib.Data.List.Induction
import Telemetry.Notification.Memory

/-!
# What a memory sink keeps

Of the notifications that are for it, a sink keeps those that arrive last if it drops the oldest,
and those that arrive first if it refuses (`Overflow.window`). One delivery adds to what is kept
(`MemorySink.kept_notify`); after any deliveries and drains, the sink keeps its part of what has
arrived since the last drain (`MemorySink.keeps_arrivals`).
-/

namespace Telemetry

/-- What is kept of the arrivals, as far as there is room: the last of them, or the first. -/
def Overflow.window (o : Overflow) (room : Nat) (arrivals : List Notification) :
    List Notification :=
  match o with
  | .evict => arrivals.rtake room
  | .reject => arrivals.take room

namespace Overflow

variable {o : Overflow} {room : Nat} {l l' : List Notification}

theorem length_window (o : Overflow) (room : Nat) (l : List Notification) :
    (o.window room l).length = min room l.length := by
  cases o with
  | evict =>
      simp only [window, List.rtake, List.length_drop]
      omega
  | reject => exact List.length_take

theorem window_of_length_le (h : l.length ≤ room) : o.window room l = l := by
  cases o with
  | evict =>
      rw [window, List.rtake, Nat.sub_eq_zero_of_le h]
      exact List.drop_zero
  | reject => exact List.take_of_length_le h

/-- What is kept of the arrivals so far is all that counts when more arrive. -/
theorem window_append (o : Overflow) (room : Nat) (l l' : List Notification) :
    o.window room (o.window room l ++ l') = o.window room (l ++ l') := by
  cases o with
  | evict =>
      simp only [window, List.rtake, List.length_append, List.length_drop, List.drop_append,
        List.drop_drop]
      congr 2 <;> omega
  | reject =>
      simp only [window, List.take_append, List.take_take, List.length_take]
      congr 2 <;> omega

end Overflow

namespace MemorySink

variable {s t : MemorySink} {n : Notification} {batch : List Notification}

/-! ## One delivery -/

/-- How many notifications there is room for. More than the capacity allows may be kept already. -/
def room (s : MemorySink) : Nat := max s.capacity s.kept.length

theorem window_room (s : MemorySink) : s.overflow.window s.room s.kept = s.kept :=
  Overflow.window_of_length_le (Nat.le_max_right _ _)

/-- A sink that takes one more notification is the same but for what it keeps. -/
theorem keep?_eq_some_iff :
    s.keep? n = some t ↔ ¬(s.overflow = .reject ∧ s.capacity ≤ s.kept.length) ∧
      t = { s with kept := s.overflow.window s.room (s.kept ++ [n]) } := by
  have hpos := s.capacity_pos
  unfold keep?
  split
  · rename_i hlt
    rw [Overflow.window_of_length_le]
    · simp [Nat.not_le.mpr hlt, eq_comm]
    · simp only [room, List.length_append, List.length_singleton]
      omega
  · rename_i hge
    have hroom : s.room = s.kept.length := Nat.max_eq_right (Nat.le_of_not_lt hge)
    cases ho : s.overflow with
    | evict =>
        -- there is one too many, and the oldest is not the new one
        have hwindow : Overflow.window .evict s.room (s.kept ++ [n]) = s.kept.drop 1 ++ [n] := by
          rw [hroom, Overflow.window, List.rtake, List.length_append, List.length_singleton,
            Nat.add_sub_cancel_left]
          exact List.drop_append_of_le_length (by omega)
        simp [hwindow, eq_comm]
    | reject => simp [Nat.le_of_not_lt hge]

theorem keep?_eq_none_iff :
    s.keep? n = none ↔ s.overflow = .reject ∧ s.capacity ≤ s.kept.length := by
  by_cases h : s.overflow = .reject ∧ s.capacity ≤ s.kept.length
  · refine ⟨fun _ => h, fun _ => Option.eq_none_iff_forall_not_mem.mpr fun t ht => ?_⟩
    exact (keep?_eq_some_iff.mp ht).1 h
  · rw [keep?_eq_some_iff.mpr ⟨h, rfl⟩]
    simp [h]

theorem notify_nil (s : MemorySink) : s.notify [] = (.ok (), s) := rfl

theorem notify_cons_of_not_isFor (h : n.isFor s.id = false) (batch : List Notification) :
    s.notify (n :: batch) = s.notify batch := by
  rw [notify, h]
  rfl

theorem notify_cons_of_none (h : n.isFor s.id = true) (hkeep : s.keep? n = none)
    (batch : List Notification) :
    s.notify (n :: batch) = (.error (.full s.id s.capacity, batch), s) := by
  rw [notify, h, hkeep]
  rfl

theorem notify_cons_of_some (h : n.isFor s.id = true) (hkeep : s.keep? n = some t)
    (batch : List Notification) : s.notify (n :: batch) = t.notify batch := by
  rw [notify, h, hkeep]
  rfl

/-- There remains as much room whatever is kept in it. -/
theorem room_window (s : MemorySink) (l : List Notification) :
    room { s with kept := s.overflow.window s.room (s.kept ++ l) } = s.room := by
  simp only [room, Overflow.length_window, List.length_append]
  omega

/-- A delivery changes nothing but what is kept, and keeps what there is room for. -/
theorem notify_snd (s : MemorySink) (batch : List Notification) :
    (s.notify batch).2 = { s with
      kept := s.overflow.window s.room (s.kept ++ batch.filter (·.isFor s.id)) } := by
  induction batch generalizing s with
  | nil => rw [List.filter_nil, List.append_nil, window_room, notify_nil]
  | cons n batch ih =>
      cases hfor : n.isFor s.id with
      | false => rw [notify_cons_of_not_isFor hfor, ih, List.filter_cons_of_neg (by simp [hfor])]
      | true =>
          rw [List.filter_cons_of_pos (by exact hfor)]
          cases hkeep : s.keep? n with
          | none =>
              -- a full sink that refuses has kept the first arrivals already
              obtain ⟨ho, hfull⟩ := keep?_eq_none_iff.mp hkeep
              have hkept : s.overflow.window s.room (s.kept ++ n :: batch.filter (·.isFor s.id)) =
                  s.kept := by
                rw [ho, Overflow.window, room, Nat.max_eq_right hfull, List.take_left]
              rw [notify_cons_of_none hfor hkeep, hkept]
          | some t =>
              obtain ⟨-, rfl⟩ := keep?_eq_some_iff.mp hkeep
              rw [notify_cons_of_some hfor hkeep, ih, room_window, Overflow.window_append,
                List.append_assoc, List.singleton_append]

theorem kept_notify (s : MemorySink) (batch : List Notification) :
    (s.notify batch).2.kept =
      s.overflow.window s.room (s.kept ++ batch.filter (·.isFor s.id)) := by
  rw [notify_snd]

/-- The sink takes all of `before`, and then has no room when `n` arrives. -/
def IsFullFor (s : MemorySink) (before : List Notification) (n : Notification) : Prop :=
  n.isFor s.id = true ∧ (s.notify before).1 = .ok () ∧
    s.capacity ≤ (s.notify before).2.kept.length

theorem isFullFor_nil : s.IsFullFor [] n ↔ n.isFor s.id = true ∧ s.capacity ≤ s.kept.length := by
  simp [IsFullFor, notify_nil]

theorem exists_isFullFor_cons {m : Notification} {unread : List Notification} :
    (∃ before n, m :: batch = before ++ n :: unread ∧ s.IsFullFor before n) ↔
      (batch = unread ∧ s.IsFullFor [] m) ∨
        ∃ before n, batch = before ++ n :: unread ∧ s.IsFullFor (m :: before) n := by
  constructor
  · rintro ⟨before, n, heq, hfull⟩
    cases before with
    | nil =>
        obtain ⟨rfl, rfl⟩ := List.cons.inj heq
        exact .inl ⟨rfl, hfull⟩
    | cons m' before =>
        obtain ⟨rfl, hbatch⟩ := List.cons.inj heq
        exact .inr ⟨before, n, hbatch, hfull⟩
  · rintro (⟨rfl, hfull⟩ | ⟨before, n, rfl, hfull⟩)
    · exact ⟨[], m, rfl, hfull⟩
    · exact ⟨m :: before, n, rfl, hfull⟩

/-- A delivery fails if a notification arrives that the sink refuses. It has taken all that comes
before, and reads nothing after. -/
theorem notify_eq_error_iff {e : DeliveryError} {unread : List Notification} :
    (s.notify batch).1 = .error (e, unread) ↔
      s.overflow = .reject ∧ e = .full s.id s.capacity ∧
        ∃ before n, batch = before ++ n :: unread ∧ s.IsFullFor before n := by
  induction batch generalizing s with
  | nil => simp [notify_nil]
  | cons m batch ih =>
      rw [exists_isFullFor_cons]
      cases hfor : m.isFor s.id with
      | false =>
          have hskip : ∀ before n, s.IsFullFor (m :: before) n ↔ s.IsFullFor before n := by
            intro before n
            rw [IsFullFor, notify_cons_of_not_isFor hfor, IsFullFor]
          rw [notify_cons_of_not_isFor hfor, ih]
          simp [isFullFor_nil, hfor, hskip]
      | true =>
          cases hkeep : s.keep? m with
          | none =>
              obtain ⟨ho, hfull⟩ := keep?_eq_none_iff.mp hkeep
              have hstop : ∀ before n, ¬ s.IsFullFor (m :: before) n := by
                rintro before n ⟨-, hok, -⟩
                rw [notify_cons_of_none hfor hkeep] at hok
                cases hok
              rw [notify_cons_of_none hfor hkeep]
              simp [isFullFor_nil, hfor, ho, hfull, hstop, eq_comm]
          | some t =>
              obtain ⟨hroom, rfl⟩ := keep?_eq_some_iff.mp hkeep
              have htaken : ∀ before n, s.IsFullFor (m :: before) n ↔
                  IsFullFor { s with kept := s.overflow.window s.room (s.kept ++ [m]) }
                    before n := by
                intro before n
                rw [IsFullFor, notify_cons_of_some hfor hkeep, IsFullFor]
              rw [notify_cons_of_some hfor hkeep, ih]
              refine and_congr_right fun ho => ?_
              have hno : ¬ s.IsFullFor [] m := fun hfull => hroom ⟨ho, (isFullFor_nil.mp hfull).2⟩
              simp [hno, htaken]

theorem notify_of_evict (h : s.overflow = .evict) (batch : List Notification) :
    (s.notify batch).1 = .ok () := by
  cases hresult : (s.notify batch).1 with
  | ok => rfl
  | error failure =>
      have hrefuses := (notify_eq_error_iff.mp hresult).1
      rw [h] at hrefuses
      cases hrefuses

/-- No delivery goes beyond the capacity, so that it is reached is that it is met. -/
theorem capacity_le_kept_notify_iff (h : s.kept.length ≤ s.capacity)
    (batch : List Notification) :
    s.capacity ≤ (s.notify batch).2.kept.length ↔
      (s.notify batch).2.kept.length = s.capacity := by
  have hroom : s.room = s.capacity := Nat.max_eq_left h
  rw [kept_notify, hroom, Overflow.length_window]
  omega

/-! ## Deliveries and drains -/

inductive Use
  | notify (batch : List Notification)
  | drain

def Use.apply (s : MemorySink) : Use → MemorySink
  | .notify batch => (s.notify batch).2
  | .drain => s.drain.2

def afterUses (s : MemorySink) (uses : List Use) : MemorySink := uses.foldl Use.apply s

/-- The notifications for a sink that come after the last drain, in their order. -/
def arrivals (id : String) (uses : List Use) : List Notification :=
  uses.foldl (fun arrived use => match use with
    | .notify batch => arrived ++ batch.filter (·.isFor id)
    | .drain => []) []

theorem afterUses_concat (s : MemorySink) (uses : List Use) (use : Use) :
    s.afterUses (uses ++ [use]) = use.apply (s.afterUses uses) := by
  rw [afterUses, List.foldl_append]
  rfl

theorem arrivals_concat (id : String) (uses : List Use) (use : Use) :
    arrivals id (uses ++ [use]) = match use with
      | .notify batch => arrivals id uses ++ batch.filter (·.isFor id)
      | .drain => [] := by
  rw [arrivals, List.foldl_append]
  rfl

/-- From an empty sink, the uses change nothing but what is kept, and what is kept is what there is
room for of the arrivals. -/
theorem afterUses_drain (s : MemorySink) (uses : List Use) :
    s.drain.2.afterUses uses = { s with
      kept := s.overflow.window s.capacity (arrivals s.id uses) } := by
  have hempty : s.overflow.window s.capacity [] = [] :=
    Overflow.window_of_length_le (Nat.zero_le _)
  induction uses using List.reverseRecOn with
  | nil =>
      show s.drain.2 = _
      rw [arrivals, List.foldl_nil, hempty]
      rfl
  | append_singleton uses use ih =>
      rw [afterUses_concat, ih, arrivals_concat]
      cases use with
      | notify batch =>
          -- no more is kept than the capacity allows
          have hroom : room { s with kept := s.overflow.window s.capacity (arrivals s.id uses) } =
              s.capacity := by
            rw [room, Overflow.length_window]
            exact Nat.max_eq_left (Nat.min_le_left _ _)
          rw [Use.apply, notify_snd, hroom, Overflow.window_append]
      | drain =>
          rw [hempty]
          rfl

/-- **A memory sink keeps the right notifications.** Take any sink that is empty, and any deliveries
and drains. Of the notifications that were for it since the last drain, a sink that drops the oldest
keeps the last, as many as its capacity allows, and no delivery fails. A sink that refuses keeps the
first, as many as its capacity allows; and a delivery fails exactly if it brings a notification for
the sink that arrives when as many are kept as the capacity allows. It then tells the capacity, and
leaves unread what comes after that notification. -/
theorem keeps_arrivals (s : MemorySink) (uses : List Use) :
    let sink := s.drain.2.afterUses uses
    let arrived := arrivals s.id uses
    match s.overflow with
    | .evict => sink.kept = arrived.rtake s.capacity ∧ ∀ batch, (sink.notify batch).1 = .ok ()
    | .reject => sink.kept = arrived.take s.capacity ∧ ∀ batch e unread,
        (sink.notify batch).1 = .error (e, unread) ↔
          e = .full s.id s.capacity ∧ ∃ before n, batch = before ++ n :: unread ∧
            n.isFor s.id = true ∧ (sink.notify before).1 = .ok () ∧
            (sink.notify before).2.kept.length = s.capacity := by
  dsimp only
  have hafter := afterUses_drain s uses
  have hid : (s.drain.2.afterUses uses).id = s.id := by rw [hafter]
  have hcapacity : (s.drain.2.afterUses uses).capacity = s.capacity := by rw [hafter]
  have hoverflow : (s.drain.2.afterUses uses).overflow = s.overflow := by rw [hafter]
  have hkept : (s.drain.2.afterUses uses).kept =
      s.overflow.window s.capacity (arrivals s.id uses) := by rw [hafter]
  generalize s.drain.2.afterUses uses = sink at hid hcapacity hoverflow hkept ⊢
  rw [← hid, ← hcapacity] at hkept ⊢
  cases ho : s.overflow with
  | evict =>
      rw [ho] at hkept hoverflow
      exact ⟨hkept, fun batch => notify_of_evict hoverflow batch⟩
  | reject =>
      rw [ho] at hkept hoverflow
      refine ⟨hkept, fun batch e unread => ?_⟩
      have hle : sink.kept.length ≤ sink.capacity := by
        rw [hkept, Overflow.length_window]
        exact Nat.min_le_left _ _
      simp only [notify_eq_error_iff, hoverflow, IsFullFor, capacity_le_kept_notify_iff hle,
        true_and]

end MemorySink

end Telemetry
