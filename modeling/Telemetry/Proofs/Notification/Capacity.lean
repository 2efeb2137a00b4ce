import Telemetry.Proofs.Notification.Kept

/-!
# The bound of a memory sink

A delivery to a sink that keeps no more than its capacity leaves it so, and a delivery to a sink
that keeps more leaves it as full (`MemorySink.length_kept_notify`). Only a capacity that is set
below what is kept makes the sink overfull, and it remains so until it is drained or its capacity
is set anew (`MemorySink.bounded_unless_lowered`).
-/

namespace Telemetry.MemorySink

variable {s : MemorySink} {c : Nat}

/-! ## Overfull sinks -/

def IsOverfull (s : MemorySink) : Prop := s.capacity < s.kept.length

theorem length_kept_notify (s : MemorySink) (batch : List Notification) :
    (s.notify batch).2.kept.length =
      max s.kept.length
        (min s.capacity (s.kept.length + (batch.filter (·.isFor s.id)).length)) := by
  rw [kept_notify, Overflow.length_window, List.length_append, room]
  omega

theorem isOverfull_notify {batch : List Notification} :
    (s.notify batch).2.IsOverfull ↔ s.IsOverfull := by
  have hcapacity : (s.notify batch).2.capacity = s.capacity := by rw [notify_snd]
  rw [IsOverfull, IsOverfull, length_kept_notify, hcapacity]
  omega

theorem not_isOverfull_drain : ¬ s.drain.2.IsOverfull := Nat.not_lt_zero _

/-! ## Steps -/

inductive Step
  | withCapacity (n : Nat)
  | withOverflow (o : Overflow)
  | configure (p : Properties)
  | use (u : Use)

def Step.apply (s : MemorySink) : Step → MemorySink
  | .withCapacity n => s.withCapacity n
  | .withOverflow o => s.withOverflow o
  | .configure p => (s.configure p).2
  | .use u => u.apply s

/-- The sink after all steps, one after the other. Any configuration and any delivery may fail. -/
def afterSteps (s : MemorySink) (steps : List Step) : MemorySink := steps.foldl Step.apply s

theorem afterSteps_concat (s : MemorySink) (steps : List Step) (step : Step) :
    s.afterSteps (steps ++ [step]) = step.apply (s.afterSteps steps) := by
  rw [afterSteps, List.foldl_append]
  rfl

/-- The capacity that a step sets. A configuration sets it if it can be read and is not zero,
whatever else is wrong, and sets the usual one if none is given. -/
def Step.capacity? : Step → Option Nat
  | .withCapacity n => some (atLeastOne n)
  | .withOverflow _ | .use _ => none
  | .configure p =>
    ((p.takeCount "capacity").1.toOption.map fun n => n.getD defaultCapacity).filter (0 < ·)

/-- A configuration keeps what is kept. -/
theorem configure_snd (s : MemorySink) (p : Properties) :
    (s.configure p).2.kept = s.kept ∧
      (s.configure p).2.capacity = (Step.configure p).capacity?.getD s.capacity := by
  unfold configure Step.capacity?
  dsimp only
  cases (p.takeCount "capacity").1 with
  | error e => exact ⟨rfl, rfl⟩
  | ok n =>
      dsimp only [Except.map, Except.toOption, Option.map_some]
      split
      · -- the capacity is set before the overflow is read
        rename_i hpos
        rw [Option.filter_some, if_pos (decide_eq_true hpos)]
        split <;> exact ⟨rfl, rfl⟩
      · rename_i hzero
        rw [Option.filter_some, if_neg (by simpa using hzero)]
        exact ⟨rfl, rfl⟩

theorem Step.isOverfull_apply_of_some {step : Step} (h : step.capacity? = some c) :
    (step.apply s).IsOverfull ↔ c < s.kept.length := by
  cases step with
  | withCapacity n =>
      obtain rfl := Option.some.inj h
      exact Iff.rfl
  | withOverflow o => cases h
  | configure p =>
      obtain ⟨hkept, hcapacity⟩ := configure_snd s p
      rw [apply, IsOverfull, hkept, hcapacity, h, Option.getD_some]
  | use u => cases h

theorem Step.isOverfull_apply_of_none {step : Step} (h : step.capacity? = none) :
    (step.apply s).IsOverfull ↔ step ≠ .use .drain ∧ s.IsOverfull := by
  cases step with
  | withCapacity n => cases h
  | withOverflow o =>
      show s.IsOverfull ↔ _
      simp
  | configure p =>
      obtain ⟨hkept, hcapacity⟩ := configure_snd s p
      rw [apply, IsOverfull, hkept, hcapacity, h, Option.getD_none, ← IsOverfull]
      simp
  | use u =>
      cases u with
      | notify batch =>
          show (s.notify batch).2.IsOverfull ↔ _
          simp [isOverfull_notify]
      | drain =>
          show s.drain.2.IsOverfull ↔ _
          simp [not_isOverfull_drain]

/-! ## Runs -/

/-- The last step that set the capacity set it below what was kept then, and nothing was drained
since. -/
def Lowered (s : MemorySink) (steps : List Step) : Prop :=
  ∃ before step later c, steps = before ++ step :: later ∧ step.capacity? = some c ∧
    c < (s.afterSteps before).kept.length ∧
    ∀ x ∈ later, x.capacity? = none ∧ x ≠ .use .drain

theorem not_lowered_nil : ¬ s.Lowered [] := by
  rintro ⟨before, step, later, c, hsteps, -⟩
  simp at hsteps

/-- The last step sets the capacity so, or it sets none and an earlier one did. -/
theorem lowered_concat {steps : List Step} {step : Step} :
    s.Lowered (steps ++ [step]) ↔
      (∃ c, step.capacity? = some c ∧ c < (s.afterSteps steps).kept.length) ∨
        step.capacity? = none ∧ step ≠ .use .drain ∧ s.Lowered steps := by
  constructor
  · rintro ⟨before, first, later, c, hsteps, hc, hlt, hlater⟩
    rcases List.eq_nil_or_concat' later with rfl | ⟨later, last, rfl⟩
    · obtain ⟨rfl, hstep⟩ := List.append_inj' hsteps rfl
      obtain rfl : step = first := List.singleton_inj.mp hstep
      exact .inl ⟨c, hc, hlt⟩
    · rw [← List.cons_append, ← List.append_assoc] at hsteps
      obtain ⟨rfl, hlast⟩ := List.append_inj' hsteps rfl
      obtain rfl : step = last := List.singleton_inj.mp hlast
      obtain ⟨hnone, hdrain⟩ := hlater step (List.mem_append_right _ (List.mem_singleton_self _))
      refine .inr ⟨hnone, hdrain, before, first, later, c, rfl, hc, hlt, fun x hx => ?_⟩
      exact hlater x (List.mem_append_left _ hx)
  · rintro (⟨c, hc, hlt⟩ | ⟨hnone, hdrain, before, first, later, c, rfl, hc, hlt, hlater⟩)
    · exact ⟨steps, step, [], c, rfl, hc, hlt, fun x hx => by cases hx⟩
    · refine ⟨before, first, later ++ [step], c, by simp, hc, hlt, fun x hx => ?_⟩
      rcases List.mem_append.mp hx with hx | hx
      · exact hlater x hx
      · rw [List.mem_singleton.mp hx]
        exact ⟨hnone, hdrain⟩

/-- A sink that was not overfull is so only because its capacity was lowered. -/
theorem isOverfull_afterSteps_iff (hs : ¬ s.IsOverfull) (steps : List Step) :
    (s.afterSteps steps).IsOverfull ↔ s.Lowered steps := by
  induction steps using List.reverseRecOn with
  | nil => exact iff_of_false hs not_lowered_nil
  | append_singleton steps step ih =>
      rw [afterSteps_concat, lowered_concat]
      cases h : step.capacity? with
      | some c =>
          rw [Step.isOverfull_apply_of_some h]
          simp
      | none =>
          rw [Step.isOverfull_apply_of_none h, ih]
          simp

/-- **The bound of a memory sink.** Take a new sink after any steps, whether they succeed or fail.
After one more delivery, it keeps at most as many notifications as its capacity allows if and only
if it is not so that its capacity was last set below what it kept then, with no drain since. A
delivery never adds to what is kept beyond the capacity: there are as many as before, or as many as
were for the sink in addition, up to the capacity. -/
theorem bounded_unless_lowered (id : String) (steps : List Step) (batch : List Notification) :
    let before := (ofId id).afterSteps steps
    let after := (before.notify batch).2
    (after.kept.length ≤ after.capacity ↔ ¬ (ofId id).Lowered steps) ∧
      after.kept.length = max before.kept.length
        (min before.capacity
          (before.kept.length + (batch.filter (·.isFor before.id)).length)) := by
  dsimp only
  refine ⟨?_, length_kept_notify _ _⟩
  rw [← Nat.not_lt, ← IsOverfull, isOverfull_notify]
  exact not_congr (isOverfull_afterSteps_iff (Nat.not_lt_zero _) steps)

def notice (reason : String) : Notification :=
  ⟨.epoch, "cpu", "high", .empty, reason, [], .empty⟩

def crowded : List Step :=
  [.withCapacity 3, .use (.notify [notice "a", notice "b", notice "c"]),
    .configure (.ofList [("capacity", "1")])]

/-- One more takes the place of the oldest, and three are kept still. -/
theorem kept_beyond_capacity :
    let after := (((ofId "memory").afterSteps crowded).notify [notice "d"]).2
    after.capacity = 1 ∧ after.kept = [notice "b", notice "c", notice "d"] := by
  decide +kernel

end Telemetry.MemorySink
