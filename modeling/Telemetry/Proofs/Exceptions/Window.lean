import Telemetry.Exceptions
import Telemetry.Proofs.Time.Order

/-!
# What holds a failure back

What can be seen of the failures that were let through is which of them hold a repetition back, now
and later (`Exceptions.wasRaised`). To let a failure through changes this for its own pair of an
owner and a cause only (`Exceptions.limits_tryRaise`): what is forgotten on the way is older than
the window, and outside leap seconds it will not be recent again.
-/

namespace Telemetry.Exceptions

variable {e : Exceptions} {now later t : Instant} {owner cause : String} {p : String × String}

/-- No failure was let through in a leap second. -/
def Plain (e : Exceptions) : Prop :=
  ∀ (p : String × String) (t : Instant), e.raised[p]? = some t → t.isLeap = false

/-! ## Recent times -/

/-- What is recent at a later time was recent before. -/
theorem isRecent_of_later (ht : t.isLeap = false) (hnow : now.isLeap = false)
    (hlater : later.isLeap = false) (hle : later.before now = false)
    (h : e.isRecent later t = true) : e.isRecent now t = true := by
  have hminus := Instant.minus_le_minus ht hnow hlater hle
  simp only [isRecent, decide_eq_true_eq] at *
  omega

theorem wasRaised_eq : e.wasRaised now owner cause =
    (e.raised[(owner, cause)]?).any (e.isRecent now) := by
  unfold wasRaised
  cases e.raised[(owner, cause)]? <;> rfl

theorem plain_ofWindow (window : Duration) : (ofWindow window).Plain := by
  intro p t h
  simp [ofWindow] at h

theorem wasRaised_ofWindow (window : Duration) :
    (ofWindow window).wasRaised now owner cause = false := by
  simp [wasRaised_eq, ofWindow]

/-! ## Forgetting -/

theorem window_purge : (e.purge now).window = e.window := by
  unfold purge
  split <;> rfl

theorem isRecent_purge (now : Instant) : (e.purge now).isRecent = e.isRecent := by
  funext now' t
  simp only [isRecent, window_purge]

theorem getElem?_purge (e : Exceptions) (now : Instant) (p : String × String) :
    (e.purge now).raised[p]? = e.raised[p]? ∨
      (e.purge now).raised[p]? = (e.raised[p]?).filter (e.isRecent now) := by
  unfold purge
  split
  · right
    exact Std.HashMap.getElem?_filter'
  · exact Or.inl rfl

theorem plain_purge (h : e.Plain) : (e.purge now).Plain := by
  intro p t ht
  rcases getElem?_purge e now p with hp | hp
  · exact h p t (hp ▸ ht)
  · rw [hp, Option.filter_eq_some_iff] at ht
    exact h p t ht.1

/-- To forget changes nothing that can be seen at the time or later. -/
theorem wasRaised_purge (h : e.Plain) (hnow : now.isLeap = false) (hlater : later.isLeap = false)
    (hle : later.before now = false) :
    (e.purge now).wasRaised later owner cause = e.wasRaised later owner cause := by
  rw [wasRaised_eq, wasRaised_eq, isRecent_purge]
  rcases getElem?_purge e now (owner, cause) with hp | hp
  · rw [hp]
  · rw [hp, Option.any_filter]
    cases ht : e.raised[(owner, cause)]? with
    | none => rfl
    | some t =>
        have hrecent : e.isRecent later t = true → e.isRecent now t = true :=
          isRecent_of_later (h _ t ht) hnow hlater hle
        simpa using hrecent

/-- To forget changes nothing that can be seen at the same time. -/
theorem wasRaised_purge_self :
    (e.purge now).wasRaised now owner cause = e.wasRaised now owner cause := by
  rw [wasRaised_eq, wasRaised_eq, isRecent_purge]
  rcases getElem?_purge e now (owner, cause) with hp | hp
  · rw [hp]
  · rw [hp, Option.any_filter]
    simp only [Bool.and_self]

/-! ## Letting failures through -/

/-- Lets a failure through or holds it back, and forgets nothing. -/
def letPass (e : Exceptions) (now : Instant) (owner cause : String) : Bool × Exceptions :=
  if e.wasRaised now owner cause then (false, e)
  else (true, { e with raised := e.raised.insert (owner, cause) now })

theorem tryRaise_eq_letPass :
    e.tryRaise now owner cause = (e.purge now).letPass now owner cause := rfl

theorem letPass_of_wasRaised (h : e.wasRaised now owner cause = true) :
    e.letPass now owner cause = (false, e) := by
  rw [letPass, if_pos h]

theorem letPass_of_not_wasRaised (h : e.wasRaised now owner cause = false) :
    e.letPass now owner cause =
      (true, { e with raised := e.raised.insert (owner, cause) now }) := by
  rw [letPass, if_neg (by simp [h])]

/-- A failure that is not held back passes. -/
theorem tryRaise_of_not_wasRaised (h : e.wasRaised now owner cause = false) :
    (e.tryRaise now owner cause).1 = true := by
  rw [tryRaise_eq_letPass, letPass_of_not_wasRaised (wasRaised_purge_self.trans h)]

/-- A failure that is not held back becomes a metric. -/
theorem raise_of_not_wasRaised (h : e.wasRaised now owner cause = false) (timestamp : Instant)
    (attributes : Attributes) : (e.raise now owner cause timestamp attributes).1 =
      [⟨timestamp, .exception cause, attributes⟩] :=
  if_pos (tryRaise_of_not_wasRaised h)

/-- A failure that was never let through is not held back. -/
theorem wasRaised_of_getElem?_eq_none (h : e.raised[(owner, cause)]? = none) (now : Instant) :
    e.wasRaised now owner cause = false := by
  rw [wasRaised_eq, h]
  rfl

/-- At the same time no other failure is held back, and none is let through again. -/
theorem wasRaised_tryRaise_of_ne {owner' cause' : String} (h : (owner', cause') ≠ (owner, cause)) :
    (e.tryRaise now owner cause).2.wasRaised now owner' cause' =
      e.wasRaised now owner' cause' := by
  rw [tryRaise_eq_letPass, ← wasRaised_purge_self (e := e)]
  cases hraised : (e.purge now).wasRaised now owner cause with
  | true => rw [letPass_of_wasRaised hraised]
  | false =>
      rw [letPass_of_not_wasRaised hraised, wasRaised_eq, wasRaised_eq,
        Std.HashMap.getElem?_insert, if_neg (by simpa using h.symm)]
      rfl

/-- Another failure does not let it through. -/
theorem getElem?_tryRaise_of_ne (h : e.raised[p]? = none) (hne : p ≠ (owner, cause)) :
    (e.tryRaise now owner cause).2.raised[p]? = none := by
  have hpurge : (e.purge now).raised[p]? = none := by
    rcases getElem?_purge e now p with heq | heq <;> simp [heq, h]
  rw [tryRaise_eq_letPass]
  cases hraised : (e.purge now).wasRaised now owner cause with
  | true =>
      rw [letPass_of_wasRaised hraised]
      exact hpurge
  | false =>
      rw [letPass_of_not_wasRaised hraised, Std.HashMap.getElem?_insert,
        if_neg (by simpa using hne.symm)]
      exact hpurge

/-- A way to let failures through that is seen only in its answers: a failure passes unless it is
held back, and then it alone is held back from then on. -/
structure Limits (raise : Exceptions → Instant → String → String → Bool × Exceptions) : Prop where
  window (e : Exceptions) (now : Instant) (owner cause : String) :
    (raise e now owner cause).2.window = e.window
  plain {e : Exceptions} {now : Instant} (owner cause : String) (h : e.Plain)
    (hnow : now.isLeap = false) : (raise e now owner cause).2.Plain
  admitted {e : Exceptions} {now : Instant} (owner cause : String) (h : e.Plain)
    (hnow : now.isLeap = false) :
    (raise e now owner cause).1 = !e.wasRaised now owner cause
  wasRaised {e : Exceptions} {now later : Instant} (owner cause owner' cause' : String)
    (h : e.Plain) (hnow : now.isLeap = false) (hlater : later.isLeap = false)
    (hle : later.before now = false) :
    (raise e now owner cause).2.wasRaised later owner' cause' =
      if (owner', cause') = (owner, cause) ∧ e.wasRaised now owner cause = false then
        e.isRecent later now
      else e.wasRaised later owner' cause'

theorem limits_letPass : Limits letPass where
  window e now owner cause := by
    unfold letPass
    split <;> rfl
  plain {e now} owner cause h hnow := by
    cases hraised : e.wasRaised now owner cause with
    | true => rwa [letPass_of_wasRaised hraised]
    | false =>
        rw [letPass_of_not_wasRaised hraised]
        intro p t ht
        rw [Std.HashMap.getElem?_insert] at ht
        split at ht
        · cases ht
          exact hnow
        · exact h p t ht
  admitted {e now} owner cause _ _ := by
    cases hraised : e.wasRaised now owner cause with
    | true => rw [letPass_of_wasRaised hraised]; rfl
    | false => rw [letPass_of_not_wasRaised hraised]; rfl
  wasRaised {e now later} owner cause owner' cause' _ _ _ _ := by
    cases hraised : e.wasRaised now owner cause with
    | true => simp [letPass_of_wasRaised hraised]
    | false =>
        rw [letPass_of_not_wasRaised hraised, wasRaised_eq, wasRaised_eq,
          Std.HashMap.getElem?_insert]
        by_cases hp : (owner', cause') = (owner, cause)
        · rw [if_pos (beq_iff_eq.mpr hp.symm), if_pos ⟨hp, rfl⟩]
          rfl
        · rw [if_neg fun h => hp (beq_iff_eq.mp h).symm, if_neg fun h => hp h.1]
          rfl

theorem limits_tryRaise : Limits tryRaise where
  window e now owner cause := by
    rw [tryRaise_eq_letPass, limits_letPass.window, window_purge]
  plain owner cause h hnow := limits_letPass.plain owner cause (plain_purge h) hnow
  admitted {e now} owner cause h hnow := by
    rw [tryRaise_eq_letPass, limits_letPass.admitted owner cause (plain_purge h) hnow,
      wasRaised_purge_self]
  wasRaised {e now later} owner cause owner' cause' h hnow hlater hle := by
    rw [tryRaise_eq_letPass, limits_letPass.wasRaised _ _ _ _ (plain_purge h) hnow hlater hle,
      wasRaised_purge_self, wasRaised_purge h hnow hlater hle, isRecent_purge]

end Telemetry.Exceptions
