import Telemetry.Proofs.Exceptions.Window

/-!
# Limiting and the history of failures

A failure is let through if and only if none of the same owner and cause was let through within the
window. The full history of what was let through since the last reset says which that are
(`Exceptions.History`); the limiter keeps only the last time of each pair, and forgets old ones when
it keeps very many. Outside leap seconds nobody can tell the difference (`answers_eq_history`).

During a leap second the seconds stand still, and the time since an instant in it counts it only
until midnight. So that time shrinks as the clock goes on past midnight, and what was forgotten as
too old would be recent again (`forgotten_in_leap_second`).
-/

namespace Telemetry.Exceptions

/-- What a limiter is asked. -/
inductive Call
  /-- May the failure pass? -/
  | raise (owner cause : String)
  /-- Would it be held back? -/
  | ask (owner cause : String)
  | reset
  deriving DecidableEq

structure Use where
  now : Instant
  call : Call
  deriving DecidableEq

def answers {σ : Type} (handle : σ → Use → Option Bool × σ) :
    σ → List Use → List (Option Bool) × σ
  | s, [] => ([], s)
  | s, u :: rest =>
    let (answer, s) := handle s u
    let (more, s) := answers handle s rest
    (answer :: more, s)

theorem answers_append {σ : Type} (handle : σ → Use → Option Bool × σ) (s : σ)
    (uses more : List Use) :
    answers handle s (uses ++ more) =
      ((answers handle s uses).1 ++ (answers handle (answers handle s uses).2 more).1,
        (answers handle (answers handle s uses).2 more).2) := by
  induction uses generalizing s with
  | nil => rfl
  | cons u rest ih => simp only [List.cons_append, answers, ih]

theorem getLast?_answers {σ : Type} (handle : σ → Use → Option Bool × σ) (s : σ)
    (uses : List Use) (u v : Use) :
    (answers handle s (uses ++ [u, v])).1.getLast? =
      some (handle (handle (answers handle s uses).2 u).2 v).1 := by
  simp [answers_append, answers]

def handleBy (raise : Exceptions → Instant → String → String → Bool × Exceptions)
    (e : Exceptions) (u : Use) : Option Bool × Exceptions :=
  match u.call with
  | .raise owner cause =>
    let (admitted, e) := raise e u.now owner cause
    (some admitted, e)
  | .ask owner cause => (some (e.wasRaised u.now owner cause), e)
  | .reset => (none, e.reset)

/-! ## The full history -/

structure Admission where
  owner : String
  cause : String
  time : Instant

/-- The failures let through since the last reset. -/
abbrev History := List Admission

namespace History

/-- Whether one of the same owner and cause was let through less than a window ago. -/
def holds (window : Duration) (h : History) (now : Instant) (owner cause : String) : Bool :=
  h.any fun a => (a.owner = owner ∧ a.cause = cause) && now.minus a.time < window.nanos

/-- Answers a call from the history: a failure passes unless the history holds it back, and then it
is added. -/
def handle (window : Duration) (h : History) (u : Use) : Option Bool × History :=
  match u.call with
  | .raise owner cause =>
    if h.holds window u.now owner cause then (some false, h)
    else (some true, ⟨owner, cause, u.now⟩ :: h)
  | .ask owner cause => (some (h.holds window u.now owner cause), h)
  | .reset => (none, [])

end History

variable {e : Exceptions} {h : History} {now later : Instant} {window : Duration} {u : Use}
  {uses : List Use} {owner cause : String}
  {pass : Exceptions → Instant → String → String → Bool × Exceptions}

/-! ## What the history holds back -/

theorem History.holds_iff : h.holds window now owner cause = true ↔
    ∃ a ∈ h, (a.owner = owner ∧ a.cause = cause) ∧ now.minus a.time < window.nanos := by
  simp [holds]

theorem History.holds_cons {a : Admission} : holds window (a :: h) now owner cause =
    (((a.owner = owner ∧ a.cause = cause) && now.minus a.time < window.nanos) ||
      h.holds window now owner cause) := by
  simp [holds]

/-- What the history does not hold back, it does not hold back later. -/
theorem History.holds_later (hh : ∀ a ∈ h, a.time.isLeap = false) (hnow : now.isLeap = false)
    (hlater : later.isLeap = false) (hle : later.before now = false)
    (hno : h.holds window now owner cause = false) :
    h.holds window later owner cause = false := by
  rw [Bool.eq_false_iff, ne_eq, holds_iff] at hno ⊢
  rintro ⟨a, ha, hpair, hrecent⟩
  have hminus := Instant.minus_le_minus (hh a ha) hnow hlater hle
  exact hno ⟨a, ha, hpair, by omega⟩

/-- Only a reset takes something out of the history. -/
theorem History.mem_handle {a : Admission} (ha : a ∈ h) (hno : u.call ≠ .reset) :
    a ∈ (h.handle window u).2 := by
  unfold History.handle
  cases hcall : u.call with
  | raise owner cause =>
      dsimp only
      split
      · exact ha
      · exact List.mem_cons_of_mem _ ha
  | ask owner cause => exact ha
  | reset => exact absurd hcall hno

theorem History.mem_answers {a : Admission} (ha : a ∈ h) (hno : ∀ u ∈ uses, u.call ≠ .reset) :
    a ∈ (answers (History.handle window) h uses).2 := by
  induction uses generalizing h with
  | nil => exact ha
  | cons u rest ih =>
      obtain ⟨hu, hrest⟩ := List.forall_mem_cons.mp hno
      exact ih (mem_handle ha hu) hrest

/-- The first failure of all is let through, and stays in the history. -/
theorem History.first_mem (hfirst : uses.head? = some ⟨now, .raise owner cause⟩)
    (hno : ∀ u ∈ uses, u.call ≠ .reset) :
    ⟨owner, cause, now⟩ ∈ (answers (History.handle window) [] uses).2 := by
  cases uses with
  | nil => cases hfirst
  | cons u rest =>
      cases hfirst
      have hadmitted : (⟨owner, cause, now⟩ : Admission) ∈
          (handle window [] ⟨now, .raise owner cause⟩).2 := List.mem_cons_self
      exact mem_answers (h := [⟨owner, cause, now⟩]) hadmitted (List.forall_mem_cons.mp hno).2

theorem handleBy_ask : handleBy pass e ⟨now, .ask owner cause⟩ =
    (some (e.wasRaised now owner cause), e) := rfl

theorem History.handle_ask : h.handle window ⟨now, .ask owner cause⟩ =
    (some (h.holds window now owner cause), h) := rfl

/-! ## What the limiter remembers -/

theorem window_handleBy (hpass : Limits pass) (e : Exceptions) (u : Use) :
    (handleBy pass e u).2.window = e.window := by
  unfold handleBy
  cases u.call with
  | raise owner cause => exact hpass.window e u.now owner cause
  | ask owner cause => rfl
  | reset => rfl

theorem window_answers (hpass : Limits pass) (e : Exceptions) (uses : List Use) :
    (answers (handleBy pass) e uses).2.window = e.window := by
  induction uses generalizing e with
  | nil => rfl
  | cons u rest ih => exact (ih _).trans (window_handleBy hpass e u)

theorem time_tryRaise {p : String × String} {t : Instant}
    (ht : (e.tryRaise now owner cause).2.raised[p]? = some t) :
    e.raised[p]? = some t ∨ t = now := by
  have hkept (hp : (e.purge now).raised[p]? = some t) : e.raised[p]? = some t := by
    rcases getElem?_purge e now p with hall | hrecent
    · exact hall ▸ hp
    · exact (Option.filter_eq_some_iff.mp (hrecent ▸ hp)).1
  rw [tryRaise_eq_letPass] at ht
  cases hraised : (e.purge now).wasRaised now owner cause with
  | true =>
      rw [letPass_of_wasRaised hraised] at ht
      exact .inl (hkept ht)
  | false =>
      rw [letPass_of_not_wasRaised hraised, Std.HashMap.getElem?_insert] at ht
      split at ht
      · exact .inr (Option.some.inj ht).symm
      · exact .inl (hkept ht)

theorem time_handleBy {p : String × String} {t : Instant}
    (ht : (handleBy tryRaise e u).2.raised[p]? = some t) :
    e.raised[p]? = some t ∨ t = u.now := by
  unfold handleBy at ht
  cases hcall : u.call with
  | raise owner cause =>
      rw [hcall] at ht
      exact time_tryRaise ht
  | ask owner cause =>
      rw [hcall] at ht
      exact .inl ht
  | reset =>
      rw [hcall] at ht
      simp [reset, ofWindow] at ht

/-- What is remembered was let through when the clock showed that time. -/
theorem time_answers {p : String × String} {t : Instant}
    (ht : (answers (handleBy tryRaise) e uses).2.raised[p]? = some t) :
    e.raised[p]? = some t ∨ ∃ u ∈ uses, u.now = t := by
  induction uses generalizing e with
  | nil => exact .inl ht
  | cons u rest ih =>
      rcases ih ht with hfirst | ⟨v, hv, rfl⟩
      · rcases time_handleBy hfirst with hbefore | rfl
        · exact .inl hbefore
        · exact .inr ⟨u, List.mem_cons_self, rfl⟩
      · exact .inr ⟨v, List.mem_cons_of_mem u hv, rfl⟩

def together (t : Instant) (cause : String) (owners : List String) : List Use :=
  owners.map fun owner => ⟨t, .raise owner cause⟩

/-- A new pair is added to those before it, as long as they are few. -/
theorem tryRaise_of_fresh (hsize : e.size ≤ purgeThreshold) (hnew : (owner, cause) ∉ e.raised) :
    e.tryRaise now owner cause = (true, ⟨e.window, e.raised.insert (owner, cause) now⟩) := by
  have hpurge : e.purge now = e := if_neg (by omega)
  have hraised : e.wasRaised now owner cause = false := by
    rw [wasRaised_eq, Std.HashMap.getElem?_eq_none hnew]
    rfl
  rw [tryRaise_eq_letPass, hpurge, letPass_of_not_wasRaised hraised]

/-- Failures of different owners are all kept, until one more comes than are kept without need. -/
theorem size_together {owners : List String} (hnodup : owners.Nodup)
    (hfresh : ∀ owner ∈ owners, (owner, cause) ∉ e.raised)
    (hsize : e.size + owners.length ≤ purgeThreshold + 1) :
    (answers (handleBy tryRaise) e (together now cause owners)).2.size =
      e.size + owners.length := by
  induction owners generalizing e with
  | nil => rfl
  | cons owner rest ih =>
      obtain ⟨hnotMem, hnodup⟩ := List.nodup_cons.mp hnodup
      obtain ⟨hnew, hfresh⟩ := List.forall_mem_cons.mp hfresh
      rw [List.length_cons] at hsize ⊢
      have hstep : e.tryRaise now owner cause =
          (true, ⟨e.window, e.raised.insert (owner, cause) now⟩) :=
        tryRaise_of_fresh (by omega) hnew
      have hgrown : (e.tryRaise now owner cause).2.size = e.size + 1 := by
        rw [hstep, size, Std.HashMap.size_insert, if_neg hnew]
        rfl
      have hstill : ∀ other ∈ rest, (other, cause) ∉ (e.tryRaise now owner cause).2.raised := by
        intro other hother hmem
        rw [hstep, Std.HashMap.mem_insert, beq_iff_eq, Prod.mk.injEq] at hmem
        rcases hmem with ⟨rfl, -⟩ | hmem
        · exact hnotMem hother
        · exact hfresh other hother hmem
      have hmore := ih hnodup hstill (by rw [hgrown]; omega)
      calc (answers (handleBy tryRaise) (e.tryRaise now owner cause).2
            (together now cause rest)).2.size
          = (e.tryRaise now owner cause).2.size + rest.length := hmore
        _ = e.size + (rest.length + 1) := by rw [hgrown]; omega

theorem toString_injective : Function.Injective (toString : Nat → String) := by
  intro m n h
  have hdigits : m.repr.toList = n.repr.toList := congrArg String.toList h
  rw [Nat.repr_eq_ofList_toDigits, Nat.repr_eq_ofList_toDigits, String.toList_ofList,
    String.toList_ofList] at hdigits
  rw [← @Nat.ofDigitChars_ten_toDigits m, hdigits, Nat.ofDigitChars_ten_toDigits]

theorem size_together_range {n : Nat} (hn : n ≤ purgeThreshold + 1) :
    (answers (handleBy tryRaise) (ofWindow window)
      (together now cause ((List.range n).map toString))).2.size = n := by
  have hnodup : ((List.range n).map toString).Nodup :=
    List.Pairwise.map toString (fun m n hne heq => hne (toString_injective heq)) List.nodup_range
  have hempty : (ofWindow window).size = 0 := by simp [size, ofWindow]
  rw [size_together hnodup (by simp [ofWindow]) (by simpa [hempty] using hn), hempty]
  simp

/-- When there is too much to remember and all of it is old, all of it is forgotten. -/
theorem wasRaised_tryRaise_of_old {p : String × String} (hsize : purgeThreshold < e.size)
    (hold : ∀ (p : String × String) (t : Instant), e.raised[p]? = some t → e.isRecent now t = false)
    (hother : p ≠ (owner, cause)) :
    (e.tryRaise now owner cause).2.wasRaised later p.1 p.2 = false := by
  have hnone : (e.purge now).raised[p]? = none := by
    rw [purge, if_pos hsize, Std.HashMap.getElem?_filter', Option.filter_eq_none_iff]
    intro t ht
    simpa using hold p t ht
  rw [tryRaise_eq_letPass]
  cases hraised : (e.purge now).wasRaised now owner cause with
  | true => rw [letPass_of_wasRaised hraised, wasRaised_eq, hnone]; rfl
  | false =>
      rw [letPass_of_not_wasRaised hraised, wasRaised_eq, Std.HashMap.getElem?_insert,
        if_neg fun heq => hother (beq_iff_eq.mp heq).symm, hnone]
      rfl

/-! ## The limiter and the history -/

/-- From a time on, the limiter holds back what the history holds back. -/
structure Agrees (e : Exceptions) (h : History) (now : Instant) : Prop where
  plain : e.Plain
  not_leap : ∀ a ∈ h, a.time.isLeap = false
  holds : ∀ later : Instant, later.isLeap = false → later.before now = false →
    ∀ owner cause, e.wasRaised later owner cause = h.holds e.window later owner cause

theorem agrees_ofWindow (window : Duration) (now : Instant) : Agrees (ofWindow window) [] now where
  plain := plain_ofWindow window
  not_leap := by simp
  holds later _ _ owner cause := wasRaised_ofWindow window

theorem Agrees.mono (hagrees : Agrees e h now) (hle : later.before now = false) :
    Agrees e h later where
  plain := hagrees.plain
  not_leap := hagrees.not_leap
  holds t ht htle := hagrees.holds t ht (Instant.not_before_trans hle htle)

/-- A failure that is let through makes the pair of its owner and cause held back by both, and only
that pair: nothing else was forgotten that is recent. -/
theorem Agrees.raised (hpass : Limits pass) (hagrees : Agrees e h now) (hnow : now.isLeap = false)
    (hraised : e.wasRaised now owner cause = false) :
    Agrees (pass e now owner cause).2 (⟨owner, cause, now⟩ :: h) now where
  plain := hpass.plain owner cause hagrees.plain hnow
  not_leap := by simpa using ⟨hnow, hagrees.not_leap⟩
  holds later hlater hle owner' cause' := by
    have hno : h.holds e.window now owner cause = false := by
      rw [← hagrees.holds now hnow (Instant.before_irrefl now), hraised]
    rw [hpass.wasRaised owner cause owner' cause' hagrees.plain hnow hlater hle, hpass.window,
      History.holds_cons, ← hagrees.holds later hlater hle]
    by_cases hpair : owner = owner' ∧ cause = cause'
    · obtain ⟨rfl, rfl⟩ := hpair
      rw [hagrees.holds later hlater hle,
        History.holds_later hagrees.not_leap hnow hlater hle hno]
      simp [hraised, isRecent]
    · rw [if_neg fun h => hpair (Prod.mk.inj h.1.symm)]
      simp [hpair]

/-- A failure that is held back changes nothing. -/
theorem Agrees.held (hpass : Limits pass) (hagrees : Agrees e h now) (hnow : now.isLeap = false)
    (hraised : e.wasRaised now owner cause = true) :
    Agrees (pass e now owner cause).2 h now where
  plain := hpass.plain owner cause hagrees.plain hnow
  not_leap := hagrees.not_leap
  holds later hlater hle owner' cause' := by
    rw [hpass.wasRaised owner cause owner' cause' hagrees.plain hnow hlater hle, hpass.window,
      if_neg (by simp [hraised])]
    exact hagrees.holds later hlater hle owner' cause'

/-- Limiter and history answer a call alike, and agree again after it. -/
theorem Agrees.handle (hpass : Limits pass) (hagrees : Agrees e h u.now)
    (hnow : u.now.isLeap = false) :
    (handleBy pass e u).1 = (h.handle e.window u).1 ∧
      Agrees (handleBy pass e u).2 (h.handle e.window u).2 u.now := by
  have hholds := hagrees.holds u.now hnow (Instant.before_irrefl u.now)
  unfold handleBy History.handle
  cases u.call with
  | raise owner cause =>
      dsimp only
      rw [hpass.admitted owner cause hagrees.plain hnow, ← hholds]
      cases hraised : e.wasRaised u.now owner cause with
      | true => exact ⟨rfl, hagrees.held hpass hnow hraised⟩
      | false => exact ⟨rfl, hagrees.raised hpass hnow hraised⟩
  | ask owner cause => exact ⟨congrArg some (hholds owner cause), hagrees⟩
  | reset => exact ⟨rfl, agrees_ofWindow e.window u.now⟩

/-- The answers of a limiter that agrees with a history are those of the history. -/
theorem Agrees.answers (hpass : Limits pass) (hagrees : Agrees e h now)
    (hsteady : Instant.Steady (uses.map Use.now))
    (hfrom : ∀ t ∈ uses.map Use.now, t.before now = false) :
    (answers (handleBy pass) e uses).1 = (answers (History.handle e.window) h uses).1 := by
  induction uses generalizing e h now with
  | nil => rfl
  | cons u rest ih =>
      obtain ⟨hleap, hle, hrest⟩ := Instant.steady_cons.mp hsteady
      obtain ⟨hanswer, hnext⟩ := (hagrees.mono (hfrom u.now List.mem_cons_self)).handle hpass hleap
      have hmore := ih hnext hrest hle
      rw [window_handleBy hpass] at hmore
      simp only [Exceptions.answers, hanswer, hmore]

theorem Limits.answers_eq (hpass : Limits pass) (window : Duration)
    (h : Instant.Steady (uses.map Use.now)) :
    (answers (handleBy pass) (ofWindow window) uses).1 =
      (answers (History.handle window) [] uses).1 := by
  obtain ⟨start, hstart⟩ := h.exists_start
  exact (agrees_ofWindow window start).answers hpass h hstart

/-- **Outside leap seconds the limiter answers as the full history does**, whatever was asked before
and however often old failures were forgotten; and it answers as if none ever were. -/
theorem answers_eq_history (window : Duration) (uses : List Use)
    (h : Instant.Steady (uses.map Use.now)) :
    (answers (handleBy tryRaise) (ofWindow window) uses).1 =
        (answers (History.handle window) [] uses).1 ∧
      (answers (handleBy tryRaise) (ofWindow window) uses).1 =
        (answers (handleBy letPass) (ofWindow window) uses).1 := by
  have hfull := limits_tryRaise.answers_eq window h
  exact ⟨hfull, hfull.trans (limits_letPass.answers_eq window h).symm⟩

/-- The same failure passes again when the window is over, and is unknown after a reset. -/
theorem answers_outage :
    (answers (handleBy tryRaise) (ofWindow (.ofMilliseconds 10000))
      [⟨⟨0, 0⟩, .raise "schema:s" "no timestamp"⟩,
        ⟨⟨9, 999999999⟩, .raise "schema:s" "no timestamp"⟩,
        ⟨⟨10, 0⟩, .raise "schema:s" "no timestamp"⟩, ⟨⟨10, 0⟩, .reset⟩,
        ⟨⟨11, 0⟩, .ask "schema:s" "no timestamp"⟩]).1 =
      [some true, some false, some true, none, some false] :=
  (answers_eq_history (.ofMilliseconds 10000) _ ⟨by decide, by decide⟩).1.trans (by decide)

/-! ## Over midnight -/

/-- A second and a half after 00:00:59, with a leap second there. -/
def inLeapSecond : Instant := ⟨59, 1500000000⟩

def almostADay : Duration := .ofMilliseconds 86340000

def manyAtOnce : List Use := together inLeapSecond "c" ((List.range 1025).map toString)

/-- 1025 failures in a leap second, one shortly before midnight, and a question at midnight. -/
def overMidnight : List Use :=
  manyAtOnce ++
    [⟨⟨86399, 900000000⟩, .raise "y" "c"⟩, ⟨⟨86400, 0⟩, .ask "0" "c"⟩]

theorem mem_manyAtOnce (hu : u ∈ manyAtOnce) : u.now = inLeapSecond ∧ u.call ≠ .reset := by
  revert u
  simp [manyAtOnce, together]

theorem limiter_overMidnight :
    (answers (handleBy tryRaise) (ofWindow almostADay) overMidnight).1.getLast? =
      some (some false) := by
  have hsize : (answers (handleBy tryRaise) (ofWindow almostADay) manyAtOnce).2.size = 1025 :=
    size_together_range (by decide)
  have htimes : ∀ (p : String × String) (t : Instant),
      (answers (handleBy tryRaise) (ofWindow almostADay) manyAtOnce).2.raised[p]? = some t →
        t = inLeapSecond := by
    intro p t ht
    rcases time_answers ht with hbefore | ⟨u, hu, rfl⟩
    · simp [ofWindow] at hbefore
    · exact (mem_manyAtOnce hu).1
  have hwindow := window_answers limits_tryRaise (ofWindow almostADay) manyAtOnce
  rw [overMidnight, getLast?_answers]
  -- only these three facts about the failures in the leap second count
  generalize manyAtOnce = many at *
  generalize (answers (handleBy tryRaise) (ofWindow almostADay) many).2 = e at *
  have hforgotten : (e.tryRaise ⟨86399, 900000000⟩ "y" "c").2.wasRaised ⟨86400, 0⟩ "0" "c" =
      false := by
    refine wasRaised_tryRaise_of_old (p := ("0", "c")) (by rw [hsize]; decide) ?_ (by decide)
    intro p t ht
    rw [htimes p t ht, isRecent, hwindow]
    decide
  rw [handleBy_ask]
  exact congrArg (some ∘ some) hforgotten

theorem history_overMidnight :
    (answers (History.handle almostADay) [] overMidnight).1.getLast? = some (some true) := by
  have hhead : manyAtOnce.head? = some ⟨inLeapSecond, .raise "0" "c"⟩ := by
    rw [manyAtOnce, together, List.head?_map, List.head?_map, List.head?_range]
    rfl
  have hfirst : ⟨"0", "c", inLeapSecond⟩ ∈
      (answers (History.handle almostADay) [] manyAtOnce).2 :=
    History.first_mem hhead fun u hu => (mem_manyAtOnce hu).2
  rw [overMidnight, getLast?_answers]
  generalize manyAtOnce = many at *
  generalize (answers (History.handle almostADay) [] many).2 = h at *
  have hkept : ⟨"0", "c", inLeapSecond⟩ ∈
      (h.handle almostADay ⟨⟨86399, 900000000⟩, .raise "y" "c"⟩).2 :=
    History.mem_handle hfirst (by decide)
  have hheld : ((h.handle almostADay ⟨⟨86399, 900000000⟩, .raise "y" "c"⟩).2).holds almostADay
      ⟨86400, 0⟩ "0" "c" = true :=
    History.holds_iff.mpr ⟨_, hkept, by decide⟩
  rw [History.handle_ask, hheld]

/-- Over midnight after a leap second the clock never goes back, but what was forgotten before
midnight would have been recent after it: the history holds back what the limiter does not. -/
theorem forgotten_in_leap_second :
    (overMidnight.Pairwise fun u u' => u'.now.before u.now = false) ∧
      (answers (handleBy tryRaise) (ofWindow almostADay) overMidnight).1.getLast? =
        some (some false) ∧
      (answers (History.handle almostADay) [] overMidnight).1.getLast? = some (some true) := by
  refine ⟨?_, limiter_overMidnight, history_overMidnight⟩
  rw [overMidnight, List.pairwise_append]
  refine ⟨List.pairwise_of_forall_mem_list fun u hu v hv => ?_, by decide, fun u hu v hv => ?_⟩
  · rw [(mem_manyAtOnce hu).1, (mem_manyAtOnce hv).1]
    decide
  · rw [(mem_manyAtOnce hu).1]
    revert v
    decide

end Telemetry.Exceptions
