import Telemetry.Proofs.Time.Calendar
import Telemetry.Proofs.Time.Order
import Telemetry.Time.Fields

/-!
# What fields determine

Fields that were set one after the other are bounded: no part of a time of day is greater than a
clock shows it (`Fields.Keeps`). From bounded fields follows a local time within the calendar
(`Fields.Bounded.localTime?`), and so every instant that they determine is.
-/

namespace Telemetry

namespace Instant

def InCalendar (i : Instant) : Prop :=
  leastSeconds ≤ i.seconds ∧ i.seconds ≤ greatestSeconds ∧ i.nanos < 2 * nanosPerSecond

instance (i : Instant) : Decidable i.InCalendar := inferInstanceAs (Decidable (_ ∧ _))

theorem InCalendar.ofParts?_eq {i : Instant} (h : i.InCalendar) :
    ofParts? i.seconds i.nanos = some i :=
  ofParts?_eq_some_iff.mpr ⟨h, rfl⟩

theorem inCalendar_of_ofParts? {i : Instant} {seconds : Int} {nanos : Nat}
    (h : ofParts? seconds nanos = some i) : i.InCalendar := by
  obtain ⟨hparts, rfl⟩ := ofParts?_eq_some_iff.mp h
  exact hparts

end Instant

namespace Fields

/-! ## Setters -/

structure Bounded (f : Fields) : Prop where
  half : ∀ n ∈ f.half, n ≤ 1
  hourOfHalf : ∀ n ∈ f.hourOfHalf, n < 12
  minute : ∀ n ∈ f.minute, n < 60
  second : ∀ n ∈ f.second, n ≤ 60
  nanos : ∀ n ∈ f.nanos, n < Instant.nanosPerSecond

theorem bounded_empty : empty.Bounded := ⟨nofun, nofun, nofun, nofun, nofun⟩

def Keeps (set? : Fields → Int → Option Fields) : Prop :=
  ∀ ⦃f f' : Fields⦄ ⦃n : Int⦄, f.Bounded → set? f n = some f' → f'.Bounded

theorem eq_of_agreed? {α : Type} [DecidableEq α] {old x : Option α} {new : α}
    (h : agreed? old new = some x) : x = some new := by
  unfold agreed? at h
  split at h
  · exact (Option.some.inj h).symm
  · split at h
    · subst_vars
      exact (Option.some.inj h).symm
    · cases h

theorem le_of_limited? {least most : Int} {old x : Option Nat} {n : Int}
    (h : limited? least most old n = some x) : ∀ k ∈ x, k ≤ most.toNat := by
  simp only [limited?, Option.ite_none_right_eq_some] at h
  obtain ⟨⟨-, hmost⟩, h⟩ := h
  intro k hk
  cases (eq_of_agreed? h).symm.trans hk
  omega

namespace Setters

theorem keeps_half : Keeps half := by
  intro f f' n hf h
  obtain ⟨x, hx, rfl⟩ := Option.map_eq_some_iff.mp h
  exact ⟨le_of_limited? hx, hf.hourOfHalf, hf.minute, hf.second, hf.nanos⟩

theorem keeps_minute : Keeps minute := by
  intro f f' n hf h
  obtain ⟨x, hx, rfl⟩ := Option.map_eq_some_iff.mp h
  exact ⟨hf.half, hf.hourOfHalf, fun k hk => Nat.lt_succ_of_le (le_of_limited? hx k hk), hf.second,
    hf.nanos⟩

theorem keeps_second : Keeps second := by
  intro f f' n hf h
  obtain ⟨x, hx, rfl⟩ := Option.map_eq_some_iff.mp h
  exact ⟨hf.half, hf.hourOfHalf, hf.minute, le_of_limited? hx, hf.nanos⟩

theorem keeps_nanos : Keeps nanos := by
  intro f f' n hf h
  obtain ⟨x, hx, rfl⟩ := Option.map_eq_some_iff.mp h
  exact ⟨hf.half, hf.hourOfHalf, hf.minute, hf.second,
    fun k hk => Nat.lt_succ_of_le (le_of_limited? hx k hk)⟩

theorem bounded_of_agreed? {f : Fields} {n : Int} {x : Option Nat} (hf : f.Bounded)
    (h : agreed? f.hourOfHalf (n % 12).toNat = some x) : { f with hourOfHalf := x }.Bounded := by
  refine ⟨hf.half, fun k hk => ?_, hf.minute, hf.second, hf.nanos⟩
  cases (eq_of_agreed? h).symm.trans hk
  omega

theorem keeps_hour12 : Keeps hour12 := by
  intro f f' n hf h
  obtain ⟨-, h⟩ := Option.ite_none_right_eq_some.mp h
  obtain ⟨x, hx, rfl⟩ := Option.map_eq_some_iff.mp h
  exact bounded_of_agreed? hf hx

theorem keeps_hour : Keeps hour := by
  intro f f' n hf h
  obtain ⟨-, h⟩ := Option.ite_none_left_eq_some.mp h
  obtain ⟨f₁, h₁, h⟩ := Option.bind_eq_some_iff.mp h
  obtain ⟨x, hx, rfl⟩ := Option.map_eq_some_iff.mp h
  exact bounded_of_agreed? (keeps_half hf h₁) hx

/-- Only these setters set a part of a time of day. -/
theorem keeps_others : ∀ set? ∈ [Setters.year, Setters.century, Setters.yearOfCentury,
    Setters.isoYear, Setters.isoYearOfCentury, Setters.quarter, Setters.month, Setters.day,
    Setters.weekFromSunday, Setters.weekFromMonday, Setters.isoWeek, Setters.weekday,
    Setters.ordinal, Setters.timestamp, Setters.offset], Keeps set? := by
  intro set? h f f' n hf heq
  simp only [List.mem_cons, List.not_mem_nil, or_false] at h
  rcases h with rfl | rfl | rfl | rfl | rfl | rfl | rfl | rfl | rfl | rfl | rfl | rfl | rfl | rfl |
    rfl
  all_goals
    simp only [Setters.year, century, yearOfCentury, Setters.isoYear, isoYearOfCentury,
      Setters.quarter, Setters.month, Setters.day, Setters.weekFromSunday, Setters.weekFromMonday,
      Setters.isoWeek, Setters.weekday, Setters.ordinal, Setters.timestamp, Setters.offset,
      Option.ite_none_right_eq_some, Option.map_eq_some_iff] at heq
    obtain ⟨_, _, _, rfl⟩ := heq
    exact ⟨hf.half, hf.hourOfHalf, hf.minute, hf.second, hf.nanos⟩

theorem keeps_weekday : Keeps weekday := keeps_others _ (by simp)

theorem keeps_month : Keeps Setters.month := keeps_others _ (by simp)

theorem keeps_year : Keeps Setters.year := keeps_others _ (by simp)

theorem keeps_ordinal : Keeps Setters.ordinal := keeps_others _ (by simp)

theorem keeps_offset : Keeps Setters.offset := keeps_others _ (by simp)

theorem keeps_daysFromSunday : Keeps daysFromSunday := by
  intro f f' n hf h
  exact keeps_weekday hf (Option.ite_none_right_eq_some.mp h).2

theorem keeps_numberFromMonday : Keeps numberFromMonday := fun _ _ _ hf h =>
  keeps_weekday hf h

end Setters

/-! ## What follows from the fields -/

variable {f : Fields}

theorem Bounded.time {t : Nat × Nat} (hf : f.Bounded) (h : f.time = .ok t) :
    t.1 < 86400 ∧ t.2 < 2 * Instant.nanosPerSecond := by
  have hnanos : f.nanos.getD 0 < Instant.nanosPerSecond := by
    cases hn : f.nanos with
    | none => decide
    | some n => exact hf.nanos n hn
  have hsecond : f.second.getD 0 ≤ 60 := by
    cases hs : f.second with
    | none => decide
    | some s => exact hf.second s hs
  unfold Fields.time at h
  split at h
  · rename_i half hour minute hhalf hhour hminute
    have := hf.half half hhalf
    have := hf.hourOfHalf hour hhour
    have := hf.minute minute hminute
    have hleap : ∀ {second leap : Nat}, second < 60 → leap ≤ Instant.nanosPerSecond →
        t = ((half * 12 + hour) * 3600 + minute * 60 + second, leap + f.nanos.getD 0) →
        t.1 < 86400 ∧ t.2 < 2 * Instant.nanosPerSecond := by
      rintro second leap hlt hle rfl
      dsimp only
      omega
    split at h
    rename_i second leap hsecond'
    split at h
    · cases h
    · cases h
      split at hsecond'
      · cases hsecond'
        exact hleap (by decide) (Nat.le_refl _) rfl
      · cases hsecond'
        rename_i hne
        exact hleap (Nat.lt_of_le_of_ne hsecond hne) (Nat.zero_le _) rfl
  · cases h

theorem isDated_of_ofWeek? {year n : Int} {week weekday first : Nat}
    (h : ofWeek? year week weekday first = some n) : Calendar.IsDated n := by
  unfold ofWeek? at h
  split at h
  · cases h
  · exact Calendar.isDated_of_ofOrdinal? (Option.ite_none_left_eq_some.mp h).2

/-- A day that is found and agrees with the other fields. -/
theorem found_of_checked {found : Option Int} {p : Int → Bool} {n : Int}
    (h : (match found with
      | none => throw .contradictory
      | some n => if p n = true then .ok n else throw .contradictory : Except FieldFault Int) =
        .ok n) : found = some n := by
  split at h
  · cases h
  · split at h
    · cases h
      rfl
    · cases h

theorem isDated_of_date {n : Int} (h : f.date = .ok n) : Calendar.IsDated n := by
  simp only [Fields.date, bind, Except.bind, pure, Except.pure] at h
  split at h
  · cases h
  split at h
  · cases h
  split at h
  · exact Calendar.isDated_of_ofDate? (found_of_checked h)
  · exact Calendar.isDated_of_ofOrdinal? (found_of_checked h)
  · exact isDated_of_ofWeek? (found_of_checked h)
  · exact isDated_of_ofWeek? (found_of_checked h)
  · exact Calendar.isDated_of_ofIsoWeek? (found_of_checked h)
  · cases h

theorem inCalendar_localOf {n : Int} {t : Nat × Nat} (hn : Calendar.IsDated n)
    (ht : t.1 < 86400 ∧ t.2 < 2 * Instant.nanosPerSecond) : (localOf n t).InCalendar := by
  obtain ⟨hfirst, hlast⟩ := hn
  rw [show Calendar.yearStart Calendar.firstYear = -96465292 from rfl] at hfirst
  rw [show Calendar.yearStart (Calendar.lastYear + 1) = 95026237 from rfl] at hlast
  simp only [localOf, Instant.InCalendar, Instant.leastSeconds, Instant.greatestSeconds]
  omega

theorem Bounded.withTimestamp? {seconds : Int} {f' : Fields} (hf : f.Bounded)
    (h : f.withTimestamp? seconds = some f') : f'.Bounded := by
  simp only [Fields.withTimestamp?, Option.bind_eq_bind, Option.bind_eq_some_iff] at h
  obtain ⟨_, -, h⟩ := h
  obtain ⟨-, h⟩ := Option.ite_none_left_eq_some.mp h
  have hrest : ∀ {f₁ : Fields} {year ordinal hour minute : Int}, f₁.Bounded →
      (((Setters.year f₁ year).bind fun f => (Setters.ordinal f ordinal).bind fun f =>
        (Setters.hour f hour).bind fun f => Setters.minute f minute) = some f') → f'.Bounded := by
    intro f₁ year ordinal hour minute h₁ h
    simp only [Option.bind_eq_some_iff] at h
    obtain ⟨f₂, hyear, f₃, hordinal, f₄, hhour, hminute⟩ := h
    have h₂ := Setters.keeps_year h₁ hyear
    have h₃ := Setters.keeps_ordinal h₂ hordinal
    have h₄ := Setters.keeps_hour h₃ hhour
    exact Setters.keeps_minute h₄ hminute
  split at h
  · exact hrest hf h
  · obtain ⟨f₁, hsecond, h⟩ := Option.bind_eq_some_iff.mp h
    exact hrest (Setters.keeps_second hf hsecond) h

theorem Bounded.localTime? {offset : Int} {i : Instant} (hf : f.Bounded)
    (h : f.localTime? offset = some i) : i.InCalendar := by
  unfold Fields.localTime? at h
  split at h
  · rename_i day time given hdate htime
    have hlocal := inCalendar_localOf (isDated_of_date hdate) (hf.time htime)
    split at h
    · cases (Option.ite_none_right_eq_some.mp h).2
      exact hlocal
    · cases h
      exact hlocal
  · cases h
  · cases h
  · cases h
  · simp only [Option.bind_eq_bind, Option.bind_eq_some_iff] at h
    obtain ⟨f', hf', h⟩ := h
    split at h
    · rename_i hdate htime
      cases h
      exact inCalendar_localOf (isDated_of_date hdate) ((hf.withTimestamp? hf').time htime)
    · cases h

theorem inCalendar_of_instant? {i : Instant} (h : f.instant? = some i) :
    i.InCalendar := by
  simp only [instant?, Option.bind_eq_bind, Option.bind_eq_some_iff,
    Option.ite_none_right_eq_some] at h
  obtain ⟨_, _, _, _, _, h⟩ := h
  exact Instant.inCalendar_of_ofParts? h

end Fields

end Telemetry
