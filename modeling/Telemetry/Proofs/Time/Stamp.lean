import Telemetry.Proofs.Time.Fields
import Telemetry.Proofs.Time.Reading

/-!
# Stored stamps

Every instant of the calendar is read from its stored stamp (`Instant.ofStored?_stored`), and it
is the instant that was written, unless it is a leap second in the middle of a minute, whose stamp
names the second after it (`Instant.ofStored?_stored_eq_self`).
-/

namespace Telemetry

open TimePattern

namespace Instant

/-- The instant that the stamp of an instant names: a leap second that does not end a minute has
the stamp of the second after it. -/
def named (i : Instant) : Instant :=
  if i.isLeap ∧ i.seconds % 60 ≠ 59 then ⟨i.seconds + 1, i.nanos - nanosPerSecond⟩ else i

theorem named_eq_self {i : Instant} : i.named = i ↔ (i.isLeap → i.seconds % 60 = 59) := by
  rw [named]
  split
  · rename_i h
    refine iff_of_false (fun heq => ?_) (fun hend => h.2 (hend h.1))
    have := congrArg seconds heq
    simp only at this
    omega
  · rename_i h
    exact iff_of_true rfl fun hleap => Decidable.not_not.mp fun hend => h ⟨hleap, hend⟩

theorem InCalendar.named {i : Instant} (h : i.InCalendar) : i.named.InCalendar := by
  unfold Instant.named
  split
  · simp only [InCalendar, leastSeconds, greatestSeconds] at *
    omega
  · exact h

end Instant

theorem Fields.date_of_parts {f : Fields} {year n : Int} {month day : Nat}
    (hyear : Fields.yearOf f.year = .ok (some year)) (hiso : Fields.yearOf f.isoYear = .ok none)
    (hmonth : f.month = some month) (hday : f.day = some day)
    (hn : Calendar.ofDate? year month day = some n)
    (hagrees : (f.agreesDate n && f.agreesIsoWeek n && f.agreesOrdinal n && f.agreesQuarter n) =
      true) : f.date = .ok n := by
  obtain ⟨_, _, _, _, _, _, _, _, _, _, _, _, _, _, _, _, _⟩ := f
  subst hmonth hday
  rw [Fields.date, hyear, hiso]
  simp only [bind, Except.bind, pure, Except.pure, hn, hagrees, if_true]

theorem Fields.date_stampFields {n : Int} {hour minute second nanos : Nat}
    (h : Calendar.inRange (Calendar.yearOf n) = true) :
    (stampFields (Calendar.date n).year (Calendar.date n).month (Calendar.date n).day hour minute
      second nanos).date = .ok n := by
  refine date_of_parts rfl rfl rfl rfl (Calendar.ofDate?_date h) ?_
  simp [agreesDate, agreesIsoWeek, agreesOrdinal, agreesQuarter, stampFields, YearField.agrees,
    Fields.agrees, Fields.empty, YearField.none]

/-- Second 60 is the second before it, lengthened. -/
theorem Fields.time_stampFields (year : Int) (month day hour minute second nanos : Nat) :
    (stampFields year month day hour minute second nanos).time =
      .ok (hour * 3600 + minute * 60 + if second = 60 then 59 else second,
        (if second = 60 then Instant.nanosPerSecond else 0) + nanos) := by
  have hhour : hour / 12 * 12 + hour % 12 = hour := by omega
  have hnanos : (if nanos = 0 then none else some nanos : Option Nat).getD 0 = nanos := by
    split <;> simp [*]
  simp only [Fields.time, stampFields, Option.getD_some, hhour, hnanos]
  split <;> simp_all [Instant.nanosPerSecond]

theorem Fields.instant?_stampFields {n : Int} {hour minute second nanos : Nat}
    (h : Calendar.inRange (Calendar.yearOf n) = true) :
    (stampFields (Calendar.date n).year (Calendar.date n).month (Calendar.date n).day hour minute
      second nanos).instant? =
      Instant.ofParts?
        (n * 86400 + (hour * 3600 + minute * 60 + if second = 60 then 59 else second : Nat))
        ((if second = 60 then Instant.nanosPerSecond else 0) + nanos) := by
  rw [Fields.instant?]
  simp only [stampFields, Option.some_or, Option.bind_eq_bind, Option.bind_some]
  rw [← stampFields, Fields.localTime?, date_stampFields h, time_stampFields]
  simp [stampFields, Fields.empty, localOf]

namespace Instant

theorem stored_toList (i : Instant) : i.stored.toList =
    let d := Calendar.date (i.seconds / secondsPerDay)
    let s := i.secondOfDay.toNat
    let leap := if i.isLeap then 1 else 0
    yearChars d.year ++ '-' :: (padded 2 d.month ++ '-' :: (padded 2 d.day ++
      'T' :: (padded 2 (s / 3600) ++ ':' :: (padded 2 (s / 60 % 60) ++
      ':' :: (padded 2 (s % 60 + leap) ++
      (fractionChars (i.nanos - leap * nanosPerSecond) ++ ['Z'])))))) := by
  simp [stored, stamp]

/-- What the text of a day and a time on it is read as. -/
theorem ofStored?_of_toList {s : String} {n : Int} {hour minute second nanos : Nat}
    (h : Calendar.inRange (Calendar.yearOf n) = true) (hhour : hour < 24) (hminute : minute < 60)
    (hsecond : second ≤ 60) (hnanos : nanos < 10 ^ 9)
    (hs : s.toList = yearChars (Calendar.date n).year ++ '-' :: (padded 2 (Calendar.date n).month ++
      '-' :: (padded 2 (Calendar.date n).day ++ 'T' :: (padded 2 hour ++ ':' :: (padded 2 minute ++
      ':' :: (padded 2 second ++ (fractionChars nanos ++ ['Z']))))))) :
    ofStored? s =
      ofParts? (n * 86400 + (hour * 3600 + minute * 60 + if second = 60 then 59 else second : Nat))
        ((if second = 60 then nanosPerSecond else 0) + nanos) := by
  obtain ⟨month, day, hdate, hmonth, hmonth', hday, hday', -⟩ := Calendar.date_spec n
  have hyear : Fields.fits32 (Calendar.yearOf n) = true := by
    have h32 : pow2 (32 - 1) = 2147483648 := rfl
    simp only [Calendar.inRange, Fields.fits32, fitsSigned, Bool.and_eq_true,
      decide_eq_true_eq] at h ⊢
    simp only [Calendar.firstYear, Calendar.lastYear] at h
    omega
  have hread : takeStandard .empty s.toList = some (stampFields (Calendar.date n).year
      (Calendar.date n).month (Calendar.date n).day hour minute second nanos, []) := by
    rw [hs, hdate]
    exact takeStandard_stamp hyear ⟨hmonth, hmonth'⟩
      ⟨hday, Nat.le_trans hday' (Calendar.daysInMonth_le _ _)⟩ hhour hminute hsecond hnanos
  rw [ofStored?, hread]
  exact Fields.instant?_stampFields h

/-- The stored stamp of an instant of the calendar is read. -/
theorem ofStored?_stored {i : Instant} (h : i.InCalendar) : ofStored? i.stored = some i.named := by
  have hrange : Calendar.inRange (Calendar.yearOf (i.seconds / secondsPerDay)) = true := by
    obtain ⟨hleast, hgreatest, -⟩ := h
    simp only [leastSeconds, greatestSeconds, secondsPerDay] at *
    apply Calendar.inRange_yearOf
    constructor
    · rw [show Calendar.yearStart Calendar.firstYear = -96465292 from rfl]
      omega
    · rw [show Calendar.yearStart (Calendar.lastYear + 1) = 95026237 from rfl]
      omega
  have hnamed := h.named.ofParts?_eq
  have hchars := i.stored_toList
  dsimp only at hchars
  obtain ⟨s, hs⟩ : ∃ s, i.secondOfDay.toNat = s := ⟨_, rfl⟩
  have hsum : i.seconds / secondsPerDay * 86400 + s = i.seconds ∧ s < 86400 := by
    rw [← hs, secondOfDay]
    simp only [secondsPerDay]
    omega
  have hminute : i.seconds % 60 = (s % 60 : Nat) := by omega
  rw [hs] at hchars
  -- a leap second that ends its minute is written as second 60, any other as the second after it
  cases hleap : i.isLeap
  · have hnanos : i.nanos < nanosPerSecond :=
      Nat.not_le.mp (by simpa only [isLeap, decide_eq_false_iff_not] using hleap)
    simp only [hleap, Bool.false_eq_true, if_false, Nat.zero_mul, Nat.sub_zero,
      Nat.add_zero] at hchars
    have hseconds : i.seconds / secondsPerDay * 86400 +
        ((s / 3600 * 3600 + s / 60 % 60 * 60 + s % 60 : Nat) : Int) = i.seconds := by
      omega
    rw [named_eq_self.mpr (by simp [hleap])] at hnamed ⊢
    rw [ofStored?_of_toList hrange (by omega) (by omega) (by omega) hnanos hchars,
      if_neg (by omega), if_neg (by omega), hseconds, Nat.zero_add, hnamed]
  · have hnanos : nanosPerSecond ≤ i.nanos := by simpa only [isLeap, decide_eq_true_eq] using hleap
    have hnanos' : i.nanos - nanosPerSecond < 10 ^ 9 :=
      Nat.sub_lt_left_of_lt_add hnanos (Nat.two_mul nanosPerSecond ▸ h.2.2)
    simp only [hleap, if_true, Nat.one_mul] at hchars
    rw [ofStored?_of_toList hrange (by omega) (by omega) (by omega) hnanos' hchars]
    by_cases hend : s % 60 = 59
    · have hseconds : i.seconds / secondsPerDay * 86400 +
          ((s / 3600 * 3600 + s / 60 % 60 * 60 + 59 : Nat) : Int) = i.seconds := by
        omega
      rw [named_eq_self.mpr (fun _ => by omega)] at hnamed ⊢
      rw [if_pos (by omega), if_pos (by omega), hseconds, Nat.add_sub_of_le hnanos, hnamed]
    · have hseconds : i.seconds / secondsPerDay * 86400 +
          ((s / 3600 * 3600 + s / 60 % 60 * 60 + (s % 60 + 1) : Nat) : Int) = i.seconds + 1 := by
        omega
      have hnext : i.named = ⟨i.seconds + 1, i.nanos - nanosPerSecond⟩ :=
        if_pos ⟨hleap, by omega⟩
      rw [hnext] at hnamed ⊢
      rw [if_neg (by omega), if_neg (by omega), hseconds, Nat.zero_add, hnamed]

theorem inCalendar_of_ofStored? {s : String} {i : Instant} (h : ofStored? s = some i) :
    i.InCalendar := by
  simp only [ofStored?, Option.bind_eq_bind, Option.bind_eq_some_iff,
    Option.ite_none_right_eq_some] at h
  obtain ⟨_, _, _, h⟩ := h
  exact Fields.inCalendar_of_instant? h

/-- An instant is read back from its stored stamp when it is of the calendar and, as a leap second,
ends its minute. -/
theorem ofStored?_stored_eq_self {i : Instant} : ofStored? i.stored = some i ↔
    i.InCalendar ∧ (i.isLeap → i.seconds % 60 = 59) := by
  constructor
  · intro h
    have hi := inCalendar_of_ofStored? h
    rw [ofStored?_stored hi, Option.some.injEq] at h
    exact ⟨hi, named_eq_self.mp h⟩
  · rintro ⟨hi, hend⟩
    rw [ofStored?_stored hi, named_eq_self.mpr hend]

end Instant

end Telemetry
