import Telemetry.Proofs.Decimal.Digits
import Telemetry.Time.Stamp

/-!
# Reading written numbers

The numbers of a stamp have a fixed width, and the reader of stored stamps takes them back: a run of
digits up to what follows it, behind its mark, with its sign. From the parts the whole standard form
is read into the fields that it names (`TimePattern.takeStandard_stamp`).
-/

namespace Telemetry

open TimePattern
open Decimal (EndsDigits endsDigits_cons takeWhile_run)

/-! ## Padded numbers -/

namespace Instant

variable {width n : Nat}

theorem isDigit_of_mem_padded {c : Char} (h : c ∈ padded width n) : c.isDigit = true := by
  rcases List.mem_append.mp h with h | h
  · rw [List.eq_of_mem_replicate h]
    rfl
  · exact Nat.isDigit_of_mem_toDigits (by decide) (by decide) h

theorem ofDigitChars_padded : Nat.ofDigitChars 10 (padded width n) 0 = n := by
  rw [padded, Nat.ofDigitChars_append, Nat.ofDigitChars_replicate_zero, Nat.mul_zero,
    Nat.ofDigitChars_ten_toDigits]

theorem le_length_padded : width ≤ (padded width n).length := by
  simp only [padded, List.length_append, List.length_replicate]
  omega

theorem length_padded (hwidth : 0 < width) (h : n < 10 ^ width) :
    (padded width n).length = width := by
  have := (Nat.length_toDigits_le_iff (by decide) hwidth).mpr h
  simp only [padded, List.length_append, List.length_replicate]
  omega

end Instant

/-! ## Reading digits -/

namespace TimePattern

variable {least width n : Nat} {most : Option Nat} {rest : List Char}

theorem takeDigits_padded (hrest : EndsDigits rest) (hleast : least ≤ width)
    (hmost : ∀ m ∈ most, (Instant.padded width n).length ≤ m) (hn : n ≤ greatestOf 63) :
    takeDigits least most (Instant.padded width n ++ rest) = some ((n : Int), rest) := by
  have hdigits : ∀ c ∈ Instant.padded width n, c.isDigit = true :=
    fun _ => Instant.isDigit_of_mem_padded
  have hrun := takeWhile_run hdigits hrest
  have hlength : least ≤ (Instant.padded width n).length :=
    Nat.le_trans hleast Instant.le_length_padded
  have hvalue : (Instant.padded width n).foldl
      (fun n c => 10 * n + (c.toNat - '0'.toNat)) 0 = n := Instant.ofDigitChars_padded
  cases most with
  | none =>
      simp only [takeDigits, hrun, hvalue]
      rw [if_pos ⟨hlength, hn⟩, List.drop_left]
  | some m =>
      simp only [takeDigits, hrun, List.take_of_length_le (hmost m rfl), hvalue]
      rw [if_pos ⟨hlength, hn⟩, List.drop_left]

theorem isBlank_of_isDigit {c : Char} (h : c.isDigit = true) : Text.isBlank c = false := by
  simp only [Char.isDigit, Bool.and_eq_true, decide_eq_true_eq] at h
  have := UInt32.le_iff_toNat_le.mp h.1
  have := UInt32.le_iff_toNat_le.mp h.2
  simp only [Text.isBlank, Char.toNat]
  simp at *
  omega

theorem exists_padded_eq_cons (hwidth : 0 < width) (n : Nat) :
    ∃ c ds, Instant.padded width n = c :: ds ∧ c.isDigit = true := by
  have hlength : 0 < (Instant.padded width n).length :=
    Nat.lt_of_lt_of_le hwidth Instant.le_length_padded
  obtain ⟨c, ds, hds⟩ := List.exists_cons_of_length_pos hlength
  have hc : c ∈ Instant.padded width n := hds ▸ List.mem_cons_self
  exact ⟨c, ds, hds, Instant.isDigit_of_mem_padded hc⟩

/-- A number of fixed width is read, whether or not it might have a sign. -/
theorem read_padded {item : NumberItem} (hitem : item.width = some width) (hwidth : 0 < width)
    (hfits : width ≤ 18) (hn : n < 10 ^ width) (hrest : EndsDigits rest) (f : Fields) :
    item.read f (Instant.padded width n ++ rest) = (item.set? f n).map (·, rest) := by
  have hgreatest : 10 ^ width ≤ 10 ^ 18 := Nat.pow_le_pow_right (by decide) hfits
  have hvalue : takeDigits 1 item.width (Instant.padded width n ++ rest) =
      some ((n : Int), rest) := by
    refine takeDigits_padded hrest hwidth ?_ (Nat.le_trans (Nat.le_of_lt hn)
      (Nat.le_trans hgreatest (by decide)))
    rw [hitem]
    intro m hm
    cases hm
    exact Nat.le_of_eq (Instant.length_padded hwidth hn)
  obtain ⟨c, ds, hds, hc⟩ := exists_padded_eq_cons hwidth n
  have hblanks : dropBlanks (c :: (ds ++ rest)) = c :: (ds ++ rest) :=
    List.dropWhile_cons_of_neg (by simp [isBlank_of_isDigit hc])
  rw [hds, List.cons_append] at hvalue ⊢
  rw [NumberItem.read, hblanks]
  split
  · rename_i heq
    cases heq
    cases hc
  · rename_i heq
    cases heq
    cases hc
  · rw [hvalue]
    cases hset : item.set? f n <;> simp [hset]

/-- Behind a sign a number has as many digits as there are. -/
theorem read_signed {item : NumberItem} (hitem : item.signed = true) {sign : Char} {value : Int}
    (hsign : sign = '-' ∧ value = -(n : Int) ∨ sign = '+' ∧ value = n) (hn : n ≤ greatestOf 63)
    (hwidth : 0 < width) (hrest : EndsDigits rest) (f : Fields) :
    item.read f (sign :: (Instant.padded width n ++ rest)) =
      (item.set? f value).map (·, rest) := by
  have hvalue : takeDigits 1 none (Instant.padded width n ++ rest) = some ((n : Int), rest) :=
    takeDigits_padded hrest hwidth (fun m hm => by cases hm) hn
  have hblanks : dropBlanks (sign :: (Instant.padded width n ++ rest)) =
      sign :: (Instant.padded width n ++ rest) := by
    rcases hsign with ⟨rfl, -⟩ | ⟨rfl, -⟩ <;> rfl
  rw [NumberItem.read, hblanks, hitem]
  split
  · rename_i heq
    cases heq
    obtain ⟨-, rfl⟩ := hsign.resolve_right (fun h => by cases h.1)
    rw [hvalue]
    cases hset : item.set? f (-(n : Int)) <;> simp [hset]
  · rename_i heq
    cases heq
    obtain ⟨-, rfl⟩ := hsign.resolve_left (fun h => by cases h.1)
    rw [hvalue]
    cases hset : item.set? f n <;> simp [hset]
  · rename_i hminus hplus
    rcases hsign with ⟨rfl, -⟩ | ⟨rfl, -⟩
    · exact absurd rfl (hminus _ rfl)
    · exact absurd rfl (hplus _ rfl)

/-- The year as it is written, with or without a sign. -/
theorem read_yearChars {item : NumberItem} (hsigned : item.signed = true)
    (hwidth : item.width = some 4) {year : Int} (hyear : year.natAbs ≤ greatestOf 63)
    (hrest : EndsDigits rest) (f : Fields) :
    item.read f (Instant.yearChars year ++ rest) = (item.set? f year).map (·, rest) := by
  unfold Instant.yearChars
  dsimp only
  split
  · rename_i hplain
    rw [read_padded hwidth (by decide) (by decide) (by omega) hrest,
      show (year.natAbs : Int) = year by omega]
  · split
    · rename_i hnegative
      exact read_signed hsigned (Or.inl ⟨rfl, by omega⟩) hyear (by decide) hrest f
    · exact read_signed hsigned (Or.inr ⟨rfl, by omega⟩) hyear (by decide) hrest f

/-- A number of two digits behind its mark. -/
theorem takeSpaced_padded {mark letter : Char} {item : NumberItem} {more : List (Char × Char)}
    (hmark : Text.isBlank mark = false) (hitem : Item.number? letter = some item)
    (hwidth : item.width = some 2) (hn : n < 100) (hrest : EndsDigits rest) (f : Fields) :
    takeSpaced f (mark :: (Instant.padded 2 n ++ rest)) ((mark, letter) :: more) =
      (item.set? f n).bind fun f => takeSpaced f rest more := by
  have hblanks : dropBlanks (mark :: (Instant.padded 2 n ++ rest)) =
      mark :: (Instant.padded 2 n ++ rest) :=
    List.dropWhile_cons_of_neg (by simp [hmark])
  have hliteral : takeLiteral [mark] (mark :: (Instant.padded 2 n ++ rest)) =
      some (Instant.padded 2 n ++ rest) := by
    simp [takeLiteral]
  have hread := read_padded hwidth (by decide) (by decide) hn hrest f
  rw [takeSpaced, hblanks, hliteral]
  simp only [Option.bind_eq_bind, Option.bind_some, hitem, hread]
  cases item.set? f n <;> rfl

theorem takeFraction_padded (hwidth : 0 < width) (hwidth' : width ≤ 9) (hn : n < 10 ^ width)
    (hrest : EndsDigits rest) :
    takeFraction (Instant.padded width n ++ rest) = some ((n : Int) * pow10 (9 - width), rest) := by
  have hgreatest : 10 ^ width ≤ 10 ^ 9 := Nat.pow_le_pow_right (by decide) hwidth'
  have hlength := Instant.length_padded hwidth hn
  have hvalue : takeDigits 1 (some 9) (Instant.padded width n ++ rest) =
      some ((n : Int), rest) := by
    refine takeDigits_padded hrest hwidth ?_ ?_
    · intro m hm
      cases hm
      omega
    · exact Nat.le_trans (Nat.le_of_lt hn) (Nat.le_trans hgreatest (by decide))
  have hdrop : rest.dropWhile Char.isDigit = rest := by
    cases rest with
    | nil => rfl
    | cons c rest => exact List.dropWhile_cons_of_neg (by simp [hrest c rfl])
  have hwidth : (Instant.padded width n ++ rest).length - rest.length = width := by
    rw [List.length_append, hlength, Nat.add_sub_cancel]
  rw [takeFraction, hvalue]
  simp only [Option.map_some, hdrop, hwidth]

/-- The fraction that is written is the nanoseconds. -/
theorem takeOptionalFraction_chars {f : Fields} {nanos : Nat} (hf : f.nanos = none)
    (hn : nanos < 10 ^ 9) (hpoint : rest.head? ≠ some '.') (hrest : EndsDigits rest) :
    takeOptionalFraction takeFraction f (Instant.fractionChars nanos ++ rest) =
      some ({ f with nanos := if nanos = 0 then none else some nanos }, rest) := by
  have hset : ∀ {k n : Nat}, 0 < k → k ≤ 9 → n < 10 ^ k → nanos = n * pow10 (9 - k) → nanos ≠ 0 →
      takeOptionalFraction takeFraction f ('.' :: (Instant.padded k n ++ rest)) =
        some ({ f with nanos := some nanos }, rest) := by
    intro k n hk hk' hlt hnanos hsome
    have hcast : (n : Int) * (pow10 (9 - k) : Nat) = nanos := by
      rw [hnanos, Int.natCast_mul]
    have hsetter : Fields.Setters.nanos f nanos = some { f with nanos := some nanos } := by
      rw [Fields.Setters.nanos, hf, Fields.limited?, if_pos (by omega)]
      simp [Fields.agreed?]
    rw [takeOptionalFraction]
    simp only [takeFraction_padded hk hk' hlt hrest, Option.bind_eq_bind, Option.bind_some, hcast,
      hsetter]
    rfl
  unfold Instant.fractionChars
  split
  · rw [List.nil_append, takeOptionalFraction, ← hf]
    · rfl
    · rintro rest' rfl
      exact hpoint rfl
  split
  · exact hset (k := 3) (by decide) (by decide) (by omega) (by simp [pow10]; omega) (by assumption)
  split
  · exact hset (k := 6) (by decide) (by decide) (by omega) (by simp [pow10]; omega) (by assumption)
  · exact hset (k := 9) (by decide) (by decide) (by omega) (by simp [pow10]) (by assumption)

/-! ## The standard form -/

variable {month day hour minute second nanos : Nat}

theorem limited?_none {least most : Int} (hleast : least ≤ n) (hmost : n ≤ most) :
    Fields.limited? least most none n = some (some n) := by
  rw [Fields.limited?, if_pos ⟨hleast, hmost⟩]
  rfl

theorem takeSpaced_date {f : Fields} (hfmonth : f.month = none) (hfday : f.day = none)
    (hmonth : 1 ≤ month ∧ month ≤ 12) (hday : 1 ≤ day ∧ day ≤ 31) (hrest : EndsDigits rest) :
    takeSpaced f ('-' :: (Instant.padded 2 month ++ '-' :: (Instant.padded 2 day ++ rest)))
      [('-', 'm'), ('-', 'd')] =
      some ({ f with month := some month, day := some day }, rest) := by
  obtain ⟨items, hm, hmwidth, hmset⟩ : ∃ item, Item.number? 'm' = some item ∧
      item.width = some 2 ∧ item.set? = Fields.Setters.month := ⟨_, rfl, rfl, rfl⟩
  obtain ⟨item', hd, hdwidth, hdset⟩ : ∃ item, Item.number? 'd' = some item ∧
      item.width = some 2 ∧ item.set? = Fields.Setters.day := ⟨_, rfl, rfl, rfl⟩
  have hfirst : Fields.Setters.month f month = some { f with month := some month } := by
    rw [Fields.Setters.month, hfmonth, limited?_none (by omega) (by omega), Option.map_some]
  have hsecond : Fields.Setters.day { f with month := some month } day =
      some { f with month := some month, day := some day } := by
    rw [Fields.Setters.day]
    simp only [hfday,
      limited?_none (show (1 : Int) ≤ day by omega) (show day ≤ (31 : Int) by omega),
      Option.map_some]
  rw [takeSpaced_padded rfl hm hmwidth (by omega) (endsDigits_cons rfl _), hmset, hfirst,
    Option.bind_some, takeSpaced_padded rfl hd hdwidth (by omega) hrest, hdset, hsecond,
    Option.bind_some, takeSpaced]

theorem takeSpaced_clock {f : Fields} (hfminute : f.minute = none) (hfsecond : f.second = none)
    (hminute : minute < 60) (hsecond : second ≤ 60) (hrest : EndsDigits rest) :
    takeSpaced f (':' :: (Instant.padded 2 minute ++ ':' :: (Instant.padded 2 second ++ rest)))
      [(':', 'M'), (':', 'S')] =
      some ({ f with minute := some minute, second := some second }, rest) := by
  obtain ⟨item, hm, hmwidth, hmset⟩ : ∃ item, Item.number? 'M' = some item ∧
      item.width = some 2 ∧ item.set? = Fields.Setters.minute := ⟨_, rfl, rfl, rfl⟩
  obtain ⟨item', hs, hswidth, hsset⟩ : ∃ item, Item.number? 'S' = some item ∧
      item.width = some 2 ∧ item.set? = Fields.Setters.second := ⟨_, rfl, rfl, rfl⟩
  have hfirst : Fields.Setters.minute f minute = some { f with minute := some minute } := by
    rw [Fields.Setters.minute, hfminute, limited?_none (by omega) (by omega), Option.map_some]
  have hsecondSet : Fields.Setters.second { f with minute := some minute } second =
      some { f with minute := some minute, second := some second } := by
    rw [Fields.Setters.second]
    simp only [hfsecond, limited?_none (show (0 : Int) ≤ second by omega)
      (show second ≤ (60 : Int) by omega), Option.map_some]
  rw [takeSpaced_padded rfl hm hmwidth (by omega) (endsDigits_cons rfl _), hmset, hfirst,
    Option.bind_some, takeSpaced_padded rfl hs hswidth (by omega) hrest, hsset, hsecondSet,
    Option.bind_some, takeSpaced]

theorem setters_hour {f : Fields} (hhalf : f.half = none) (hhour : f.hourOfHalf = none)
    (h : hour < 24) : Fields.Setters.hour f hour =
      some { f with half := some (hour / 12), hourOfHalf := some (hour % 12) } := by
  have hset : Fields.Setters.half f ((hour : Int) / 12) =
      some { f with half := some (hour / 12) } := by
    rw [Fields.Setters.half, hhalf, show (hour : Int) / 12 = (hour / 12 : Nat) by omega,
      limited?_none (by omega) (by omega), Option.map_some]
  rw [Fields.Setters.hour, if_neg (by omega), hset]
  simp only [Option.bind_eq_bind, Option.bind_some, hhour, Fields.agreed?, Option.map_some]
  rfl

def stampFields (year : Int) (month day hour minute second nanos : Nat) : Fields :=
  { Fields.empty with
    year.whole := some year
    month := some month
    day := some day
    half := some (hour / 12)
    hourOfHalf := some (hour % 12)
    minute := some minute
    second := some second
    nanos := if nanos = 0 then none else some nanos
    offset := some 0 }

theorem takeStandard_stamp {year : Int} (hyear : Fields.fits32 year = true)
    (hmonth : 1 ≤ month ∧ month ≤ 12) (hday : 1 ≤ day ∧ day ≤ 31) (hhour : hour < 24)
    (hminute : minute < 60) (hsecond : second ≤ 60) (hnanos : nanos < 10 ^ 9) :
    takeStandard .empty (Instant.yearChars year ++ '-' :: (Instant.padded 2 month ++
      '-' :: (Instant.padded 2 day ++ 'T' :: (Instant.padded 2 hour ++
      ':' :: (Instant.padded 2 minute ++ ':' :: (Instant.padded 2 second ++
      (Instant.fractionChars nanos ++ ['Z']))))))) =
      some (stampFields year month day hour minute second nanos, []) := by
  have hends : ∀ {c : Char} {rest : List Char}, c.isDigit = false → EndsDigits (c :: rest) :=
    fun hc => endsDigits_cons hc _
  have hyear' : year.natAbs ≤ greatestOf 63 := by
    have h32 : pow2 (32 - 1) = 2147483648 := rfl
    have h64 : greatestOf 63 = 9223372036854775807 := rfl
    simp only [Fields.fits32, fitsSigned, Bool.and_eq_true, decide_eq_true_eq] at hyear
    omega
  have hyearSet : Fields.Setters.year .empty year =
      some { Fields.empty with year.whole := some year } := by
    rw [Fields.Setters.year, if_pos hyear]
    rfl
  have hfraction : EndsDigits (Instant.fractionChars nanos ++ ['Z']) := by
    unfold Instant.fractionChars
    repeat' split
    all_goals exact hends rfl
  have hzone : dropBlanks ['Z'] = ['Z'] ∧ takeWord "utc" ['Z'] = none ∧
      takeOffset ⟨fun cs => some (dropColons cs), true, false⟩ ['Z'] = some (0, []) :=
    ⟨rfl, by decide, rfl⟩
  obtain ⟨itemY, hY, hYsigned, hYwidth, hYset⟩ : ∃ item, Item.number? 'Y' = some item ∧
      item.signed = true ∧ item.width = some 4 ∧ item.set? = Fields.Setters.year :=
    ⟨_, rfl, rfl, rfl, rfl⟩
  obtain ⟨itemH, hH, hHwidth, hHset⟩ : ∃ item, Item.number? 'H' = some item ∧
      item.width = some 2 ∧ item.set? = Fields.Setters.hour := ⟨_, rfl, rfl, rfl⟩
  rw [takeStandard, hY, Option.bind_eq_bind, Option.bind_some,
    read_yearChars hYsigned hYwidth hyear' (hends rfl), hYset, hyearSet]
  simp only [Option.map_some, Option.bind_eq_bind, Option.bind_some]
  rw [takeSpaced_date rfl rfl hmonth hday (hends rfl)]
  simp only [Option.bind_some]
  rw [if_neg (by simp), hH, Option.bind_some, read_padded hHwidth (by decide) (by decide) (by omega)
    (hends rfl), hHset, setters_hour rfl rfl hhour]
  simp only [Option.map_some, Option.bind_some]
  rw [takeSpaced_clock rfl rfl hminute hsecond hfraction]
  simp only [Option.bind_some]
  rw [takeOptionalFraction_chars rfl hnanos (by simp) (hends rfl), Option.bind_some]
  simp only [hzone]
  rfl

end TimePattern

end Telemetry
