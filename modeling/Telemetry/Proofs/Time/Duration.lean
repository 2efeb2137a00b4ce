import Mathlib.Data.List.TakeWhile
import Telemetry.Proofs.Time.Reading
import Telemetry.Time.Duration

/-!
# Texts of durations

Which texts are durations, and how long these are: blanks, digits, blanks, a unit and blanks
(`Duration.Spells`). Every amount is counted within 63 bits, first in seconds and then in
milliseconds, and a unit has bounds of its own on the way. Together they come to one: the product
of the amount and the unit is not beyond the greatest number of milliseconds
(`Duration.ofAmount?_eq_some_iff`).
-/

namespace Telemetry

open Decimal (takeWhile_run dropWhile_run)

/-! ## Blanks around a text -/

namespace Text

variable {before cs after : List Char} {c : Char}

def AreBlank (cs : List Char) : Prop := ∀ c ∈ cs, isBlank c = true

theorem areBlank_nil : AreBlank [] := by
  intro c hc
  cases hc

theorem AreBlank.append (hbefore : AreBlank before) (hafter : AreBlank after) :
    AreBlank (before ++ after) := by
  intro c hc
  rcases List.mem_append.mp hc with hc | hc
  · exact hbefore c hc
  · exact hafter c hc

structure Trimmed (cs : List Char) : Prop where
  head : ∀ c ∈ cs.head?, isBlank c = false
  last : ∀ c ∈ cs.getLast?, isBlank c = false

theorem areBlank_takeWhile (cs : List Char) : AreBlank (cs.takeWhile isBlank) := by
  intro c hc
  exact List.all_eq_true.mp List.all_takeWhile c hc

/-- What `trimChars` drops in front and behind. -/
theorem exists_trimChars (cs : List Char) :
    ∃ before after, cs = before ++ (trimChars cs ++ after) ∧ AreBlank before ∧ AreBlank after := by
  have hrest : trimChars cs ++ ((cs.dropWhile isBlank).reverse.takeWhile isBlank).reverse =
      cs.dropWhile isBlank := by
    rw [trimChars, ← List.reverse_append, List.takeWhile_append_dropWhile, List.reverse_reverse]
  refine ⟨cs.takeWhile isBlank, ((cs.dropWhile isBlank).reverse.takeWhile isBlank).reverse, ?_,
    areBlank_takeWhile cs, ?_⟩
  · rw [hrest, List.takeWhile_append_dropWhile]
  · intro c hc
    exact areBlank_takeWhile _ c (List.mem_reverse.mp hc)

theorem trimChars_append (hbefore : AreBlank before) (hcs : Trimmed cs) (hafter : AreBlank after) :
    trimChars (before ++ (cs ++ after)) = cs := by
  by_cases hnil : cs = []
  · subst hnil
    have hblank : AreBlank (before ++ ([] ++ after)) := hbefore.append hafter
    have hnone : (before ++ ([] ++ after)).dropWhile isBlank = [] :=
      List.dropWhile_eq_nil_iff.mpr hblank
    rw [trimChars, hnone]
    rfl
  · have hhead : ∀ c ∈ (cs ++ after).head?, isBlank c = false := by
      intro c hc
      rw [List.head?_append_of_ne_nil _ hnil] at hc
      exact hcs.head c hc
    have hlast : ∀ c ∈ cs.reverse.head?, isBlank c = false := by
      intro c hc
      rw [List.head?_reverse] at hc
      exact hcs.last c hc
    rw [trimChars, dropWhile_run hbefore hhead, List.reverse_append,
      dropWhile_run (fun c hc => hafter c (List.mem_reverse.mp hc)) hlast, List.reverse_reverse]

/-! ## Numbers -/

theorem digit?_of_isDigit (h : c.isDigit = true) : digit? c = some (c.toNat - '0'.toNat) := by
  simp only [Char.isDigit, Bool.and_eq_true, decide_eq_true_eq] at h
  rw [digit?, if_pos]
  exact ⟨h.1, h.2⟩

theorem le_ofDigitChars (n : Nat) (ds : List Char) : n ≤ Nat.ofDigitChars 10 ds n := by
  rw [Nat.ofDigitChars_eq_ofDigitChars_zero]
  have hpos : 0 < 10 ^ ds.length := Nat.pow_pos (by decide)
  exact Nat.le_add_right_of_le (Nat.le_mul_of_pos_left n hpos)

variable {bound n m : Nat} {ds : List Char}

/-- Digits are read to their end unless the number is beyond the bound there. -/
theorem readDigits_eq_ok_iff (hds : ∀ c ∈ ds, c.isDigit = true) (hn : n ≤ bound) :
    readDigits bound n ds = .ok m ↔ Nat.ofDigitChars 10 ds n = m ∧ m ≤ bound := by
  induction ds generalizing n with
  | nil =>
      rw [readDigits, Nat.ofDigitChars_nil, Except.ok.injEq]
      constructor
      · rintro rfl
        exact ⟨rfl, hn⟩
      · exact fun h => h.1
  | cons c ds ih =>
      obtain ⟨hc, hds⟩ := List.forall_mem_cons.mp hds
      rw [readDigits, digit?_of_isDigit hc, Nat.ofDigitChars_cons]
      dsimp only
      split
      · rename_i hle
        exact ih hds hle
      · rename_i hgt
        -- the number only grows with the digits that follow
        have hgrows := le_ofDigitChars (10 * n + (c.toNat - '0'.toNat)) ds
        constructor
        · intro h
          cases h
        · rintro ⟨rfl, hle⟩
          exact absurd (Nat.le_trans hgrows hle) hgt

theorem natural_eq_ok_iff (hds : ∀ c ∈ ds, c.isDigit = true) :
    natural bound (String.ofList ds) = .ok m ↔
      ds ≠ [] ∧ Nat.ofDigitChars 10 ds 0 = m ∧ m ≤ bound := by
  cases ds with
  | nil => simp [natural]
  | cons c ds =>
      have hplus : c ≠ '+' := by
        rintro rfl
        cases hds '+' List.mem_cons_self
      have hread : natural bound (String.ofList (c :: ds)) = readDigits bound 0 (c :: ds) := by
        unfold natural
        rw [String.toList_ofList]
        split
        · rename_i h
          cases h
        · rename_i h
          exact absurd (List.cons.inj h).1 hplus
        · rename_i h
          exact absurd (List.cons.inj h).1 hplus
        · rfl
      rw [hread, readDigits_eq_ok_iff hds (Nat.zero_le _)]
      simp

end Text

/-! ## Amounts of a unit -/

namespace Duration

variable {n amount scale : Nat} {unit : String} {d : Duration} {s : String}

def units : List (String × Nat) :=
  [("", 1000), ("ms", 1), ("s", 1000), ("m", 60 * 1000), ("h", 60 * 60 * 1000),
    ("d", 24 * 60 * 60 * 1000)]

theorem milliseconds_ofMilliseconds (n : Int) : (ofMilliseconds n).milliseconds = n :=
  Int.mul_ediv_cancel n (by decide)

theorem ofMilliseconds?_eq_some_iff :
    ofMilliseconds? n = some d ↔ n ≤ greatest ∧ d = .ofMilliseconds n := by
  rw [ofMilliseconds?, Option.ite_none_right_eq_some, Option.some_inj, eq_comm (b := d)]

/-- The bound of seconds is that of their milliseconds. -/
theorem ofSeconds?_eq_some_iff :
    ofSeconds? n = some d ↔ n * 1000 ≤ greatest ∧ d = .ofMilliseconds (n * 1000 : Nat) := by
  rw [ofSeconds?, Option.ite_none_right_eq_some, Option.some_inj, eq_comm (b := d),
    Nat.le_div_iff_mul_le (by decide), Int.natCast_mul]
  rfl

/-- A product that is too great in seconds is too great in milliseconds. -/
theorem times?_bind_ofSeconds?_eq_some_iff :
    (times? amount n).bind ofSeconds? = some d ↔
      amount * (n * 1000) ≤ greatest ∧ d = .ofMilliseconds (amount * (n * 1000) : Nat) := by
  rw [← Nat.mul_assoc, times?]
  split
  · exact ofSeconds?_eq_some_iff
  · rename_i h
    simp only [Option.bind_none, reduceCtorEq, false_iff]
    rintro ⟨hle, -⟩
    omega

theorem exists_scale {p : Nat → Prop} (h : ∀ scale, (unit, scale) ∈ units ↔ scale = n) :
    (∃ scale, (unit, scale) ∈ units ∧ p scale) ↔ p n := by
  simp only [h, exists_eq_left]

/-- **One bound for all units.** An amount of a unit is a duration unless the product is beyond the
greatest number of milliseconds. -/
theorem ofAmount?_eq_some_iff : ofAmount? amount unit = some d ↔
    ∃ scale, (unit, scale) ∈ units ∧ amount * scale ≤ greatest ∧
      d = .ofMilliseconds (amount * scale : Nat) := by
  unfold ofAmount?
  split
  · rw [exists_scale (n := 1) (by simp [units]), Nat.mul_one]
    exact ofMilliseconds?_eq_some_iff
  · rw [exists_scale (n := 1000) (by simp [units])]
    exact ofSeconds?_eq_some_iff
  · rw [exists_scale (n := 1000) (by simp [units])]
    exact ofSeconds?_eq_some_iff
  · rw [exists_scale (n := 60 * 1000) (by simp [units])]
    exact times?_bind_ofSeconds?_eq_some_iff
  · rw [exists_scale (n := 3600 * 1000) (by simp [units])]
    exact times?_bind_ofSeconds?_eq_some_iff
  · rw [exists_scale (n := 86400 * 1000) (by simp [units])]
    exact times?_bind_ofSeconds?_eq_some_iff
  · simp_all [units]

/-! ## Texts of durations -/

/-- A number in decimal digits and a unit, with blanks around them. -/
def Spells (s : String) (amount : Nat) (unit : String) : Prop :=
  ∃ before digits gap after : List Char,
    s.toList = before ++ (digits ++ (gap ++ (unit.toList ++ after))) ∧
    Text.AreBlank before ∧ Text.AreBlank gap ∧ Text.AreBlank after ∧
    digits ≠ [] ∧ (∀ c ∈ digits, c.isDigit = true) ∧ Nat.ofDigitChars 10 digits 0 = amount

theorem isBlank_of_mem_unit (h : (unit, scale) ∈ units) {c : Char} (hc : c ∈ unit.toList) :
    Text.isBlank c = false ∧ c.isDigit = false := by
  have hunits : (units.all fun unit =>
      unit.1.toList.all fun c => !Text.isBlank c && !c.isDigit) = true := by
    decide
  have hunit := List.all_eq_true.mp hunits _ h
  have hchar := List.all_eq_true.mp hunit c hc
  rwa [Bool.and_eq_true, Bool.not_eq_true', Bool.not_eq_true'] at hchar

/-- Without the blanks at its ends, what is behind the digits is the unit and blanks before it. -/
theorem exists_trimChars_eq {before digits gap after : List Char} {w : String}
    (hunit : ∀ c ∈ w.toList, Text.isBlank c = false) (hbefore : Text.AreBlank before)
    (hgap : Text.AreBlank gap) (hafter : Text.AreBlank after) (hne : digits ≠ [])
    (hdigits : ∀ c ∈ digits, c.isDigit = true) :
    ∃ gap' : List Char, Text.AreBlank gap' ∧
      Text.trimChars (before ++ (digits ++ (gap ++ (w.toList ++ after)))) =
        digits ++ (gap' ++ w.toList) := by
  have hhead : ∀ rest : List Char, ∀ c ∈ (digits ++ rest).head?, Text.isBlank c = false := by
    intro rest c hc
    rw [List.head?_append_of_ne_nil _ hne] at hc
    exact TimePattern.isBlank_of_isDigit (hdigits c (List.mem_of_mem_head? hc))
  by_cases hnil : w.toList = []
  · -- without a unit the blanks behind the digits are at the end of the text
    refine ⟨[], Text.areBlank_nil, ?_⟩
    have htrimmed : Text.Trimmed digits := by
      constructor
      · simpa using hhead []
      · intro c hc
        exact TimePattern.isBlank_of_isDigit (hdigits c (List.mem_of_mem_getLast? hc))
    have htrim := Text.trimChars_append hbefore htrimmed (hgap.append hafter)
    simpa [hnil] using htrim
  · refine ⟨gap, hgap, ?_⟩
    have htrimmed : Text.Trimmed (digits ++ (gap ++ w.toList)) := by
      constructor
      · exact hhead _
      · intro c hc
        rw [← List.append_assoc, List.getLast?_append_of_ne_nil _ hnil] at hc
        exact hunit c (List.mem_of_mem_getLast? hc)
    have htrim := Text.trimChars_append hbefore htrimmed hafter
    simpa using htrim

/-- How a text is cut in reading it. -/
theorem spells_iff {w : String}
    (hunit : ∀ c ∈ w.toList, Text.isBlank c = false ∧ c.isDigit = false) :
    Spells s amount w ↔
      (Text.trimChars s.toList).takeWhile Char.isDigit ≠ [] ∧
      Nat.ofDigitChars 10 ((Text.trimChars s.toList).takeWhile Char.isDigit) 0 = amount ∧
      Text.trim (String.ofList ((Text.trimChars s.toList).dropWhile Char.isDigit)) = w := by
  constructor
  · rintro ⟨before, digits, gap, after, hs, hbefore, hgap, hafter, hne, hdigits, hamount⟩
    obtain ⟨gap', hgap', htrim⟩ :=
      exists_trimChars_eq (fun c hc => (hunit c hc).1) hbefore hgap hafter hne hdigits
    have hstop : ∀ c ∈ (gap' ++ w.toList).head?, c.isDigit = false := by
      intro c hc
      rcases List.mem_append.mp (List.mem_of_mem_head? hc) with hc | hc
      · cases hdigit : c.isDigit with
        | false => rfl
        | true =>
            have hblank := hgap' c hc
            rw [TimePattern.isBlank_of_isDigit hdigit] at hblank
            cases hblank
      · exact (hunit c hc).2
    rw [hs, htrim, takeWhile_run hdigits hstop, dropWhile_run hdigits hstop]
    refine ⟨hne, hamount, ?_⟩
    have htrimmed : Text.Trimmed w.toList := by
      constructor
      · intro c hc
        exact (hunit c (List.mem_of_mem_head? hc)).1
      · intro c hc
        exact (hunit c (List.mem_of_mem_getLast? hc)).1
    have hunitOf := Text.trimChars_append hgap' htrimmed Text.areBlank_nil
    rw [List.append_nil] at hunitOf
    rw [Text.trim, String.toList_ofList, hunitOf, String.ofList_toList]
  · rintro ⟨hne, hamount, rfl⟩
    obtain ⟨before, after, hs, hbefore, hafter⟩ := Text.exists_trimChars s.toList
    obtain ⟨gap, after', hrest, hgap, hafter'⟩ :=
      Text.exists_trimChars ((Text.trimChars s.toList).dropWhile Char.isDigit)
    refine ⟨before, (Text.trimChars s.toList).takeWhile Char.isDigit, gap, after' ++ after, ?_,
      hbefore, hgap, hafter'.append hafter, hne, ?_, hamount⟩
    · conv_lhs => rw [hs, ← List.takeWhile_append_dropWhile (p := Char.isDigit)
        (l := Text.trimChars s.toList), hrest]
      simp [Text.trim]
    · intro c hc
      exact List.all_eq_true.mp List.all_takeWhile c hc

/-- **Durations are exact.** A text is a duration if and only if it is a number in decimal digits
that is less than `2 ^ 63` and a unit, with blanks around them, and the product of the two is less
than `2 ^ 63` too; the duration is that product in milliseconds. So it is never negative. -/
theorem ofText?_exact (s : String) (d : Duration) :
    (ofText? s = some d ↔ ∃ amount unit scale, Spells s amount unit ∧ (unit, scale) ∈ units ∧
      amount ≤ 9223372036854775807 ∧ amount * scale ≤ 9223372036854775807 ∧
      d = .ofMilliseconds (amount * scale : Nat)) ∧
    (ofText? s = some d → 0 ≤ d.milliseconds ∧ d.milliseconds ≤ 9223372036854775807) := by
  have hdigits : ∀ c ∈ (Text.trimChars s.toList).takeWhile Char.isDigit, c.isDigit = true := by
    intro c hc
    exact List.all_eq_true.mp List.all_takeWhile c hc
  have hexact : ofText? s = some d ↔ ∃ amount unit scale, Spells s amount unit ∧
      (unit, scale) ∈ units ∧ amount ≤ greatest ∧ amount * scale ≤ greatest ∧
      d = .ofMilliseconds (amount * scale : Nat) := by
    constructor
    · intro h
      rw [ofText?] at h
      split at h
      · rename_i amount hamount
        obtain ⟨hne, hvalue, hle⟩ := (Text.natural_eq_ok_iff hdigits).mp hamount
        obtain ⟨scale, hscale, hproduct, hd⟩ := ofAmount?_eq_some_iff.mp h
        have hspells := (spells_iff fun c hc => isBlank_of_mem_unit hscale hc).mpr
          ⟨hne, hvalue, rfl⟩
        exact ⟨amount, _, scale, hspells, hscale, hle, hproduct, hd⟩
      · cases h
    · rintro ⟨amount, unit, scale, hspells, hscale, hle, hproduct, hd⟩
      obtain ⟨hne, hvalue, hunit⟩ :=
        (spells_iff fun c hc => isBlank_of_mem_unit hscale hc).mp hspells
      rw [ofText?, (Text.natural_eq_ok_iff hdigits).mpr ⟨hne, hvalue, hle⟩, hunit]
      exact ofAmount?_eq_some_iff.mpr ⟨scale, hscale, hproduct, hd⟩
  refine ⟨hexact, fun h => ?_⟩
  obtain ⟨amount, unit, scale, -, -, -, hproduct, rfl⟩ := hexact.mp h
  rw [milliseconds_ofMilliseconds]
  have hgreatest : greatest = 9223372036854775807 := rfl
  omega

end Duration

end Telemetry
