import Telemetry.Decimal.Shortest
import Telemetry.Proofs.Decimal.Nearest

/-!
# The fewest digits round to their double

The grids are searched until one has a number in the interval of the double. The last grid is fine
enough to have one (`isSome_onGrid`), so the digits that are found are those of a number that rounds
to the double (`shortest_roundsTo`), and they are at most nineteen.
-/

namespace Telemetry.Decimal

/-! ## Units -/

theorem cast_pow10 (n : ℕ) : ((pow10 n : ℕ) : ℚ) = 10 ^ n := by
  show ((10 ^ n : ℕ) : ℚ) = 10 ^ n
  push_cast
  rfl

theorem ten_zpow (scale : ℤ) :
    (10 : ℚ) ^ scale = (pow10 scale.toNat : ℕ) / (pow10 (-scale).toNat : ℕ) := by
  rw [cast_pow10, cast_pow10, ← zpow_natCast, ← zpow_natCast, ← zpow_sub₀ (by norm_num)]
  congr 1
  omega

section Units

variable {n d : ℕ}

theorem inUnits_snd_pos (hd : 0 < d) (scale : ℤ) : 0 < (inUnits n d scale).2 :=
  Nat.mul_pos hd (pow10_pos _)

theorem inUnits_eq (n d : ℕ) (scale : ℤ) :
    ((inUnits n d scale).1 : ℚ) / (inUnits n d scale).2 = n / d / 10 ^ scale := by
  have hup : ((pow10 scale.toNat : ℕ) : ℚ) ≠ 0 := by exact_mod_cast (pow10_pos _).ne'
  have hdown : ((pow10 (-scale).toNat : ℕ) : ℚ) ≠ 0 := by exact_mod_cast (pow10_pos _).ne'
  rw [ten_zpow, inUnits]
  push_cast
  field_simp

/-- 1233 / 4096 is a little less than the decimal logarithm of two. -/
theorem pow_log_bounds : ∀ l < 1100,
    10 ^ (l * 1233 / 4096) ≤ 2 ^ l ∧ 2 ^ (l + 1) ≤ 10 ^ (l * 1233 / 4096 + 2) := by
  decide +kernel

theorem digitCount_bounds (hn : 0 < n) (hlt : n.log2 < 1100) :
    (10 : ℚ) ^ ((digitCount n : ℤ) - 1) ≤ n ∧ (n : ℚ) < 10 ^ (digitCount n : ℤ) := by
  obtain ⟨hlow, hhigh⟩ := pow_log_bounds n.log2 hlt
  have hlow' : 10 ^ (n.log2 * 1233 / 4096) ≤ n := hlow.trans (Nat.log2_self_le hn.ne')
  have hhigh' : n < 10 ^ (n.log2 * 1233 / 4096 + 2) := Nat.lt_log2_self.trans_le hhigh
  obtain ⟨c, hc⟩ : ∃ c, n.log2 * 1233 / 4096 = c := ⟨_, rfl⟩
  rw [hc] at hlow' hhigh'
  have hcount : ∃ k, digitCount n = k + 1 ∧ 10 ^ k ≤ n ∧ n < 10 ^ (k + 1) := by
    rw [digitCount, if_neg hn.ne', hc]
    show ∃ k, c + 1 + (if 10 ^ (c + 1) ≤ n then 1 else 0) = _ ∧ _
    split
    · rename_i h
      exact ⟨c + 1, rfl, h, hhigh'⟩
    · rename_i h
      exact ⟨c, rfl, hlow', not_le.mp h⟩
  obtain ⟨k, hk, hklow, hkhigh⟩ := hcount
  rw [hk, show ((k + 1 : ℕ) : ℤ) - 1 = (k : ℕ) by omega, zpow_natCast, zpow_natCast]
  exact ⟨by exact_mod_cast hklow, by exact_mod_cast hkhigh⟩

theorem magnitude_bounds (hn : 0 < n) (hnlt : n.log2 < 1100) (hd : 0 < d)
    (hdlt : d.log2 < 1100) :
    (10 : ℚ) ^ magnitude n d ≤ n / d ∧ (n : ℚ) / d < 10 ^ (magnitude n d + 1) := by
  obtain ⟨hnlow, hnhigh⟩ := digitCount_bounds hn hnlt
  obtain ⟨hdlow, hdhigh⟩ := digitCount_bounds hd hdlt
  obtain ⟨e, he⟩ : ∃ e : ℤ, (digitCount n : ℤ) - digitCount d = e := ⟨_, rfl⟩
  have hd' : (0 : ℚ) < d := by exact_mod_cast hd
  have hden : (0 : ℚ) < (inUnits n d e).2 := by exact_mod_cast inUnits_snd_pos hd e
  have hten : (0 : ℚ) < 10 ^ e := by positivity
  have hlow : (10 : ℚ) ^ (e - 1) ≤ n / d := by
    rw [le_div_iff₀ hd']
    calc (10 : ℚ) ^ (e - 1) * d ≤ 10 ^ (e - 1) * 10 ^ (digitCount d : ℤ) :=
          mul_le_mul_of_nonneg_left hdhigh.le (by positivity)
      _ = 10 ^ ((digitCount n : ℤ) - 1) := by
          rw [← zpow_add₀ (by norm_num)]
          congr 1
          omega
      _ ≤ n := hnlow
  have hhigh : (n : ℚ) / d < 10 ^ (e + 1) := by
    rw [div_lt_iff₀ hd']
    calc (n : ℚ) < 10 ^ (digitCount n : ℤ) := hnhigh
      _ = 10 ^ (e + 1) * 10 ^ ((digitCount d : ℤ) - 1) := by
          rw [← zpow_add₀ (by norm_num)]
          congr 1
          omega
      _ ≤ 10 ^ (e + 1) * d := mul_le_mul_of_nonneg_left hdlow (by positivity)
  have hcompare : (inUnits n d e).1 < (inUnits n d e).2 ↔ (n : ℚ) / d < 10 ^ e := by
    rw [← div_lt_one hten, ← inUnits_eq, div_lt_one hden, Nat.cast_lt]
  rw [magnitude, he]
  dsimp only
  split
  · rename_i h
    rw [sub_add_cancel]
    exact ⟨hlow, hcompare.mp h⟩
  · rename_i h
    exact ⟨not_lt.mp fun hlt => h (hcompare.mpr hlt), hhigh⟩

end Units

/-! ## Intervals -/

def Interval.Contains (i : Interval) (v : ℚ) : Prop :=
  if i.closed then (i.lower : ℚ) / i.den ≤ v ∧ v ≤ i.upper / i.den
  else (i.lower : ℚ) / i.den < v ∧ v < i.upper / i.den

section Interval

variable {i : Interval} {v : ℚ} {n d : ℕ}

theorem Interval.has_iff (hden : 0 < i.den) (hd : 0 < d) :
    i.has n d = true ↔ i.Contains (n / d) := by
  have hden' : (0 : ℚ) < i.den := by exact_mod_cast hden
  have hd' : (0 : ℚ) < d := by exact_mod_cast hd
  unfold Interval.has Interval.Contains
  split
  · rw [div_le_div_iff₀ hden' hd', div_le_div_iff₀ hd' hden', Bool.and_eq_true,
      decide_eq_true_eq, decide_eq_true_eq]
    norm_cast
  · rw [div_lt_div_iff₀ hden' hd', div_lt_div_iff₀ hd' hden', Bool.and_eq_true,
      decide_eq_true_eq, decide_eq_true_eq]
    norm_cast

theorem Interval.contains_of_lt (hlow : (i.lower : ℚ) / i.den < v) (hhigh : v < i.upper / i.den) :
    i.Contains v := by
  unfold Interval.Contains
  split
  · exact ⟨hlow.le, hhigh.le⟩
  · exact ⟨hlow, hhigh⟩

/-! ## Grids -/

def Interval.hasOnGrid (i : Interval) (scale : ℤ) (k : ℕ) : Bool :=
  if 0 ≤ scale then i.has (k * pow10 scale.toNat) 1 else i.has k (pow10 (-scale).toNat)

theorem Interval.hasOnGrid_iff (hden : 0 < i.den) {scale : ℤ} {k : ℕ} :
    i.hasOnGrid scale k = true ↔ i.Contains (k * 10 ^ scale) := by
  unfold Interval.hasOnGrid
  split
  · rename_i h
    rw [i.has_iff hden Nat.one_pos, ten_zpow, show (-scale).toNat = 0 by omega]
    simp [cast_pow10]
  · rename_i h
    rw [i.has_iff hden (pow10_pos _), ten_zpow, show scale.toNat = 0 by omega]
    simp [cast_pow10, div_eq_mul_inv]

variable {tie : Tie} {scale : ℤ} {k : ℕ}

def Interval.below (i : Interval) (scale : ℤ) : ℕ :=
  (inUnits i.middle i.den scale).1 / (inUnits i.middle i.den scale).2

theorem onGrid_some (h : onGrid tie i scale = some k) :
    i.hasOnGrid scale k = true ∧ k ≤ i.below scale + 1 := by
  unfold onGrid at h
  dsimp only at h
  split at h
  · cases h
  · rename_i hlow _
    cases h
    exact ⟨hlow, Nat.le_succ _⟩
  · rename_i _ hhigh
    cases h
    exact ⟨hhigh, le_rfl⟩
  · rename_i hlow hhigh
    have hk : k = i.below scale ∨ k = i.below scale + 1 := by
      split at h
      · exact .inl (Option.some.inj h).symm
      split at h
      · exact .inr (Option.some.inj h).symm
      split at h
      · exact .inr (Option.some.inj h).symm
      split at h
      · exact .inl (Option.some.inj h).symm
      · exact .inr (Option.some.inj h).symm
    rcases hk with rfl | rfl
    · exact ⟨hlow, Nat.le_succ _⟩
    · exact ⟨hhigh, le_rfl⟩

theorem isSome_onGrid (h : i.hasOnGrid scale (i.below scale + 1) = true) :
    (onGrid tie i scale).isSome = true := by
  unfold onGrid
  dsimp only
  split
  · rename_i hnone
    exact absurd (h.symm.trans hnone) (by decide)
  · rfl
  · rfl
  · split
    · rfl
    split
    · rfl
    split
    · rfl
    split <;> rfl

theorem below_bounds (hden : 0 < i.den) (scale : ℤ) :
    (i.below scale : ℚ) * 10 ^ scale ≤ i.middle / i.den ∧
      (i.middle : ℚ) / i.den < (i.below scale + 1) * 10 ^ scale := by
  have hten : (0 : ℚ) < 10 ^ scale := by positivity
  have hpos := inUnits_snd_pos (n := i.middle) hden scale
  have hpos' : (0 : ℚ) < (inUnits i.middle i.den scale).2 := by exact_mod_cast hpos
  rw [← le_div_iff₀ hten, ← div_lt_iff₀ hten, ← inUnits_eq, le_div_iff₀ hpos', div_lt_iff₀ hpos']
  refine ⟨by exact_mod_cast Nat.div_mul_le_self _ _, ?_⟩
  have hlt := Nat.lt_mul_div_succ (inUnits i.middle i.den scale).1 hpos
  rw [Nat.mul_comm] at hlt
  exact_mod_cast hlt

/-- The search ends with a number of the first grid that has one. -/
theorem exists_search_eq (top : ℤ) {tries digits : ℕ} (htries : 0 < tries)
    (hlast : (onGrid tie i (top - (digits + tries - 1 : ℕ))).isSome = true) :
    ∃ places < digits + tries, ∃ k, onGrid tie i (top - places) = some k ∧
      search tie i top tries digits = (k, top - places) := by
  induction tries generalizing digits with
  | zero => cases htries
  | succ tries ih =>
      rw [search]
      split
      · rename_i k hk
        exact ⟨digits, by omega, k, hk, rfl⟩
      · rename_i hnone
        rcases Nat.eq_zero_or_pos tries with rfl | hpos
        · rw [Nat.add_sub_cancel, hnone] at hlast
          cases hlast
        · rw [show digits + (tries + 1) - 1 = digits + 1 + tries - 1 by omega] at hlast
          obtain ⟨places, hplaces, k, hk, hsearch⟩ := ih hpos hlast
          exact ⟨places, by omega, k, hk, hsearch⟩

end Interval

theorem dropZeros_spec (tries k : ℕ) (scale : ℤ) (hk : 0 < k) :
    ∃ k' scale', dropZeros tries (k, scale) = (k', scale') ∧ 0 < k' ∧ k' ≤ k ∧
      (k' : ℚ) * 10 ^ scale' = k * 10 ^ scale := by
  induction tries generalizing k scale with
  | zero => exact ⟨k, scale, rfl, hk, le_rfl, rfl⟩
  | succ tries ih =>
      rw [dropZeros]
      split
      · rename_i h
        obtain ⟨k', scale', heq, hpos, hle, hvalue⟩ := ih (k / 10) (scale + 1) (by omega)
        refine ⟨k', scale', heq, hpos, by omega, hvalue.trans ?_⟩
        have hten : (k : ℚ) = 10 * (k / 10 : ℕ) := by
          exact_mod_cast (Nat.mul_div_cancel' (Nat.dvd_of_mod_eq_zero h.2)).symm
        rw [zpow_add₀ (by norm_num), zpow_one, hten]
        ring
      · exact ⟨k, scale, rfl, hk, le_rfl, rfl⟩

/-! ## Doubles -/

section Double

variable {b : Binary} {v : ℚ}

theorem two_zpow (e : ℤ) : (2 : ℚ) ^ e = (pow2 e.toNat : ℕ) / (pow2 (-e).toNat : ℕ) := by
  have hcast : ∀ n, ((pow2 n : ℕ) : ℚ) = 2 ^ n := fun n => by
    show ((2 ^ n : ℕ) : ℚ) = 2 ^ n
    push_cast
    rfl
  rw [hcast, hcast, ← zpow_natCast, ← zpow_natCast, ← zpow_sub₀ (by norm_num)]
  congr 1
  omega

theorem Binary.den_pos (b : Binary) : 0 < b.interval.den :=
  Nat.mul_pos (by decide) (pow2_pos _)

/-- A multiple of a fourth of the last place, as a fraction with the denominator of the interval. -/
theorem Binary.div_den (b : Binary) (n : ℕ) :
    ((n * pow2 b.exponent.toNat : ℕ) : ℚ) / b.interval.den = n / 4 * 2 ^ b.exponent := by
  rw [two_zpow]
  show _ / ((4 * pow2 (-b.exponent).toNat : ℕ) : ℚ) = _
  push_cast
  rw [mul_div_mul_comm]

theorem Binary.middle_div (b : Binary) :
    (b.interval.middle : ℚ) / b.interval.den = b.mantissa * 2 ^ b.exponent := by
  refine (b.div_den (4 * b.mantissa)).trans ?_
  push_cast
  ring

theorem Binary.upper_div (b : Binary) :
    (b.interval.upper : ℚ) / b.interval.den = (b.mantissa + 1 / 2) * 2 ^ b.exponent := by
  refine (b.div_den (4 * b.mantissa + 2)).trans ?_
  push_cast
  ring

theorem Binary.lower_div (hm : 0 < b.mantissa) :
    (b.interval.lower : ℚ) / b.interval.den =
      (b.mantissa - if b.mantissa = 2 ^ 52 ∧ b.exponent ≠ -1074 then 1 / 4 else 1 / 2) *
        2 ^ b.exponent := by
  refine (b.div_den (4 * b.mantissa - _)).trans ?_
  have hcond : (b.mantissa == hiddenBit && b.exponent != leastExponent) = true ↔
      b.mantissa = 2 ^ 52 ∧ b.exponent ≠ -1074 := by
    rw [Bool.and_eq_true, beq_iff_eq, bne_iff_ne]
    rfl
  simp only [hcond]
  split
  · rw [Nat.cast_sub (by omega)]
    push_cast
    ring
  · rw [Nat.cast_sub (by omega)]
    push_cast
    ring

/-- What is in the interval of a double rounds to it. -/
theorem Binary.roundsTo_of_contains (hm : 0 < b.mantissa) (h : b.interval.Contains v) :
    RoundsTo b.mantissa b.exponent v := by
  unfold Interval.Contains at h
  rw [b.upper_div, lower_div hm] at h
  have hclosed : b.interval.closed = (b.mantissa % 2 == 0) := rfl
  rw [hclosed] at h
  split at h
  · rename_i heven
    refine ⟨h.1, h.2, fun hodd => ?_⟩
    rw [beq_iff_eq] at heven
    omega
  · refine ⟨h.1.le, h.2.le, fun hodd => ⟨?_, h.2⟩⟩
    rw [if_neg (by rintro ⟨heq, -⟩; rw [heq] at hodd; exact absurd hodd (by decide))] at h
    exact h.1

/-- Seventeen digits after the first are enough. -/
theorem Binary.hasOnGrid_last (hm : 0 < b.mantissa) (hlt : b.mantissa < 2 ^ 53) {top : ℤ}
    (htop : (10 : ℚ) ^ top ≤ b.mantissa * 2 ^ b.exponent) :
    b.interval.hasOnGrid (top - 17) (b.interval.below (top - 17) + 1) = true := by
  have htwo : (0 : ℚ) < 2 ^ b.exponent := by positivity
  obtain ⟨hbelow, habove⟩ := below_bounds b.den_pos (top - 17)
  rw [b.middle_div] at hbelow habove
  have hstep : (10 : ℚ) ^ (top - 17) < 1 / 2 * 2 ^ b.exponent := by
    have hlt' : (b.mantissa : ℚ) < 2 ^ 53 := by exact_mod_cast hlt
    have hten : (10 : ℚ) ^ (top - 17) = 10 ^ top / 10 ^ 17 := by
      rw [zpow_sub₀ (by norm_num)]
      norm_cast
    rw [hten, div_lt_iff₀ (by norm_num)]
    calc (10 : ℚ) ^ top ≤ b.mantissa * 2 ^ b.exponent := htop
      _ < 2 ^ 53 * 2 ^ b.exponent := mul_lt_mul_of_pos_right hlt' htwo
      _ ≤ 1 / 2 * 10 ^ 17 * 2 ^ b.exponent :=
          mul_le_mul_of_nonneg_right (by norm_num) htwo.le
      _ = _ := by ring
  rw [Interval.hasOnGrid_iff b.den_pos]
  push_cast
  refine Interval.contains_of_lt (lt_of_le_of_lt ?_ habove) ?_
  · rw [lower_div hm]
    refine mul_le_mul_of_nonneg_right ?_ htwo.le
    split <;> linarith
  · rw [b.upper_div]
    linarith

theorem Binary.search_spec (tie : Tie) (hm : 0 < b.mantissa)
    (hfits : Fits b.mantissa b.exponent) :
    ∃ k scale, search tie b.interval (magnitude b.interval.middle b.interval.den) 18 0 =
      (k, scale) ∧ 0 < k ∧ k ≤ 10 ^ 18 ∧ RoundsTo b.mantissa b.exponent (k * 10 ^ scale) := by
  have hlt : b.mantissa < 2 ^ 53 := by
    rcases hfits with h | h <;> omega
  have hexponent : b.exponent.toNat ≤ 971 ∧ (-b.exponent).toNat ≤ 1074 := by
    rcases hfits with h | h <;> omega
  have hpos : 0 < b.interval.middle := Nat.mul_pos (by omega) (pow2_pos _)
  have hmiddle : b.interval.middle.log2 < 1100 := by
    rw [Nat.log2_lt hpos.ne']
    calc 4 * b.mantissa * 2 ^ b.exponent.toNat
        ≤ 4 * 2 ^ 53 * 2 ^ 971 := Nat.mul_le_mul (by omega)
          (Nat.pow_le_pow_right (by decide) hexponent.1)
      _ < 2 ^ 1100 := by decide +kernel
  have hden : b.interval.den.log2 < 1100 := by
    rw [Nat.log2_lt b.den_pos.ne']
    calc 4 * 2 ^ (-b.exponent).toNat
        ≤ 4 * 2 ^ 1074 := Nat.mul_le_mul_left _ (Nat.pow_le_pow_right (by decide) hexponent.2)
      _ < 2 ^ 1100 := by decide +kernel
  obtain ⟨htop, htop'⟩ := magnitude_bounds hpos hmiddle b.den_pos hden
  rw [b.middle_div] at htop htop'
  obtain ⟨top, heq⟩ : ∃ top, magnitude b.interval.middle b.interval.den = top := ⟨_, rfl⟩
  rw [heq] at htop htop' ⊢
  have hlast : (onGrid tie b.interval (top - (0 + 18 - 1 : ℕ))).isSome = true :=
    isSome_onGrid (b.hasOnGrid_last hm hlt htop)
  obtain ⟨places, hplaces, k, hk, hsearch⟩ := exists_search_eq top (by decide : 0 < 18) hlast
  obtain ⟨hgrid, hle⟩ := onGrid_some hk
  have hround := roundsTo_of_contains hm ((Interval.hasOnGrid_iff b.den_pos).mp hgrid)
  have hten : (0 : ℚ) < 10 ^ (top - places) := by positivity
  refine ⟨k, top - places, hsearch, ?_, ?_, hround⟩
  · rcases Nat.eq_zero_or_pos k with rfl | hkpos
    · have hlow := hround.low
      have hone : (1 : ℚ) ≤ b.mantissa := by exact_mod_cast hm
      have htwo : (0 : ℚ) < 2 ^ b.exponent := by positivity
      rw [Nat.cast_zero, zero_mul] at hlow
      refine absurd hlow (not_le.mpr (mul_pos ?_ htwo))
      split <;> linarith
    · exact hkpos
  · have hbelow := (below_bounds b.den_pos (top - places)).1
    rw [b.middle_div] at hbelow
    have hlt' : (b.interval.below (top - places) : ℚ) < 10 ^ 18 := by
      refine lt_of_mul_lt_mul_right (lt_of_le_of_lt hbelow (htop'.trans_le ?_)) hten.le
      rw [← zpow_natCast, ← zpow_add₀ (by norm_num)]
      exact zpow_le_zpow_right₀ (by norm_num) (by omega)
    have : b.interval.below (top - places) < 10 ^ 18 := by exact_mod_cast hlt'
    omega

/-- The fewest digits of a double stand for a number that rounds to it. -/
theorem shortest_roundsTo (tie : Tie) (hm : 0 < b.mantissa) (hfits : Fits b.mantissa b.exponent) :
    ∃ k scale, shortest tie b = ⟨b.negative, k, scale⟩ ∧ 0 < k ∧ k ≤ 10 ^ 18 ∧
      RoundsTo b.mantissa b.exponent (k * 10 ^ scale) := by
  obtain ⟨k, scale, hsearch, hpos, hle, hround⟩ := b.search_spec tie hm hfits
  obtain ⟨k', scale', hdrop, hpos', hle', hvalue⟩ := dropZeros_spec 20 k scale hpos
  refine ⟨k', scale', ?_, hpos', hle'.trans hle, ?_⟩
  · rw [shortest, if_neg hm.ne']
    dsimp only
    rw [hsearch, hdrop]
  · rwa [hvalue]

theorem shortest_zero (tie : Tie) (hm : b.mantissa = 0) : shortest tie b = ⟨b.negative, 0, 0⟩ :=
  if_pos hm

end Double

end Telemetry.Decimal
