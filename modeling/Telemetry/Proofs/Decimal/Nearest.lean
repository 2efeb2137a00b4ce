import Telemetry.Proofs.Decimal.Rounding

/-!
# The nearest double

`RoundsTo m e v` says that `m · 2 ^ e` is the double nearest to `v`, a tie going to the even
mantissa. A mantissa that is cut to 53 bits keeps two bits of the rest (`Cuts`), and they are enough
to find that double (`roundWithAccuracy_eq`), also when it is one binade up. Products and quotients
of doubles, and digits with a scale (`ofScientific_eq`), are rounded this way, so a decimal is read
as the double that it rounds to (`nearest_eq`).
-/

namespace Telemetry.Decimal

open Float.Model Float.Model.UnpackedFloat

/-! ## Cutting -/

/-- The mantissa is what is left of a number; two bits say how the rest compares to a half. -/
def Cuts (em : ExtendedMantissa) (v : ℚ) : Prop :=
  match em.roundBit, em.stickyBit with
  | false, false => v = em.mantissa
  | false, true => em.mantissa < v ∧ v < em.mantissa + 1 / 2
  | true, false => v = em.mantissa + 1 / 2
  | true, true => em.mantissa + 1 / 2 < v ∧ v < em.mantissa + 1

variable {em : ExtendedMantissa} {v : ℚ}

theorem Cuts.mantissa_le (h : Cuts em v) : em.mantissa ≤ v := by
  obtain ⟨m, r, s⟩ := em
  cases r <;> cases s <;> simp only [Cuts] at h <;> linarith

theorem Cuts.lt_mantissa (h : Cuts em v) : v < em.mantissa + 1 := by
  obtain ⟨m, r, s⟩ := em
  cases r <;> cases s <;> simp only [Cuts] at h <;> linarith

theorem Cuts.shiftRightOne (h : Cuts em v) : Cuts em.shiftRightOne (v / 2) := by
  obtain ⟨m, r, s⟩ := em
  have hm : (m : ℚ) = 2 * (m / 2 : ℕ) + (m % 2 : ℕ) := by
    exact_mod_cast (Nat.div_add_mod m 2).symm
  rcases Nat.mod_two_eq_zero_or_one m with hbit | hbit
  all_goals
    rw [hbit] at hm
    cases r <;> cases s <;> simp [Cuts, ExtendedMantissa.shiftRightOne, hbit] at h ⊢ <;>
      first | linarith | exact ⟨by linarith, by linarith⟩

theorem Cuts.shiftRight (h : Cuts em v) (k : ℕ) : Cuts (em >>> k) (v / 2 ^ k) := by
  induction k with
  | zero =>
      rw [pow_zero, div_one]
      exact h
  | succ k ih =>
      have hdiv : v / 2 ^ (k + 1) = v / 2 ^ k / 2 := by
        rw [pow_succ, div_div]
      rw [hdiv]
      exact ih.shiftRightOne

theorem Cuts.roundedMantissa_eq {m : ℕ} (h : Cuts em v) (hlow : (m : ℚ) - 1 / 2 ≤ v)
    (hhigh : v ≤ m + 1 / 2) (htie : m % 2 = 1 → (m : ℚ) - 1 / 2 < v ∧ v < m + 1 / 2) :
    em.roundedMantissa = m := by
  obtain ⟨q, r, s⟩ := em
  have hle : ∀ {a b : ℕ}, (a : ℚ) < b + 1 → a ≤ b := fun hlt =>
    Nat.lt_succ_iff.mp (by exact_mod_cast hlt)
  cases r <;> cases s <;> simp only [Cuts] at h
  · show q = m
    exact Nat.le_antisymm (hle (by linarith)) (hle (by linarith))
  · show q = m
    exact Nat.le_antisymm (hle (by linarith)) (hle (by linarith))
  · -- a tie goes to the even neighbour
    show q + q % 2 = m
    have hqm : q ≤ m := hle (by linarith)
    have hmq : m ≤ q + 1 := hle (by push_cast; linarith)
    rcases Nat.mod_two_eq_zero_or_one m with heven | hodd
    · omega
    · obtain ⟨hlow', hhigh'⟩ := htie hodd
      have hlt : q < m := by
        have : (q : ℚ) < m := by linarith
        exact_mod_cast this
      have hlt' : m < q + 1 := by
        have : (m : ℚ) < q + 1 := by linarith
        exact_mod_cast this
      omega
  · have hqm : q + 1 ≤ m := hle (by push_cast; linarith)
    have hmq : m ≤ q + 1 := hle (by push_cast; linarith)
    exact Nat.le_antisymm hqm hmq

theorem cuts_exact (m : ℕ) : Cuts (.ofMantissaAndAccuracy m .exact) m := rfl

theorem cuts_div (n : ℕ) {d : ℕ} (hd : 0 < d) :
    Cuts (.ofMantissaAndAccuracy (n / d) (accuracyOfFraction (n % d) d)) (n / d : ℚ) := by
  have hd' : (0 : ℚ) < d := by exact_mod_cast hd
  have hv : (n : ℚ) / d = (n / d : ℕ) + (n % d : ℕ) / d := by
    have hn : (n : ℚ) = d * (n / d : ℕ) + (n % d : ℕ) := by
      exact_mod_cast (Nat.div_add_mod n d).symm
    rw [hn]
    field_simp
  have hlt : n % d < d := Nat.mod_lt n hd
  rw [hv]
  unfold accuracyOfFraction
  split
  · rename_i hzero
    simp [Cuts, ExtendedMantissa.ofMantissaAndAccuracy, hzero]
  · rename_i hsome
    have hpos : (0 : ℚ) < (n % d : ℕ) / d := by
      apply div_pos _ hd'
      exact_mod_cast Nat.pos_of_ne_zero hsome
    have hone : ((n % d : ℕ) : ℚ) / d < 1 := by
      rw [div_lt_one hd']
      exact_mod_cast hlt
    rcases lt_trichotomy (2 * (n % d)) d with h | h | h
    · rw [compare_lt_iff_lt.mpr h]
      have hhalf : ((n % d : ℕ) : ℚ) / d < 1 / 2 := by
        rw [div_lt_iff₀ hd']
        have : (2 : ℚ) * (n % d : ℕ) < d := by exact_mod_cast h
        linarith
      show ((n / d : ℕ) : ℚ) < _ ∧ _ < ((n / d : ℕ) : ℚ) + 1 / 2
      constructor <;> linarith
    · rw [compare_eq_iff_eq.mpr h]
      have hhalf : ((n % d : ℕ) : ℚ) / d = 1 / 2 := by
        rw [div_eq_iff hd'.ne']
        have : (2 : ℚ) * (n % d : ℕ) = d := by exact_mod_cast h
        linarith
      show _ = ((n / d : ℕ) : ℚ) + 1 / 2
      rw [hhalf]
    · rw [compare_gt_iff_gt.mpr h]
      have hhalf : 1 / 2 < ((n % d : ℕ) : ℚ) / d := by
        rw [lt_div_iff₀ hd']
        have : (d : ℚ) < 2 * (n % d : ℕ) := by exact_mod_cast h
        linarith
      show ((n / d : ℕ) : ℚ) + 1 / 2 < _ ∧ _ < ((n / d : ℕ) : ℚ) + 1
      constructor <;> linarith

/-! ## Rounding -/

/-- The numbers for which `m · 2 ^ e` is the nearest double, those half-way to a neighbour if `m` is
even. Below a power of two the neighbour is half as far. -/
structure RoundsTo (m : ℕ) (e : ℤ) (v : ℚ) : Prop where
  low : ((m : ℚ) - if m = 2 ^ 52 ∧ e ≠ -1074 then 1 / 4 else 1 / 2) * 2 ^ e ≤ v
  high : v ≤ ((m : ℚ) + 1 / 2) * 2 ^ e
  odd : m % 2 = 1 → ((m : ℚ) - 1 / 2) * 2 ^ e < v ∧ v < ((m : ℚ) + 1 / 2) * 2 ^ e

section Rounding

variable {M m : ℕ} {E e t : ℤ} {acc : Accuracy}

theorem mantissa_ofMantissaAndAccuracy (m : ℕ) (acc : Accuracy) :
    (ExtendedMantissa.ofMantissaAndAccuracy m acc).mantissa = m := by
  rcases acc with _ | (_ | _ | _) <;> rfl

/-- The exponent that a mantissa is shifted to is that which the number has as a double. -/
theorem targetExponent_eq (hcuts : Cuts (.ofMantissaAndAccuracy M acc) (v / 2 ^ E))
    (hE : 2 ^ 52 ≤ M ∨ E ≤ -1074) (ht : -1074 ≤ t) (hlow : (2 : ℚ) ^ (t + 52) ≤ v ∨ t = -1074)
    (hhigh : v < 2 ^ (t + 53)) :
    Format.targetExponent .binary64 (totalExponent M E) = t ∧ E ≤ t := by
  have hpos : (0 : ℚ) < 2 ^ E := by positivity
  have hle : (M : ℚ) * 2 ^ E ≤ v := by
    have := hcuts.mantissa_le
    rwa [mantissa_ofMantissaAndAccuracy, le_div_iff₀ hpos] at this
  have hlt : v < ((M : ℚ) + 1) * 2 ^ E := by
    have := hcuts.lt_mantissa
    rwa [mantissa_ofMantissaAndAccuracy, div_lt_iff₀ hpos] at this
  have htarget : Format.targetExponent .binary64 (totalExponent M E) =
      max ((M.log2 : ℤ) + 1 + E - 53) (-1074) := rfl
  rw [htarget]
  rcases Nat.eq_zero_or_pos M with rfl | hM
  · have hE' : E ≤ -1074 := hE.resolve_left (by decide)
    have hv : v < 2 ^ (t + 52) := by
      calc v < (((0 : ℕ) : ℚ) + 1) * 2 ^ E := hlt
        _ = 2 ^ E := by simp
        _ ≤ 2 ^ (t + 52) := zpow_le_zpow_right₀ (by norm_num) (by omega)
    have ht' : t = -1074 := hlow.resolve_left (not_le.mpr hv)
    have hlog : Nat.log2 0 = 0 := rfl
    rw [hlog]
    omega
  · have hlog : ((2 : ℚ) ^ (M.log2 : ℤ)) ≤ M := by
      rw [zpow_natCast]
      exact_mod_cast Nat.log2_self_le (Nat.ne_of_gt hM)
    have hlog' : (M : ℚ) + 1 ≤ 2 ^ ((M.log2 : ℤ) + 1) := by
      rw [show (M.log2 : ℤ) + 1 = ((M.log2 + 1 : ℕ) : ℤ) by simp, zpow_natCast]
      exact_mod_cast Nat.lt_log2_self
    have hupper : (M.log2 : ℤ) + E < t + 53 := by
      apply (zpow_lt_zpow_iff_right₀ (one_lt_two : (1 : ℚ) < 2)).mp
      calc (2 : ℚ) ^ ((M.log2 : ℤ) + E) = 2 ^ (M.log2 : ℤ) * 2 ^ E := zpow_add₀ (by norm_num) _ _
        _ ≤ M * 2 ^ E := mul_le_mul_of_nonneg_right hlog hpos.le
        _ ≤ v := hle
        _ < 2 ^ (t + 53) := hhigh
    have hlower : (2 : ℚ) ^ (t + 52) ≤ v → t + 52 < M.log2 + 1 + E := by
      intro h
      apply (zpow_lt_zpow_iff_right₀ (one_lt_two : (1 : ℚ) < 2)).mp
      calc (2 : ℚ) ^ (t + 52) ≤ v := h
        _ < ((M : ℚ) + 1) * 2 ^ E := hlt
        _ ≤ 2 ^ ((M.log2 : ℤ) + 1) * 2 ^ E := mul_le_mul_of_nonneg_right hlog' hpos.le
        _ = 2 ^ ((M.log2 : ℤ) + 1 + E) := (zpow_add₀ (by norm_num) _ _).symm
    have hlog52 : 2 ^ 52 ≤ M → 52 ≤ M.log2 := (Nat.le_log2 (Nat.ne_of_gt hM)).mpr
    constructor
    · rcases hlow with h | h
      · have := hlower h
        omega
      · omega
    · rcases hE with h | h
      · have := hlog52 h
        omega
      · omega

theorem shiftToTargetExponent_eq (hcuts : Cuts (.ofMantissaAndAccuracy M acc) (v / 2 ^ E))
    (hE : 2 ^ 52 ≤ M ∨ E ≤ -1074) (ht : -1074 ≤ t) (hlow : (2 : ℚ) ^ (t + 52) ≤ v ∨ t = -1074)
    (hhigh : v < 2 ^ (t + 53)) :
    ∃ em, shiftToTargetExponent .binary64 M E acc = (em, t) ∧ Cuts em (v / 2 ^ t) := by
  obtain ⟨htarget, hle⟩ := targetExponent_eq hcuts hE ht hlow hhigh
  have hshift : E + ((t - E).toNat : ℤ) = t := by omega
  refine ⟨ExtendedMantissa.ofMantissaAndAccuracy M acc >>> (t - E).toNat, ?_, ?_⟩
  · rw [shiftToTargetExponent, htarget, shiftToExponent, hshift]
  · have hdiv : v / 2 ^ t = v / 2 ^ E / 2 ^ (t - E).toNat := by
      rw [div_div, ← zpow_natCast, ← zpow_add₀ (by norm_num), hshift]
    rw [hdiv]
    exact hcuts.shiftRight _

theorem Cuts.mantissa_eq (h : Cuts em (m : ℚ)) : em.mantissa = m := by
  have hle : em.mantissa ≤ m := by exact_mod_cast h.mantissa_le
  have hlt : m < em.mantissa + 1 := by exact_mod_cast h.lt_mantissa
  omega

theorem two_zpow_add (e : ℤ) (k : ℕ) : (2 : ℚ) ^ (e + k) = ((2 ^ k : ℕ) : ℚ) * 2 ^ e := by
  rw [zpow_add₀ (by norm_num), zpow_natCast, mul_comm]
  norm_cast

theorem Fits.bounds (h : Fits m e) :
    -1074 ≤ e ∧ ((2 : ℚ) ^ (e + 52) ≤ m * 2 ^ e ∨ e = -1074) ∧ (m : ℚ) * 2 ^ e < 2 ^ (e + 53) := by
  have hpos : (0 : ℚ) < 2 ^ e := by positivity
  have hlow : (2 : ℚ) ^ (e + 52) = ((2 ^ 52 : ℕ) : ℚ) * 2 ^ e := two_zpow_add e 52
  have hhigh : (2 : ℚ) ^ (e + 53) = ((2 ^ 53 : ℕ) : ℚ) * 2 ^ e := two_zpow_add e 53
  have hlt : m < 2 ^ 53 := by
    rcases h with h | h <;> omega
  refine ⟨?_, ?_, ?_⟩
  · rcases h with h | h <;> omega
  · rcases h with h | h
    · rw [hlow]
      exact .inl (mul_le_mul_of_nonneg_right (by exact_mod_cast h.1) hpos.le)
    · exact .inr h.2
  · rw [hhigh]
    exact mul_lt_mul_of_pos_right (by exact_mod_cast hlt) hpos

/-- After rounding a carry may need another shift. -/
theorem roundWithAccuracy_of_first {s : Sign}
    (hfirst : shiftToTargetExponent .binary64 M E acc = (em, t)) (hm : 0 < m) (hfits : Fits m e)
    (hround : (em.roundedMantissa : ℚ) * 2 ^ t = m * 2 ^ e)
    (ht : 2 ^ 52 ≤ em.roundedMantissa ∨ t ≤ -1074) :
    roundWithAccuracy .binary64 s M E acc = .finite s m e hm := by
  have hcuts : Cuts (.ofMantissaAndAccuracy em.roundedMantissa .exact)
      ((m : ℚ) * 2 ^ e / 2 ^ t) := by
    rw [← hround, mul_div_cancel_right₀ _ (by positivity)]
    exact cuts_exact _
  obtain ⟨he, hlow, hhigh⟩ := hfits.bounds
  obtain ⟨em', hsecond, hcuts'⟩ := shiftToTargetExponent_eq hcuts ht he hlow hhigh
  rw [mul_div_cancel_right₀ _ (by positivity)] at hcuts'
  have hmantissa : em'.mantissa = m := hcuts'.mantissa_eq
  rw [roundWithAccuracy, hfirst]
  dsimp only
  rw [hsecond]
  dsimp only
  rw [dif_neg (by omega)]
  simp only [hmantissa]

variable {s : Sign}

/-- A number below a power of two is rounded up to it from the binade below. -/
theorem roundWithAccuracy_power (hcuts : Cuts (.ofMantissaAndAccuracy M acc) (v / 2 ^ E))
    (hE : 2 ^ 52 ≤ M ∨ E ≤ -1074) (hm : 0 < m) (hpower : m = 2 ^ 52) (he : -1074 < e)
    (hfits : Fits m e) (hlow : ((2 : ℚ) ^ 53 - 1 / 2) * 2 ^ (e - 1) ≤ v)
    (hhigh : v < 2 ^ 53 * 2 ^ (e - 1)) :
    roundWithAccuracy .binary64 s M E acc = .finite s m e hm := by
  subst hpower
  have hpos : (0 : ℚ) < 2 ^ (e - 1) := by positivity
  have h52 : (2 : ℚ) ^ (e - 1 + 52) = ((2 ^ 52 : ℕ) : ℚ) * 2 ^ (e - 1) := two_zpow_add (e - 1) 52
  have h53 : (2 : ℚ) ^ (e - 1 + 53) = ((2 ^ 53 : ℕ) : ℚ) * 2 ^ (e - 1) := two_zpow_add (e - 1) 53
  obtain ⟨em, hfirst, hem⟩ := shiftToTargetExponent_eq (t := e - 1) hcuts hE (by omega)
    (.inl (by
      rw [h52]
      exact le_trans (mul_le_mul_of_nonneg_right (by norm_num) hpos.le) hlow))
    (by
      rw [h53]
      exact_mod_cast hhigh)
  have hround : em.roundedMantissa = 2 ^ 53 := by
    refine hem.roundedMantissa_eq ?_ ?_ fun h => absurd h (by decide)
    · rw [le_div_iff₀ hpos]
      exact_mod_cast hlow
    · rw [div_le_iff₀ hpos]
      push_cast
      linarith
  refine roundWithAccuracy_of_first hfirst hm hfits ?_ (.inl ?_)
  · have htwo : (2 : ℚ) ^ e = 2 * 2 ^ (e - 1) := by
      rw [zpow_sub₀ (by norm_num), zpow_one, mul_div_cancel₀ _ (by norm_num)]
    rw [hround, htwo]
    push_cast
    ring
  · rw [hround]
    decide

/-- A number between the least and the greatest of a binade is rounded within it. -/
theorem roundWithAccuracy_binade (hcuts : Cuts (.ofMantissaAndAccuracy M acc) (v / 2 ^ E))
    (hE : 2 ^ 52 ≤ M ∨ E ≤ -1074) (hm : 0 < m) (hfits : Fits m e) (hv : RoundsTo m e v)
    (hlow : (2 : ℚ) ^ (e + 52) ≤ v ∨ e = -1074) :
    roundWithAccuracy .binary64 s M E acc = .finite s m e hm := by
  have hpos : (0 : ℚ) < 2 ^ e := by positivity
  have h53 : (2 : ℚ) ^ (e + 53) = ((2 ^ 53 : ℕ) : ℚ) * 2 ^ e := two_zpow_add e 53
  have hhigh : v < 2 ^ (e + 53) := by
    have hlt : m + 1 ≤ 2 ^ 53 := by
      rcases hfits with h | h <;> omega
    have hlt' : (m : ℚ) + 1 ≤ ((2 ^ 53 : ℕ) : ℚ) := by exact_mod_cast hlt
    have hhalf : (m : ℚ) + 1 / 2 < m + 1 := by linarith
    rw [h53]
    exact lt_of_le_of_lt hv.high (mul_lt_mul_of_pos_right (hhalf.trans_le hlt') hpos)
  obtain ⟨em, hfirst, hem⟩ := shiftToTargetExponent_eq hcuts hE hfits.bounds.1 hlow hhigh
  have hround : em.roundedMantissa = m := by
    refine hem.roundedMantissa_eq ?_ ?_ fun h => ?_
    · rw [le_div_iff₀ hpos]
      refine le_trans (mul_le_mul_of_nonneg_right ?_ hpos.le) hv.low
      split <;> linarith
    · rw [div_le_iff₀ hpos]
      exact hv.high
    · rw [lt_div_iff₀ hpos, div_lt_iff₀ hpos]
      exact hv.odd h
  refine roundWithAccuracy_of_first hfirst hm hfits (by rw [hround]) ?_
  rw [hround]
  rcases hfits with h | h
  · exact .inl h.1
  · exact .inr h.2.le

/-- A number is rounded to the nearest double. -/
theorem roundWithAccuracy_eq (hcuts : Cuts (.ofMantissaAndAccuracy M acc) (v / 2 ^ E))
    (hE : 2 ^ 52 ≤ M ∨ E ≤ -1074) (hm : 0 < m) (hfits : Fits m e) (hv : RoundsTo m e v) :
    roundWithAccuracy .binary64 s M E acc = .finite s m e hm := by
  by_cases hbinade : (2 : ℚ) ^ (e + 52) ≤ v ∨ e = -1074
  · exact roundWithAccuracy_binade hcuts hE hm hfits hv hbinade
  obtain ⟨hlt, he⟩ := not_or.mp hbinade
  have hpos : (0 : ℚ) < 2 ^ e := by positivity
  have h52 : (2 : ℚ) ^ (e + 52) = ((2 ^ 52 : ℕ) : ℚ) * 2 ^ e := two_zpow_add e 52
  have hfits' : 2 ^ 52 ≤ m ∧ -1074 ≤ e := by
    rcases hfits with h | h <;> omega
  -- only the least mantissa has a number of the binade below among those that round to it
  have hpower : m = 2 ^ 52 := by
    have hlt' : ((m : ℚ) - 1 / 2) * 2 ^ e < ((2 ^ 52 : ℕ) : ℚ) * 2 ^ e := by
      refine lt_of_le_of_lt (le_trans (mul_le_mul_of_nonneg_right ?_ hpos.le) hv.low)
        (h52 ▸ not_le.mp hlt)
      split <;> linarith
    have hlt'' : (m : ℚ) < (2 ^ 52 + 1 : ℕ) := by
      have := lt_of_mul_lt_mul_right hlt' hpos.le
      push_cast at this ⊢
      linarith
    have : m < 2 ^ 52 + 1 := by exact_mod_cast hlt''
    omega
  have htwo : (2 : ℚ) ^ e = 2 * 2 ^ (e - 1) := by
    rw [zpow_sub₀ (by norm_num), zpow_one, mul_div_cancel₀ _ (by norm_num)]
  refine roundWithAccuracy_power hcuts hE hm hpower (by omega) hfits ?_ ?_
  · have hlow := hv.low
    rw [if_pos ⟨hpower, he⟩, hpower, htwo] at hlow
    push_cast at hlow
    linarith
  · have hhigh := not_le.mp hlt
    rw [h52, htwo] at hhigh
    push_cast at hhigh
    linarith

/-! ## Products and quotients -/

variable {s r : Sign} {m₁ m₂ : ℕ} {e₁ e₂ : ℤ}

theorem mul_eq (h₁ : 0 < m₁) (h₂ : 0 < m₂) (hE : 2 ^ 52 ≤ m₁ * m₂) (hm : 0 < m)
    (hfits : Fits m e) (hv : RoundsTo m e (m₁ * 2 ^ e₁ * (m₂ * 2 ^ e₂))) :
    UnpackedFloat.mul .binary64 (.finite s m₁ e₁ h₁) (.finite r m₂ e₂ h₂) =
      .finite (s * r) m e hm := by
  refine roundWithAccuracy_eq ?_ (.inl hE) hm hfits hv
  have hcut : (m₁ : ℚ) * 2 ^ e₁ * (m₂ * 2 ^ e₂) / 2 ^ (e₁ + e₂) = (m₁ * m₂ : ℕ) := by
    rw [zpow_add₀ (by norm_num), Nat.cast_mul]
    field_simp
  rw [hcut]
  exact cuts_exact _

theorem div_eq (h₁ : 0 < m₁) (h₂ : 0 < m₂) (hm : 0 < m) (hfits : Fits m e)
    (hv : RoundsTo m e (m₁ * 2 ^ e₁ / (m₂ * 2 ^ e₂))) :
    UnpackedFloat.div .binary64 (.finite s m₁ e₁ h₁) (.finite r m₂ e₂ h₂) =
      .finite (s / r) m e hm := by
  obtain ⟨t, ht⟩ : ∃ t, min (e₁ - e₂) (Format.targetExponent .binary64
      (totalExponent m₁ e₁ - totalExponent m₂ e₂)) = t := ⟨_, rfl⟩
  have hcore : divCore .binary64 m₁ e₁ m₂ e₂ = ((m₁ * 2 ^ (e₁ - e₂ - t).toNat) / m₂, t,
      accuracyOfFraction ((m₁ * 2 ^ (e₁ - e₂ - t).toNat) % m₂) m₂) := by
    simp only [divCore, ht, Nat.shiftLeft_eq]
  obtain ⟨k, hk⟩ : ∃ k, (e₁ - e₂ - t).toNat = k := ⟨_, rfl⟩
  rw [hk] at hcore
  have hsum : t + (k : ℤ) = e₁ - e₂ := by
    have : t ≤ e₁ - e₂ := ht ▸ min_le_left _ _
    omega
  rw [UnpackedFloat.div, hcore]
  refine roundWithAccuracy_eq ?_ ?_ hm hfits hv
  · have hcut : (m₁ : ℚ) * 2 ^ e₁ / (m₂ * 2 ^ e₂) / 2 ^ t = (m₁ * 2 ^ k : ℕ) / (m₂ : ℕ) := by
      have hpow : (2 : ℚ) ^ e₁ = 2 ^ e₂ * (2 ^ t * 2 ^ k) := by
        rw [← zpow_natCast, ← zpow_add₀ (by norm_num), ← zpow_add₀ (by norm_num)]
        congr 1
        omega
      have hm₂ : (m₂ : ℚ) ≠ 0 := by exact_mod_cast h₂.ne'
      rw [hpow]
      push_cast
      field_simp
    rw [hcut]
    exact cuts_div _ h₂
  · -- either the quotient has enough bits, or it has the least exponent
    have htarget : t ≤ max ((m₁.log2 : ℤ) + 1 + e₁ - (m₂.log2 + 1 + e₂) - 53) (-1074) :=
      ht ▸ min_le_right _ _
    rcases le_max_iff.mp htarget with h | h
    · left
      rw [Nat.le_div_iff_mul_le h₂]
      have hk' : m₂.log2 + 53 ≤ m₁.log2 + k := by omega
      calc 2 ^ 52 * m₂ ≤ 2 ^ 52 * 2 ^ (m₂.log2 + 1) :=
            Nat.mul_le_mul_left _ Nat.lt_log2_self.le
        _ = 2 ^ (m₂.log2 + 53) := by rw [← Nat.pow_add]; congr 1; omega
        _ ≤ 2 ^ (m₁.log2 + k) := Nat.pow_le_pow_right (by decide) hk'
        _ = 2 ^ m₁.log2 * 2 ^ k := Nat.pow_add _ _ _
        _ ≤ m₁ * 2 ^ k := Nat.mul_le_mul_right _ (Nat.log2_self_le h₁.ne')
    · exact .inr h

theorem roundsTo_self (m : ℕ) (e : ℤ) : RoundsTo m e (m * 2 ^ e) := by
  have hpos : (0 : ℚ) < 2 ^ e := by positivity
  refine ⟨mul_le_mul_of_nonneg_right ?_ hpos.le, mul_le_mul_of_nonneg_right ?_ hpos.le, fun _ =>
    ⟨mul_lt_mul_of_pos_right ?_ hpos, mul_lt_mul_of_pos_right ?_ hpos⟩⟩
  · split <;> linarith
  · linarith
  · linarith
  · linarith

/-! ## Integers and powers -/

theorem ofUInt64_eq {n k : ℕ} (hn : 0 < n) (hlt : n < 2 ^ 64) (hk : n.log2 + k = 52)
    (hpos : 0 < n * 2 ^ k) (hlow : 2 ^ 52 ≤ n * 2 ^ k) (hfits : Fits (n * 2 ^ k) (-(k : ℤ))) :
    UnpackedFloat.ofUInt64 .binary64 n.toUInt64 =
      .finite .positive (n * 2 ^ k) (-(k : ℤ)) hpos := by
  have htoNat : n.toUInt64.toNat = n := by
    rw [Nat.toUInt64_eq, UInt64.toNat_ofNat']
    exact Nat.mod_eq_of_lt hlt
  have htarget : Format.targetExponent .binary64 (totalExponent n 0) = -(k : ℤ) := by
    show max ((n.log2 : ℤ) + 1 + 0 - 53) (-1074) = _
    omega
  have hcompare : compare (n : ℤ) 0 = .gt := compare_gt_iff_gt.mpr (by omega)
  have hdecrease : decreaseExponent n 0 (-(k : ℤ)) = (n * 2 ^ k, -(k : ℤ)) := by
    simp [decreaseExponent, Nat.shiftLeft_eq]
  rw [UnpackedFloat.ofUInt64, htoNat, UnpackedFloat.ofNat, UnpackedFloat.ofInt,
    UnpackedFloat.normalize, hcompare]
  dsimp only
  rw [Int.toNat_natCast, UnpackedFloat.round, htarget, hdecrease]
  dsimp only
  refine roundWithAccuracy_eq ?_ (.inl hlow) hpos hfits (roundsTo_self _ _)
  rw [mul_div_cancel_right₀ _ (by positivity)]
  exact cuts_exact _

/-- An integer of 53 bits is a double. -/
theorem exists_unpack_toFloat {n : ℕ} (hn : 0 < n) (hlt : n < 2 ^ 53) :
    ∃ m e h, n.toUInt64.toFloat.toModel.unpack = .finite .positive m e h ∧ 2 ^ 52 ≤ m ∧
      (m : ℚ) * 2 ^ e = n := by
  have hlog : n.log2 < 53 := (Nat.log2_lt hn.ne').mpr hlt
  obtain ⟨k, hk⟩ : ∃ k, n.log2 + k = 52 := ⟨52 - n.log2, by omega⟩
  have hlow : 2 ^ 52 ≤ n * 2 ^ k := by
    rw [← hk, Nat.pow_add]
    exact Nat.mul_le_mul_right _ (Nat.log2_self_le hn.ne')
  have hhigh : n * 2 ^ k < 2 ^ 53 := by
    rw [show 53 = n.log2 + 1 + k by omega, Nat.pow_add]
    exact Nat.mul_lt_mul_of_pos_right Nat.lt_log2_self (Nat.pow_pos (by decide))
  have hvalue : ((n * 2 ^ k : ℕ) : ℚ) * 2 ^ (-(k : ℤ)) = n := by
    rw [zpow_neg, zpow_natCast]
    push_cast
    field_simp
  have hpos : 0 < n * 2 ^ k := by omega
  have hfits : Fits (n * 2 ^ k) (-(k : ℤ)) := .inl ⟨hlow, hhigh, by omega, by omega⟩
  have hform := ofUInt64_eq hn (Nat.lt_trans hlt (by decide)) hk hpos hlow hfits
  refine ⟨n * 2 ^ k, -(k : ℤ), hpos, ?_, hlow, hvalue⟩
  rw [← hform]
  have hcanonical : IsCanonical (UnpackedFloat.ofUInt64 .binary64 n.toUInt64) := by
    rw [hform]
    exact hfits
  exact unpack_pack hcanonical

theorem exists_unpack_power (i : Fin 23) :
    ∃ m e h, (Float.exactlyRepresentablePowersOfTen[i]).toModel.unpack = .finite .positive m e h ∧
      2 ^ 52 ≤ m ∧ (m : ℚ) * 2 ^ e = 10 ^ (i : ℕ) := by
  have h := isPower_power i
  unfold isPower at h
  split at h
  · rename_i m e hm heq
    simp only [Bool.and_eq_true, decide_eq_true_eq, beq_iff_eq] at h
    obtain ⟨⟨he, hm'⟩, hvalue⟩ := h
    refine ⟨m, e, hm, heq, hm', ?_⟩
    obtain ⟨k, hk⟩ : ∃ k, (e + 52).toNat = k := ⟨_, rfl⟩
    have he' : e = k - 52 := by omega
    rw [hk] at hvalue
    have hvalue' : (m : ℚ) * 2 ^ k = 10 ^ (i : ℕ) * 2 ^ 52 := by exact_mod_cast hvalue
    rw [he', zpow_sub₀ (by norm_num), zpow_natCast, ← mul_div_assoc, hvalue']
    norm_num
  · cases h

/-- Without tables the digits are multiplied or divided by a power of ten. -/
theorem unpacked_ofScientific_eq {value : ℕ} {scale : ℤ} (hm : 0 < m) (hfits : Fits m e)
    (hvalue : 0 < value) (hlow : -2048 ≤ scale) (hhigh : scale ≤ 2048)
    (hv : RoundsTo m e (value * 10 ^ scale)) :
    UnpackedFloat.ofScientific .binary64 value scale = .finite .positive m e hm := by
  have hten : ∀ n : ℕ, 0 < 10 ^ n := fun n => Nat.pow_pos (by decide)
  have hpower : (2 : ℤ) ^ Format.binary64.exponentBits = 2048 := rfl
  rw [UnpackedFloat.ofScientific, dif_neg hvalue.ne', hpower, if_neg (by omega), if_neg (by omega)]
  split
  · rename_i hscale
    have hshift : 0 < value <<< Format.binary64.mantissaBits := by
      rw [Nat.shiftLeft_eq]
      exact Nat.mul_pos hvalue (Nat.pow_pos (by decide))
    have hbits : 2 ^ 52 ≤ value <<< Format.binary64.mantissaBits * 10 ^ scale.toNat := by
      have : 2 ^ 53 ≤ value * 2 ^ 53 := Nat.le_mul_of_pos_left _ hvalue
      rw [Nat.shiftLeft_eq]
      exact Nat.le_trans (Nat.le_trans (by decide) this) (Nat.le_mul_of_pos_right _ (hten _))
    refine mul_eq (s := .positive) (r := .positive) hshift (hten _) hbits hm hfits ?_
    have hvalue' : (((value <<< Format.binary64.mantissaBits : ℕ) : ℚ) *
        2 ^ (-(Format.binary64.mantissaBits : ℤ)) * ((10 ^ scale.toNat : ℕ) * 2 ^ (0 : ℤ))) =
        value * 10 ^ scale := by
      obtain ⟨n, rfl⟩ := Int.eq_ofNat_of_zero_le hscale
      rw [Nat.shiftLeft_eq, show Format.binary64.mantissaBits = 53 from rfl, zpow_neg, zpow_natCast,
        zpow_natCast, zpow_zero, mul_one, Int.toNat_natCast]
      push_cast
      field_simp
      norm_num
    rwa [hvalue']
  · rename_i hscale
    refine div_eq (s := .positive) (r := .positive) hvalue (hten _) hm hfits ?_
    have hvalue' : (value : ℚ) * 2 ^ (0 : ℤ) / (((10 ^ (-scale).toNat : ℕ) : ℚ) * 2 ^ (0 : ℤ)) =
        value * 10 ^ scale := by
      obtain ⟨n, hn⟩ := Int.eq_ofNat_of_zero_le (show 0 ≤ -scale by omega)
      rw [show scale = -(n : ℤ) by omega, neg_neg, Int.toNat_natCast, zpow_neg, zpow_natCast,
        zpow_zero, mul_one, mul_one, Nat.cast_pow, Nat.cast_ofNat, div_eq_mul_inv]
    rwa [hvalue']

/-- Digits and a scale are rounded to the nearest double. -/
theorem ofScientific_eq {value k : ℕ} {negative : Bool} {x : Float} (hm : 0 < m)
    (hx : x.toModel.unpack = .finite .positive m e hm) (hvalue : 0 < value) (hk : k ≤ 2048)
    (hv : RoundsTo m e (value * 10 ^ (if negative then -(k : ℤ) else k))) :
    Float.ofScientific value negative k = x := by
  have hfits := fits_of_unpack hx
  have hcanonical : ∀ {f : UnpackedFloat}, f = .finite .positive m e hm →
      Float.ofModel (.pack f) = x := by
    rintro f rfl
    refine eq_of_unpack_eq ?_
    rw [hx]
    exact unpack_ofModel_pack hfits
  unfold Float.ofScientific
  split
  · rename_i hfast
    obtain ⟨m₁, e₁, h₁, hunpack₁, hm₁, hvalue₁⟩ := exists_unpack_toFloat hvalue hfast.1
    obtain ⟨m₂, e₂, h₂, hunpack₂, hm₂, hvalue₂⟩ := exists_unpack_power ⟨k, by omega⟩
    dsimp only
    split
    · rename_i hnegative
      rw [if_pos hnegative, zpow_neg, zpow_natCast, ← div_eq_mul_inv, ← hvalue₁, ← hvalue₂] at hv
      have hdiv := div_eq (s := .positive) (r := .positive) h₁ h₂ hm hfits hv
      rw [← hunpack₁, ← hunpack₂] at hdiv
      exact hcanonical hdiv
    · rename_i hpositive
      rw [if_neg hpositive, zpow_natCast, ← hvalue₁, ← hvalue₂] at hv
      have hmul := mul_eq (s := .positive) (r := .positive) h₁ h₂
        (Nat.le_trans hm₁ (Nat.le_mul_of_pos_right _ h₂)) hm hfits hv
      rw [← hunpack₁, ← hunpack₂] at hmul
      exact hcanonical hmul
  · dsimp only
    have hscale : (if negative = true then Int.negOfNat k else Int.ofNat k) =
        if negative = true then -(k : ℤ) else k := by
      split
      · exact Int.negOfNat_eq
      · rfl
    rw [hscale]
    refine hcanonical (unpacked_ofScientific_eq hm hfits hvalue ?_ ?_ hv)
    · split <;> omega
    · split <;> omega

/-- Digits that stand for a double have a scale within bounds. -/
theorem scale_bounds {value : ℕ} {scale : ℤ} (hm : 0 < m) (hfits : Fits m e) (hvalue : 0 < value)
    (hlt : value < 2 ^ 64) (hv : RoundsTo m e (value * 10 ^ scale)) :
    -400 ≤ scale ∧ scale ≤ 380 := by
  have hone : (1 : ℚ) ≤ value := by exact_mod_cast hvalue
  have hlt' : (value : ℚ) < 2 ^ 64 := by exact_mod_cast hlt
  constructor
  · by_contra hscale
    have hpow : (10 : ℚ) ^ scale ≤ 10 ^ (-401 : ℤ) := zpow_le_zpow_right₀ (by norm_num) (by omega)
    have he : (2 : ℚ) ^ (-1074 : ℤ) ≤ 2 ^ e :=
      zpow_le_zpow_right₀ (by norm_num) (by rcases hfits with h | h <;> omega)
    have hm' : (1 : ℚ) ≤ m := by exact_mod_cast hm
    have hlow : (1 / 2 : ℚ) * 2 ^ (-1074 : ℤ) ≤ value * 10 ^ scale := by
      refine le_trans (mul_le_mul ?_ he (by positivity) ?_) hv.low
      · split <;> linarith
      · split <;> linarith
    have hhigh : (value : ℚ) * 10 ^ scale ≤ 2 ^ 64 * 10 ^ (-401 : ℤ) :=
      mul_le_mul hlt'.le hpow (by positivity) (by positivity)
    have hpowers : (2 : ℚ) ^ 64 * 2 ^ 1074 * 2 < 10 ^ 401 := by
      exact_mod_cast (show (2 : ℕ) ^ 64 * 2 ^ 1074 * 2 < 10 ^ 401 by decide +kernel)
    have := le_trans hlow hhigh
    rw [zpow_neg, zpow_neg, ← div_eq_mul_inv, ← div_eq_mul_inv,
      div_le_div_iff₀ (by positivity) (by positivity), zpow_ofNat, zpow_ofNat,
      div_mul_eq_mul_div, one_mul, div_le_iff₀ two_pos] at this
    exact absurd hpowers (not_lt.mpr this)
  · by_contra hscale
    have hpow : (10 : ℚ) ^ (381 : ℤ) ≤ 10 ^ scale := zpow_le_zpow_right₀ (by norm_num) (by omega)
    have he : (2 : ℚ) ^ e ≤ 2 ^ (971 : ℤ) :=
      zpow_le_zpow_right₀ (by norm_num) (by rcases hfits with h | h <;> omega)
    have hm' : (m : ℚ) + 1 / 2 ≤ 2 ^ 54 := by
      have : m ≤ 2 ^ 53 := by rcases hfits with h | h <;> omega
      have : (m : ℚ) ≤ 2 ^ 53 := by exact_mod_cast this
      linarith
    have hhigh : (value : ℚ) * 10 ^ scale ≤ 2 ^ 54 * 2 ^ (971 : ℤ) :=
      le_trans hv.high (mul_le_mul hm' he (by positivity) (by positivity))
    have hlow : (1 : ℚ) * 10 ^ (381 : ℤ) ≤ value * 10 ^ scale :=
      mul_le_mul hone hpow (by positivity) (by positivity)
    have hpowers : (2 : ℚ) ^ 54 * 2 ^ 971 < 10 ^ 381 := by
      exact_mod_cast (show (2 : ℕ) ^ 54 * 2 ^ 971 < 10 ^ 381 by decide +kernel)
    have := le_trans hlow hhigh
    rw [zpow_ofNat, zpow_ofNat, one_mul] at this
    exact absurd hpowers (not_lt.mpr this)

/-- Digits that stand for a double are read as it, if the power of ten is not out of all bounds. -/
theorem nearest_eq_of_natAbs_le {value : ℕ} {scale : ℤ} {x : Float} {s : Sign} (hm : 0 < m)
    (hx : x.toModel.unpack = .finite s m e hm) (hvalue : 0 < value) (hscale : scale.natAbs ≤ 2048)
    (hv : RoundsTo m e (value * 10 ^ scale)) : nearest (s == .negative) value scale = x := by
  have hmagnitude : ∀ {y : Float}, y.toModel.unpack = .finite .positive m e hm →
      Float.ofScientific value (decide (scale < 0)) scale.natAbs = y := by
    intro y hy
    refine ofScientific_eq hm hy hvalue hscale ?_
    have hsign : (if decide (scale < 0) = true then -(scale.natAbs : ℤ) else scale.natAbs) =
        scale := by
      simp only [decide_eq_true_eq]
      split <;> omega
    rwa [hsign]
  rw [nearest, if_neg hvalue.ne']
  cases s with
  | positive => exact hmagnitude hx
  | negative =>
      have hneg : (-x).toModel.unpack = .finite .positive m e hm := by
        rw [unpack_neg, hx]
        rfl
      refine eq_of_unpack_eq ?_
      rw [if_pos (by decide), hmagnitude hneg, unpack_neg, hneg, hx]
      rfl

/-- The double nearest to digits is the one that they stand for. -/
theorem nearest_eq {value : ℕ} {scale : ℤ} {x : Float} {s : Sign} (hm : 0 < m)
    (hx : x.toModel.unpack = .finite s m e hm) (hvalue : 0 < value) (hlt : value < 2 ^ 64)
    (hv : RoundsTo m e (value * 10 ^ scale)) : nearest (s == .negative) value scale = x := by
  obtain ⟨hlow, hhigh⟩ := scale_bounds hm (fits_of_unpack hx) hvalue hlt hv
  exact nearest_eq_of_natAbs_le hm hx hvalue (by omega) hv

/-- A whole number that stands for a double is read as it, however many digits it has. -/
theorem nearest_whole {value : ℕ} {x : Float} {s : Sign} (hm : 0 < m)
    (hx : x.toModel.unpack = .finite s m e hm) (hvalue : 0 < value) (hv : RoundsTo m e value) :
    nearest (s == .negative) value 0 = x := by
  refine nearest_eq_of_natAbs_le hm hx hvalue (by decide) ?_
  rwa [zpow_zero, mul_one]

theorem nearest_zero {x : Float} {s : Sign} (hx : x.toModel.unpack = .zero s) (scale : ℤ) :
    nearest (s == .negative) 0 scale = x := by
  have hzero : (0.0 : Float).toModel.unpack = .zero .positive := rfl
  refine eq_of_unpack_eq ?_
  rw [nearest, hx]
  cases s with
  | positive => exact hzero
  | negative =>
      show (-(0.0 : Float)).toModel.unpack = _
      rw [unpack_neg, hzero]
      rfl

end Rounding

end Telemetry.Decimal
