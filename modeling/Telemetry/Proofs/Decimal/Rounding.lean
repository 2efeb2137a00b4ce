import Telemetry.Decimal.Reading
import Telemetry.Proofs.Decimal.Double

/-!
# Decimal numbers are numbers

Few digits are multiplied by a power of ten that is a double, or divided by it; all others are
rounded at once. Neither way leads to NaN (`isNaN_nearest`), so a text that begins with a digit or
a point is not read as NaN (`isNaN_of_read?`).
-/

namespace Telemetry.Decimal

open Float.Model Float.Model.UnpackedFloat

/-- The form of `10 ^ i`. -/
def isPower (i : Nat) : UnpackedFloat → Bool
  | .finite .positive m e _ => -52 ≤ e && 2 ^ 52 ≤ m && m * 2 ^ (e + 52).toNat == 10 ^ i * 2 ^ 52
  | _ => false

theorem isPower_power : ∀ i : Fin 23,
    isPower i (Float.exactlyRepresentablePowersOfTen[i]).toModel.unpack = true := by
  decide +kernel

/-! ## A decimal number is not read as NaN -/

section NaN

variable {spec : Format} {f g : UnpackedFloat}

theorem isNaN_roundWithAccuracy (s : Sign) (m : Nat) (e : Int) (acc : Accuracy) :
    (roundWithAccuracy spec s m e acc).isNaN = false := by
  unfold roundWithAccuracy
  dsimp only
  split <;> rfl

def IsNonzero (f : UnpackedFloat) : Prop := ∃ s m e hm, f = .finite s m e hm

theorem isNaN_mul_of_isNonzero (hf : f.isNaN = false) (hg : IsNonzero g) :
    (UnpackedFloat.mul spec f g).isNaN = false := by
  obtain ⟨s, m, e, hm, rfl⟩ := hg
  cases f with
  | notANumber => exact hf
  | infinity | zero => rfl
  | finite => exact isNaN_roundWithAccuracy _ _ _ _

theorem isNaN_div_of_isNonzero (hf : f.isNaN = false) (hg : IsNonzero g) :
    (UnpackedFloat.div spec f g).isNaN = false := by
  obtain ⟨s, m, e, hm, rfl⟩ := hg
  cases f with
  | notANumber => exact hf
  | infinity | zero => rfl
  | finite => exact isNaN_roundWithAccuracy _ _ _ _

theorem isNaN_toFloat (n : UInt64) : n.toFloat.toModel.unpack.isNaN = false := by
  refine (isNaN_ofModel_pack _).trans ?_
  unfold UnpackedFloat.ofUInt64 UnpackedFloat.ofNat UnpackedFloat.ofInt
    UnpackedFloat.normalize
  split
  · exact isNaN_roundWithAccuracy _ _ _ _
  · rfl
  · exact isNaN_roundWithAccuracy _ _ _ _

theorem isNonzero_power (i : Fin 23) :
    IsNonzero (Float.exactlyRepresentablePowersOfTen[i]).toModel.unpack := by
  have h := isPower_power i
  unfold isPower at h
  split at h
  · rename_i heq
    exact ⟨_, _, _, _, heq⟩
  · cases h

theorem isNaN_scientific (m : Nat) (e : Int) :
    (UnpackedFloat.ofScientific spec m e).isNaN = false := by
  unfold UnpackedFloat.ofScientific
  split
  · rfl
  split
  · rfl
  split
  · rfl
  split
  · exact isNaN_roundWithAccuracy _ _ _ _
  · exact isNaN_roundWithAccuracy _ _ _ _

theorem isNaN_ofScientific (m : Nat) (negative : Bool) (e : Nat) :
    (Float.ofScientific m negative e).isNaN = false := by
  unfold Float.ofScientific
  split
  · rename_i h
    dsimp only
    split
    · exact (isNaN_ofModel_pack _).trans
        (isNaN_div_of_isNonzero (isNaN_toFloat _) (isNonzero_power ⟨e, by omega⟩))
    · exact (isNaN_ofModel_pack _).trans
        (isNaN_mul_of_isNonzero (isNaN_toFloat _) (isNonzero_power ⟨e, by omega⟩))
  · exact (isNaN_ofModel_pack _).trans (isNaN_scientific _ _)

theorem isNaN_nearest (negative : Bool) (value : Nat) (scale : Int) :
    (nearest negative value scale).isNaN = false := by
  have hmagnitude : (if value = 0 then 0.0
      else Float.ofScientific value (scale < 0) scale.natAbs).isNaN = false := by
    split
    · exact isNaN_ofScientific _ _ _
    · exact isNaN_ofScientific _ _ _
  unfold nearest
  dsimp only
  split
  · rw [isNaN_neg, hmagnitude]
  · exact hmagnitude

theorem exists_nearest_of_unsigned? {negative : Bool} {cs : List Char} {x : Float}
    (h : unsigned? negative cs = some x) : ∃ value scale, x = nearest negative value scale := by
  unfold unsigned? at h
  split at h
  split at h
  simp only [Option.bind_eq_bind] at h
  split at h
  · cases h
  split at h
  · exact ⟨_, _, (Option.some.inj h).symm⟩
  obtain ⟨exponent, -, h⟩ := Option.bind_eq_some_iff.mp h
  split at h
  · exact ⟨_, _, (Option.some.inj h).symm⟩
  · cases h

/-- A text that begins with a digit or a point has no sign and is no word. -/
theorem read?_eq_unsigned? {c : Char} {cs : List Char} (hc : c.isDigit = true ∨ c = '.') :
    read? (String.ofList (c :: cs)) = unsigned? false (c :: cs) := by
  have hsign : takeSign (c :: cs) = (false, c :: cs) := by
    unfold takeSign
    split
    · rename_i heq
      cases heq
      simp at hc
    · rename_i heq
      cases heq
      simp at hc
    · rfl
  have hlower : c.toLower = c := by
    rcases hc with hc | rfl
    · simp only [Char.isDigit, Bool.and_eq_true, decide_eq_true_eq] at hc
      unfold Char.toLower
      rw [dif_neg]
      intro hupper
      have := UInt32.le_iff_toNat_le.mp hc.2
      have := UInt32.le_iff_toNat_le.mp hupper.1
      simp at *
      omega
    · rfl
  have hword : ∀ (first : Char) (word : List Char), first ≠ '.' → first.isDigit = false →
      String.ofList ((c :: cs).map Char.toLower) ≠ String.ofList (first :: word) := by
    intro first word hpoint hdigit heq
    have hfirst := (List.cons.inj (String.ofList_inj.mp heq)).1
    rw [hlower] at hfirst
    subst hfirst
    simp [hpoint, hdigit] at hc
  rw [read?, String.toList_ofList, hsign]
  dsimp only
  rw [if_neg, if_neg]
  · exact hword 'n' "an".toList (by decide) (by decide)
  · rintro (heq | heq)
    · exact hword 'i' "nf".toList (by decide) (by decide) heq
    · exact hword 'i' "nfinity".toList (by decide) (by decide) heq

/-- Only a text that begins with a sign or a letter can stand for what is no number. -/
theorem isNaN_of_read? {c : Char} {cs : List Char} {x : Float}
    (hc : c.isDigit = true ∨ c = '.') (h : read? (String.ofList (c :: cs)) = some x) :
    x.isNaN = false := by
  rw [read?_eq_unsigned? hc] at h
  obtain ⟨value, scale, rfl⟩ := exists_nearest_of_unsigned? h
  exact isNaN_nearest _ _ _

end NaN

end Telemetry.Decimal
