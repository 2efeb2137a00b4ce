import Mathlib
import Telemetry.Decimal.Binary

/-!
# Doubles and their bits

A double is unpacked into a sign, a mantissa and an exponent, or is no number. The bits that are
packed from a canonical form are unpacked to it (`unpack_pack`), and a double is known by its form
(`eq_of_unpack_eq`). What `Binary.ofFloat?` reads off the bits is that form (`ofFloat?_eq`).
-/

namespace Telemetry.Decimal

open Float.Model Float.Model.UnpackedFloat

/-! ## Fields of bits -/

section Fields

variable {s : Sign} {e : BitVec 11} {m : BitVec 52}

theorem toNat_packComponents (s : Sign) (e : BitVec 11) (m : BitVec 52) :
    (packComponents .binary64 s e m).toNat =
      s.toBitVec.toNat * 2 ^ 63 + e.toNat * 2 ^ 52 + m.toNat := by
  show (s.toBitVec ++ e ++ m).toNat = _
  rw [BitVec.toNat_append, BitVec.toNat_append, ← Nat.shiftLeft_add_eq_or_of_lt m.isLt,
    ← Nat.shiftLeft_add_eq_or_of_lt e.isLt, Nat.shiftLeft_eq, Nat.shiftLeft_eq]
  omega

/-- Bits consist of three fields. -/
theorem exists_packComponents (b : BitVec 64) :
    ∃ (s : Sign) (e : BitVec 11) (m : BitVec 52), b = packComponents .binary64 s e m :=
  ⟨_, _, _, (@packComponents_unpackSign_unpackExponent_unpackMantissa .binary64 b).symm⟩

/-! ## Forms of bits -/

theorem unpack_infinity (s : Sign) :
    unpack .binary64 (packComponents .binary64 s (-1#11) 0#52) = .infinity s := by
  cases s <;> rfl

theorem unpack_notANumber (hm : m ≠ 0#52) :
    unpack .binary64 (packComponents .binary64 s (-1#11) m) = .notANumber := by
  rw [UnpackedFloat.unpack]
  simp only [unpackExponent_packComponents, unpackMantissa_packComponents]
  rw [if_pos trivial, if_neg hm]

theorem unpack_zero (s : Sign) :
    unpack .binary64 (packComponents .binary64 s 0#11 0#52) = .zero s := by
  cases s <;> rfl

theorem unpack_subnormal (hm : 0 < m.toNat) :
    unpack .binary64 (packComponents .binary64 s 0#11 m) = .finite s m.toNat (-1074) hm := by
  have hne : m ≠ 0#52 := fun h => by simp [h] at hm
  rw [UnpackedFloat.unpack]
  simp only [unpackExponent_packComponents, unpackMantissa_packComponents,
    unpackSign_packComponents, Sign.ofBitVec_toBitVec]
  rw [if_neg (by decide), if_pos trivial, dif_neg hne]
  rfl

theorem unpack_normal (hgreatest : e ≠ -1#11) (hzero : e ≠ 0#11) :
    unpack .binary64 (packComponents .binary64 s e m) =
      .finite s (2 ^ 52 + m.toNat) (e.toNat - 1075) (by omega) := by
  have hm : (1#1 ++ m).toNat = 2 ^ 52 + m.toNat := by
    rw [BitVec.toNat_append, ← Nat.shiftLeft_add_eq_or_of_lt m.isLt]
    rfl
  rw [UnpackedFloat.unpack]
  simp only [unpackExponent_packComponents, unpackMantissa_packComponents,
    unpackSign_packComponents, Sign.ofBitVec_toBitVec]
  rw [if_neg hgreatest, if_neg hzero]
  congr 1

theorem isNaN_unpack (hgreatest : e ≠ -1#11) :
    (unpack .binary64 (packComponents .binary64 s e m)).isNaN = false := by
  by_cases hzero : e = 0#11
  · subst hzero
    by_cases hnone : m = 0#52
    · subst hnone
      rw [unpack_zero]
      rfl
    · rw [unpack_subnormal (Nat.pos_of_ne_zero fun h => hnone (BitVec.eq_of_toNat_eq h))]
      rfl
  · rw [unpack_normal hgreatest hzero]
    rfl

end Fields

/-! ## Canonical forms -/

/-- A mantissa has 53 bits, or fewer with the least exponent. -/
def Fits (m : Nat) (e : Int) : Prop :=
  2 ^ 52 ≤ m ∧ m < 2 ^ 53 ∧ -1074 ≤ e ∧ e ≤ 971 ∨ m < 2 ^ 52 ∧ e = -1074

/-- The forms that bits are unpacked to. -/
def IsCanonical : UnpackedFloat → Prop
  | .finite _ m e _ => Fits m e
  | .infinity _ | .notANumber | .zero _ => True

theorem isCanonical_neg {f : UnpackedFloat} (h : IsCanonical f) : IsCanonical f.neg := by
  cases f <;> exact h

/-- The exponent of all ones stands for what is no number, the exponent zero for few bits. -/
theorem exponent_cases (e : BitVec 11) :
    e = -1#11 ∨ e = 0#11 ∨ e ≠ -1#11 ∧ e ≠ 0#11 ∧ 0 < e.toNat ∧ e.toNat < 2047 := by
  by_cases hgreatest : e = -1#11
  · exact .inl hgreatest
  by_cases hzero : e = 0#11
  · exact .inr (.inl hzero)
  · have hlt := e.isLt
    have hne : e.toNat ≠ 2047 := fun h => hgreatest (BitVec.eq_of_toNat_eq h)
    have hpos : e.toNat ≠ 0 := fun h => hzero (BitVec.eq_of_toNat_eq h)
    exact .inr (.inr ⟨hgreatest, hzero, by omega, by omega⟩)

theorem isCanonical_unpack (b : BitVec 64) : IsCanonical (unpack .binary64 b) := by
  obtain ⟨s, e, m, rfl⟩ := exists_packComponents b
  have hm := m.isLt
  rcases exponent_cases e with rfl | rfl | ⟨hgreatest, hzero, hpos, hlt⟩
  · by_cases hzero : m = 0#52
    · subst hzero
      rw [unpack_infinity]
      trivial
    · rw [unpack_notANumber hzero]
      trivial
  · by_cases hzero : m = 0#52
    · subst hzero
      rw [unpack_zero]
      trivial
    · have hpos : 0 < m.toNat := Nat.pos_of_ne_zero fun h => hzero (BitVec.eq_of_toNat_eq h)
      rw [unpack_subnormal hpos]
      exact .inr ⟨hm, rfl⟩
  · rw [unpack_normal hgreatest hzero]
    refine .inl ⟨?_, ?_, ?_, ?_⟩ <;> omega

/-! ## Packing -/

section Packing

variable {s : Sign} {m : Nat} {e : Int}

theorem pack_subnormal (hm : 0 < m) (hlt : m < 2 ^ 52) :
    UnpackedFloat.pack .binary64 (.finite s m (-1074) hm) =
      packComponents .binary64 s 0#11 (BitVec.ofNat 52 m) := by
  have hlog : m.log2 < 52 := (Nat.log2_lt (by omega)).mpr hlt
  rw [UnpackedFloat.pack]
  dsimp only
  rw [if_neg (by decide), if_neg (by simp [Format.mantissaBits]; omega)]

theorem pack_normal (hm : 0 < m) (hlow : 2 ^ 52 ≤ m) (hhigh : m < 2 ^ 53) (he : -1074 ≤ e)
    (he' : e ≤ 971) :
    UnpackedFloat.pack .binary64 (.finite s m e hm) =
      packComponents .binary64 s (BitVec.ofNat 11 (e + 1075).toNat) (BitVec.ofNat 52 m) := by
  have hlog : m.log2 = 52 := (Nat.log2_eq_iff (by omega)).mpr ⟨hlow, hhigh⟩
  have hexponent : (e + Format.binary64.exponentBias +
      Format.binary64.mantissaBitsWithoutImplicit).toNat = (e + 1075).toNat := by
    simp [Format.exponentBias]
    omega
  rw [UnpackedFloat.pack]
  dsimp only
  rw [hexponent, if_neg (by simp; omega), if_pos (by simp [Format.mantissaBits, hlog])]

/-- What is packed from a canonical form has that form. -/
theorem unpack_pack {f : UnpackedFloat} (h : IsCanonical f) :
    unpack .binary64 (UnpackedFloat.pack .binary64 f) = f := by
  cases f with
  | notANumber => rfl
  | infinity s => exact unpack_infinity s
  | zero s => exact unpack_zero s
  | finite s m e hm =>
      rcases h with ⟨hlow, hhigh, he, he'⟩ | ⟨hlt, rfl⟩
      · have hexponent : (BitVec.ofNat 11 (e + 1075).toNat).toNat = (e + 1075).toNat := by
          rw [BitVec.toNat_ofNat]
          omega
        have hgreatest : BitVec.ofNat 11 (e + 1075).toNat ≠ -1#11 := by
          intro heq
          have := congrArg BitVec.toNat heq
          rw [hexponent] at this
          simp at this
          omega
        have hzero : BitVec.ofNat 11 (e + 1075).toNat ≠ 0#11 := by
          intro heq
          have := congrArg BitVec.toNat heq
          rw [hexponent] at this
          simp at this
          omega
        rw [pack_normal hm hlow hhigh he he', unpack_normal hgreatest hzero]
        congr 1
        · rw [BitVec.toNat_ofNat]
          omega
        · rw [hexponent]
          omega
      · have hnat : (BitVec.ofNat 52 m).toNat = m := by
          rw [BitVec.toNat_ofNat]
          omega
        rw [pack_subnormal hm hlt, unpack_subnormal (by omega)]
        congr 1

end Packing

/-! ## Doubles -/

/-- A double is known by its form. -/
theorem eq_of_unpack_eq {x y : Float} (h : x.toModel.unpack = y.toModel.unpack) : x = y := by
  obtain ⟨⟨x, hx⟩⟩ := x
  obtain ⟨⟨y, hy⟩⟩ := y
  obtain rfl : x = y := UInt64.toBitVec_inj.mp ((unpack_inj_of_valid hx hy).mp h)
  rfl

theorem fits_of_unpack {x : Float} {s : Sign} {m : Nat} {e : Int} {hm : 0 < m}
    (hx : x.toModel.unpack = .finite s m e hm) : Fits m e := by
  have hcanonical := isCanonical_unpack x.toModel.toBits.toBitVec
  rwa [show unpack .binary64 x.toModel.toBits.toBitVec = _ from hx] at hcanonical

theorem unpack_ofModel_pack {f : UnpackedFloat} (h : IsCanonical f) :
    (Float.ofModel (.pack f)).toModel.unpack = f :=
  unpack_pack h

@[simp]
theorem unpack_neg (x : Float) : (-x).toModel.unpack = x.toModel.unpack.neg :=
  unpack_pack (isCanonical_neg (isCanonical_unpack _))

@[simp]
theorem isNaN_neg (x : Float) : (-x).isNaN = x.isNaN := by
  show (-x).toModel.unpack.isNaN = x.toModel.unpack.isNaN
  rw [unpack_neg]
  cases x.toModel.unpack <;> rfl

theorem isNaN_of_isFinite {x : Float} (h : x.isFinite = true) : x.isNaN = false := by
  have hform : x.toModel.unpack.isFinite = true := h
  show x.toModel.unpack.isNaN = false
  cases hx : x.toModel.unpack with
  | notANumber => simp [hx, UnpackedFloat.isFinite] at hform
  | _ => rfl

/-- A form that does not fit is packed as well, but never to NaN. -/
theorem isNaN_ofModel_pack (f : UnpackedFloat) :
    (Float.ofModel (.pack f)).isNaN = f.isNaN := by
  show (UnpackedFloat.unpack .binary64 (UnpackedFloat.pack .binary64 f)).isNaN = f.isNaN
  cases f with
  | notANumber => rfl
  | infinity s => rw [unpack_pack (f := .infinity s) trivial]
  | zero s => rw [unpack_pack (f := .zero s) trivial]
  | finite s m e hm =>
      rw [UnpackedFloat.pack]
      dsimp only
      split
      · exact (congrArg UnpackedFloat.isNaN (unpack_infinity s)).trans rfl
      · rename_i hfits
        split
        · refine isNaN_unpack fun heq => hfits ?_
          have := congrArg BitVec.toNat heq
          simp at this ⊢
          omega
        · exact isNaN_unpack (by decide)

def Binary.ofForm? : UnpackedFloat → Option Binary
  | .infinity _ | .notANumber => none
  | .zero s => some ⟨s == .negative, 0, leastExponent⟩
  | .finite s m e _ => some ⟨s == .negative, m, e⟩

/-- The fraction that is read off the bits is that of the form. -/
theorem Binary.ofFloat?_eq (x : Float) : ofFloat? x = ofForm? x.toModel.unpack := by
  obtain ⟨s, e, m, hbits⟩ := exists_packComponents x.toBits.toBitVec
  have hform : x.toModel.unpack = unpack .binary64 (packComponents .binary64 s e m) :=
    congrArg (unpack .binary64) hbits
  have hnat : x.toBits.toNat = s.toBitVec.toNat * 2 ^ 63 + e.toNat * 2 ^ 52 + m.toNat := by
    rw [← toNat_packComponents, ← hbits]
    rfl
  have hs := s.toBitVec.isLt
  have he := e.isLt
  have hm := m.isLt
  have hfraction : x.toBits.toNat % pow2 52 = m.toNat := by
    rw [hnat]
    show _ % 2 ^ 52 = _
    omega
  have hbiased : x.toBits.toNat / pow2 52 % pow2 11 = e.toNat := by
    rw [hnat]
    show _ / 2 ^ 52 % 2 ^ 11 = _
    omega
  have hnegative : (x.toBits.toNat / pow2 63 == 1) = (s == .negative) := by
    have hsign : x.toBits.toNat / pow2 63 = s.toBitVec.toNat := by
      rw [hnat]
      show _ / 2 ^ 63 = _
      omega
    rw [hsign]
    cases s <;> rfl
  rw [hform, ofFloat?]
  rw [hfraction, hbiased, hnegative]
  rcases exponent_cases e with rfl | rfl | ⟨hgreatest, hzero, hpos, hlt⟩
  · by_cases hnone : m = 0#52
    · subst hnone
      rw [unpack_infinity]
      rfl
    · rw [unpack_notANumber hnone]
      rfl
  · by_cases hnone : m = 0#52
    · subst hnone
      rw [unpack_zero]
      rfl
    · rw [unpack_subnormal (Nat.pos_of_ne_zero fun h => hnone (BitVec.eq_of_toNat_eq h))]
      rfl
  · rw [unpack_normal hgreatest hzero, if_neg (by simp; omega), if_neg (by simp; omega)]
    rfl

end Telemetry.Decimal
