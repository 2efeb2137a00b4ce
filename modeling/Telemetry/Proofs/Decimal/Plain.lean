import Telemetry.Proofs.Decimal.Digits
import Telemetry.Proofs.Decimal.Shortest

/-!
# The plain text of a double

The plain layout writes a finite double without an exponent: a minus, if it is negative or the
negative zero, and digits with a point between them if there is a fraction. What is behind the minus
is read as the magnitude (`plain_cases`). A large whole number is written with all its digits, so it
may be longer than any integer of 64 bits, and is read all the same (`nearest_whole`).
-/

namespace Telemetry.Decimal

open Float.Model Float.Model.UnpackedFloat

structure Unsigned (cs : List Char) (x : Float) : Prop where
  head : ∃ c tail, cs = c :: tail ∧ c.isDigit = true
  chars : ∀ c ∈ cs, c.isDigit = true ∨ c = '.'
  reads : read? (String.ofList cs) = some x

variable {whole fractional cs tail : List Char} {c : Char} {k : ℕ} {scale : ℤ} {x : Float}

/-! ## Reading -/

theorem unsigned?_whole (hdigits : ∀ c ∈ whole, c.isDigit = true) (hne : whole ≠ []) :
    unsigned? false whole = some (nearest false (Nat.ofDigitChars 10 whole 0) 0) := by
  have hcount : whole.length ≠ 0 := by simpa using hne
  rw [unsigned?, takeDigits_all hdigits]
  simp [Digits.none, hcount]

theorem unsigned?_point (hdigits : ∀ c ∈ whole ++ fractional, c.isDigit = true)
    (hne : whole ≠ []) : unsigned? false (whole ++ '.' :: fractional) =
      some (nearest false (Nat.ofDigitChars 10 (whole ++ fractional) 0) (-fractional.length)) := by
  obtain ⟨hwhole, hfractional⟩ := List.forall_mem_append.mp hdigits
  have htake := takeDigits_append hwhole (endsDigits_cons (c := '.') rfl fractional) .none
  have hcount : whole.length ≠ 0 := by simpa using hne
  rw [unsigned?, htake]
  simp [Digits.none, takeDigits_all hfractional, hcount, Nat.ofDigitChars_append]

theorem Unsigned.of_whole (hdigits : ∀ c ∈ whole, c.isDigit = true) (hne : whole ≠ [])
    (hx : nearest false (Nat.ofDigitChars 10 whole 0) 0 = x) : Unsigned whole x := by
  obtain ⟨c, tail, rfl⟩ := List.exists_cons_of_ne_nil hne
  have hc : c.isDigit = true := hdigits c List.mem_cons_self
  refine ⟨⟨c, tail, rfl, hc⟩, fun c hc => .inl (hdigits c hc), ?_⟩
  rw [read?_eq_unsigned? (.inl hc), unsigned?_whole hdigits hne, hx]

theorem Unsigned.of_point (hdigits : ∀ c ∈ whole ++ fractional, c.isDigit = true)
    (hne : whole ≠ [])
    (hx : nearest false (Nat.ofDigitChars 10 (whole ++ fractional) 0) (-fractional.length) = x) :
    Unsigned (whole ++ '.' :: fractional) x := by
  obtain ⟨c, tail, rfl⟩ := List.exists_cons_of_ne_nil hne
  have hc : c.isDigit = true := hdigits c List.mem_cons_self
  refine ⟨⟨c, tail ++ '.' :: fractional, rfl, hc⟩, ?_, ?_⟩
  · intro d hd
    rcases List.mem_append.mp hd with hd | hd
    · exact .inl (hdigits d (List.mem_append_left _ hd))
    rcases List.mem_cons.mp hd with rfl | hd
    · exact .inr rfl
    · exact .inl (hdigits d (List.mem_append_right _ hd))
  · rw [List.cons_append, read?_eq_unsigned? (.inl hc), ← List.cons_append,
      unsigned?_point hdigits hne, hx]

/-! ## Writing -/

theorem plain_body_whole (k n : ℕ) :
    Layout.plain.body k n = decimalDigits k ++ List.replicate n '0' := by
  simp [Layout.body, Layout.plain]

theorem plain_body_point (hscale : scale < 0) :
    Layout.plain.body k scale = withPoint (decimalDigits k) (-scale).toNat := by
  rw [Layout.body]
  dsimp only
  rw [if_pos (by simp [Layout.plain]), if_neg (by omega)]

/-- What the digits are laid out to is read as the double that is nearest to them. -/
theorem unsigned_plain_body (hzero : k = 0 → scale = 0)
    (hwhole : ∀ n : ℕ, scale = n → nearest false (k * 10 ^ n) 0 = x)
    (hpoint : scale < 0 → nearest false k scale = x) : Unsigned (Layout.plain.body k scale) x := by
  rcases Int.lt_or_le scale 0 with hscale | hscale
  · have hpos : 0 < k := Nat.pos_of_ne_zero fun hk => absurd (hzero hk) (by omega)
    obtain ⟨whole, fractional, htext, hdigits, hne, -, hlength, hvalue⟩ :=
      exists_withPoint_eq (-scale).toNat hpos
    rw [plain_body_point hscale, htext]
    refine .of_point hdigits hne ?_
    rw [hvalue, hlength, show -(((-scale).toNat : ℕ) : ℤ) = scale by omega]
    exact hpoint hscale
  · obtain ⟨n, rfl⟩ := Int.eq_ofNat_of_zero_le hscale
    rw [plain_body_whole]
    refine .of_whole ?_ (by simp [decimalDigits_ne_nil]) ?_
    · intro c hc
      rcases List.mem_append.mp hc with hc | hc
      · exact isDigit_of_mem_decimalDigits hc
      · rw [List.eq_of_mem_replicate hc]
        rfl
    · rw [Nat.ofDigitChars_append, Nat.ofDigitChars_replicate_zero, ofDigitChars_decimalDigits,
        Nat.mul_comm]
      exact hwhole n rfl

/-- The fewest digits of a positive double are read as it. -/
theorem unsigned_of_roundsTo {m : ℕ} {e : ℤ} (hm : 0 < m)
    (hx : x.toModel.unpack = .finite .positive m e hm) (hpos : 0 < k) (hle : k ≤ 10 ^ 18)
    (hround : RoundsTo m e (k * 10 ^ scale)) : Unsigned (Layout.plain.body k scale) x := by
  refine unsigned_plain_body (fun hk => absurd hk hpos.ne') ?_ ?_
  · rintro n rfl
    refine nearest_whole hm hx (Nat.mul_pos hpos (Nat.pow_pos (by decide))) ?_
    rw [zpow_natCast] at hround
    exact_mod_cast hround
  · intro _
    exact nearest_eq hm hx hpos (hle.trans_lt (by decide)) hround

theorem toList_plain {b : Binary} (hb : Binary.ofFloat? x = some b)
    (hshort : shortest .away b = ⟨b.negative, k, scale⟩) : (plain x).toList =
      if b.negative then '-' :: Layout.plain.body k scale else Layout.plain.body k scale := by
  have htie : Layout.plain.tie = .away := rfl
  rw [plain, Layout.render, hb]
  dsimp only
  rw [htie, hshort, String.toList_ofList]

/-- **The plain text of a finite double is an optional minus and the text of its magnitude.** -/
theorem plain_cases (h : x.isFinite = true) : Unsigned (plain x).toList x ∨
    ∃ cs, (plain x).toList = '-' :: cs ∧ Unsigned cs (-x) := by
  have hfinite : x.toModel.unpack.isFinite = true := h
  have hneg : (-x).toModel.unpack = x.toModel.unpack.neg := unpack_neg x
  -- a zero has its sign, so the text of the negative one is a minus and the digit of the other
  cases hx : x.toModel.unpack with
  | notANumber | infinity => simp [hx, UnpackedFloat.isFinite] at hfinite
  | zero s =>
      have htext := toList_plain ((Binary.ofFloat?_eq x).trans (congrArg Binary.ofForm? hx))
        (shortest_zero .away rfl)
      have hbody : ∀ {y : Float}, y.toModel.unpack = .zero .positive →
          Unsigned (Layout.plain.body 0 0) y := by
        intro y hy
        refine unsigned_plain_body (fun _ => rfl) ?_ (fun hscale => absurd hscale (by decide))
        intro n _
        rw [Nat.zero_mul]
        exact nearest_zero hy 0
      cases s with
      | positive =>
          left
          rw [htext]
          exact hbody hx
      | negative =>
          right
          refine ⟨_, htext, hbody ?_⟩
          rw [hneg, hx]
          rfl
  | finite s m e hm =>
      obtain ⟨k, scale, hshort, hpos, hle, hround⟩ :=
        shortest_roundsTo (b := ⟨s == .negative, m, e⟩) .away hm (fits_of_unpack hx)
      have htext := toList_plain ((Binary.ofFloat?_eq x).trans (congrArg Binary.ofForm? hx)) hshort
      cases s with
      | positive =>
          left
          rw [htext]
          exact unsigned_of_roundsTo hm hx hpos hle hround
      | negative =>
          right
          refine ⟨_, htext, unsigned_of_roundsTo hm ?_ hpos hle hround⟩
          rw [hneg, hx]
          rfl

theorem float_neg_neg (x : Float) : -(-x) = x := by
  refine eq_of_unpack_eq ?_
  rw [unpack_neg, unpack_neg]
  cases x.toModel.unpack with
  | notANumber => rfl
  | infinity s | zero s | finite s => cases s <;> rfl

end Telemetry.Decimal
