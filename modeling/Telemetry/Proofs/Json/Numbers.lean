import Telemetry.Proofs.Decimal.Digits
import Telemetry.Proofs.Decimal.Shortest
import Telemetry.Proofs.Json.RoundTrip

/-!
# Numbers in documents

The text of a double is one token (`Number.reads_double`): however the fewest digits of the double
are laid out, one numeral is read, whatever follows, and it has their value
(`exists_isNumeral_body`). Which double it stands for is the reader's to say. The nearest one is the
double that was written (`Number.isReadBack_double`); a reader that calculates misses some
(`Number.not_isReadBack_calculating`).
-/

namespace Telemetry

open Decimal Json Written

/-! ## Numerals -/

namespace Written

variable {whole ds tail mid rest : List Char} {fraction : Digits} {exponent : Option ℤ}
  {k : ℕ}

def Numeral.IsFractional (n : Numeral) : Prop := n.fraction.count ≠ 0 ∨ n.exponent ≠ none

theorem Numeral.IsFractional.number?_eq [NumeralReader] {n : Numeral} (h : n.IsFractional) :
    n.number? = (NumeralReader.double? n).map .double := by
  rw [Numeral.number?]
  refine if_neg ?_
  rintro ⟨hcount, hexponent, -⟩
  exact h.elim (fun h => h hcount) (fun h => h hexponent)

/-- A numeral with a fraction or an exponent, the value of which is `± k · 10 ^ scale`. -/
structure Numeral.Spells (n : Numeral) (negative : Bool) (k : ℕ) (scale : ℤ) : Prop where
  negative_eq : n.negative = negative
  isFractional : n.IsFractional
  digits_lt : n.digits < 2 ^ 64
  value_eq : (n.digits : ℚ) * 10 ^ n.scale = k * 10 ^ scale

variable {scale : ℤ}

theorem EndsValue.endsDigits (h : EndsValue rest) : EndsDigits rest := by
  intro c hc
  rcases h c hc with rfl | rfl | rfl <;> rfl

/-- The text is one numeral, whatever follows. -/
def IsNumeral (cs : List Char) (n : Numeral) : Prop :=
  ∀ rest, EndsValue rest → takeNumeral (cs ++ rest) = some (n, rest)

/-- Behind the digits of a numeral the text is read as its exponent. -/
structure IsMark (mark : List Char) (exponent : Option ℤ) : Prop where
  endsDigits : ∀ {rest}, EndsValue rest → EndsDigits (mark ++ rest)
  head?_ne : ∀ {rest}, EndsValue rest → (mark ++ rest).head? ≠ some '.'
  takeScale_eq : ∀ {rest}, EndsValue rest → takeScale (mark ++ rest) = some (exponent, rest)

def fractionChars (ds : List Char) : List Char := if ds = [] then [] else '.' :: ds

theorem takeFraction_chars (hds : ∀ c ∈ ds, c.isDigit = true) (hrest : EndsDigits rest)
    (hpoint : rest.head? ≠ some '.') : takeFraction (fractionChars ds ++ rest) =
      some (⟨Nat.ofDigitChars 10 ds 0, ds.length⟩, rest) := by
  unfold fractionChars
  split
  · rename_i hnone
    subst hnone
    rw [List.nil_append]
    unfold takeFraction
    split
    · exact (hpoint rfl).elim
    · rfl
  · rename_i hsome
    rw [List.cons_append, takeFraction, takeDigits_append hds hrest]
    simp [Digits.none, hsome]

theorem endsDigits_fractionChars (ds : List Char) (hrest : EndsDigits rest) :
    EndsDigits (fractionChars ds ++ rest) := by
  unfold fractionChars
  split
  · exact hrest
  · exact endsDigits_cons rfl _

theorem EndsValue.head?_ne (h : EndsValue rest) : rest.head? ≠ some '.' := by
  intro hpoint
  rcases h '.' hpoint with h | h | h <;> cases h

theorem takeScale_end (h : EndsValue rest) : takeScale rest = some (none, rest) := by
  cases rest with
  | nil => rfl
  | cons c rest => rcases h c rfl with rfl | rfl | rfl <;> rfl

theorem isMark_nil : IsMark [] none := ⟨EndsValue.endsDigits, EndsValue.head?_ne, takeScale_end⟩

def exponentChars (e : ℤ) : List Char :=
  'e' :: (if e < 0 then '-' else '+') :: decimalDigits e.natAbs

theorem takeScale_exponent {e : ℤ} (hrest : EndsDigits rest) :
    takeScale (exponentChars e ++ rest) = some (some e, rest) := by
  have htake : takeDigits .none (decimalDigits e.natAbs ++ rest) =
      (⟨e.natAbs, (decimalDigits e.natAbs).length⟩, rest) := by
    rw [takeDigits_append (fun _ => isDigit_of_mem_decimalDigits) hrest]
    simp [Digits.none, ofDigitChars_decimalDigits]
  have hcount := (length_decimalDigits_pos e.natAbs).ne'
  have hsign : takeSign ((if e < 0 then '-' else '+') :: (decimalDigits e.natAbs ++ rest)) =
      (decide (e < 0), decimalDigits e.natAbs ++ rest) := by
    by_cases h : e < 0 <;> simp [h, takeSign]
  have hvalue : (if decide (e < 0) = true then -(e.natAbs : ℤ) else e.natAbs) = e := by
    simp only [decide_eq_true_eq]
    split <;> omega
  rw [exponentChars, List.cons_append, List.cons_append, takeScale, if_pos (.inl rfl),
    takeExponent, hsign]
  dsimp only
  rw [htake]
  dsimp only
  rw [if_pos ⟨.inl rfl, hcount⟩, hvalue]
  rfl

theorem isMark_exponentChars (e : ℤ) : IsMark (exponentChars e) (some e) where
  endsDigits _ := endsDigits_cons rfl _
  head?_ne _ := by simp [exponentChars]
  takeScale_eq hrest := takeScale_exponent hrest.endsDigits

/-- A numeral is read part by part. -/
theorem takeNumeral_of_parts (negative : Bool) (hwhole : ∀ c ∈ whole, c.isDigit = true)
    (hsome : whole ≠ []) (hzero : whole.head? = some '0' → whole.length = 1)
    (htail : EndsDigits tail) (hfraction : takeFraction tail = some (fraction, mid))
    (hscale : takeScale mid = some (exponent, rest)) :
    takeNumeral ((if negative then '-' :: whole else whole) ++ tail) =
      some (⟨negative, ⟨Nat.ofDigitChars 10 whole 0, whole.length⟩, fraction, exponent⟩, rest) := by
  obtain ⟨first, more, rfl⟩ := List.exists_cons_of_ne_nil hsome
  have hminus : dropMinus ((if negative then '-' :: first :: more else first :: more) ++ tail) =
      (negative, first :: more ++ tail) := by
    cases negative with
    | true => rfl
    | false =>
        have hfirst : first ≠ '-' := by
          rintro rfl
          exact absurd (hwhole '-' List.mem_cons_self) (by decide)
        simp [dropMinus, hfirst]
  have hcheck : ¬((first :: more).length = 0 ∨
      1 < (first :: more).length ∧ (first :: more ++ tail).head? = some '0') := by
    rintro (h | ⟨hlong, h⟩)
    · cases h
    · exact absurd (hzero h) (by omega)
  rw [takeNumeral, hminus]
  dsimp only
  rw [takeDigits_append hwhole htail]
  simp only [Digits.none, Nat.zero_add]
  rw [if_neg hcheck]
  simp [hfraction, hscale]

theorem takeToken_of_takeNumeral [NumeralReader] {cs : List Char} {n : Numeral}
    (h : takeNumeral cs = some (n, rest)) : takeToken cs = some (.number n.number?, rest) := by
  have hfixed : fixedToken? cs = none := by
    unfold fixedToken?
    split <;> first | rfl | cases h
  unfold takeToken
  split
  · cases h
  · rw [hfixed, h]
    rfl

/-! ## Layouts -/

/-- Digits with a point among them, or an exponent behind them, are read back with their value. -/
theorem exists_isNumeral_of_parts (negative : Bool) {fractional mark : List Char}
    (hdigits : ∀ c ∈ whole ++ fractional, c.isDigit = true) (hsome : whole ≠ [])
    (hzero : whole.head? = some '0' → whole.length = 1) (hmark : IsMark mark exponent)
    (hinteger : fractional ≠ [] ∨ exponent ≠ none)
    {value : ℕ} (hvalue : Nat.ofDigitChars 10 (whole ++ fractional) 0 = value)
    (hlt : value < 2 ^ 64)
    (hspelled : (value : ℚ) * 10 ^ (exponent.getD 0 - fractional.length) = k * 10 ^ scale) :
    ∃ n : Numeral, n.Spells negative k scale ∧
      IsNumeral ((if negative then '-' :: whole else whole) ++ (fractionChars fractional ++ mark))
        n := by
  rw [ofDigitChars_append_eq] at hvalue
  refine ⟨⟨negative, ⟨Nat.ofDigitChars 10 whole 0, whole.length⟩,
    ⟨Nat.ofDigitChars 10 fractional 0, fractional.length⟩, exponent⟩, ?_, fun rest hrest => ?_⟩
  · refine ⟨rfl, hinteger.imp_left fun h => ?_, ?_, ?_⟩
    · exact fun hlength => h (List.length_eq_zero_iff.mp hlength)
    · exact lt_of_eq_of_lt hvalue hlt
    · rw [← hspelled, ← hvalue]
      rfl
  · rw [List.append_assoc, List.append_assoc]
    exact takeNumeral_of_parts negative (fun c hc => hdigits c (List.mem_append_left _ hc)) hsome
      hzero (endsDigits_fractionChars _ (hmark.endsDigits hrest))
      (takeFraction_chars (fun c hc => hdigits c (List.mem_append_right _ hc))
        (hmark.endsDigits hrest) (hmark.head?_ne hrest)) (hmark.takeScale_eq hrest)

/-- A whole number of at most sixteen digits leaves room for one more. -/
theorem digits_lt_of_length {n : ℕ} (h : (decimalDigits k).length + n ≤ 16) :
    k * 10 ^ (n + 1) < 2 ^ 64 := by
  have hk : k < 10 ^ (decimalDigits k).length :=
    (Nat.length_toDigits_le_iff (by decide) (length_decimalDigits_pos k)).mp le_rfl
  calc k * 10 ^ (n + 1) < 10 ^ (decimalDigits k).length * 10 ^ (n + 1) :=
        Nat.mul_lt_mul_of_pos_right hk (Nat.pow_pos (by decide))
    _ = 10 ^ ((decimalDigits k).length + (n + 1)) := (Nat.pow_add _ _ _).symm
    _ ≤ 10 ^ 17 := Nat.pow_le_pow_right (by decide) (by omega)
    _ < 2 ^ 64 := by decide

/-- A whole number is followed by a fraction of zero. -/
theorem exists_isNumeral_whole (negative : Bool) {n : ℕ} (hk : k = 0 → n = 0)
    (hlt : k * 10 ^ (n + 1) < 2 ^ 64) :
    ∃ m : Numeral, m.Spells negative k n ∧
      IsNumeral ((if negative then '-' :: (decimalDigits k ++ List.replicate n '0') else
        decimalDigits k ++ List.replicate n '0') ++ (fractionChars ['0'] ++ [])) m := by
  have hchars : decimalDigits k ++ List.replicate n '0' ++ ['0'] =
      decimalDigits k ++ List.replicate (n + 1) '0' := by
    rw [List.append_assoc, List.replicate_succ']
  refine exists_isNumeral_of_parts negative ?_ ?_ ?_ isMark_nil (.inl (List.cons_ne_nil _ _)) ?_
    hlt ?_
  · rw [hchars]
    intro c hc
    rcases List.mem_append.mp hc with hc | hc
    · exact isDigit_of_mem_decimalDigits hc
    · rw [List.eq_of_mem_replicate hc]
      rfl
  · simp [decimalDigits_ne_nil]
  · intro hzero
    rw [List.head?_append_of_ne_nil _ (decimalDigits_ne_nil _)] at hzero
    rcases Nat.eq_zero_or_pos k with rfl | hpos
    · rw [hk rfl]
      rfl
    · exact absurd hzero (head?_decimalDigits hpos)
  · rw [hchars, Nat.ofDigitChars_append, Nat.ofDigitChars_replicate_zero,
      ofDigitChars_decimalDigits, Nat.mul_comm]
  · show ((k * 10 ^ (n + 1) : ℕ) : ℚ) * 10 ^ ((0 : ℤ) - 1) = k * 10 ^ (n : ℤ)
    rw [zero_sub, zpow_neg_one, zpow_natCast]
    push_cast
    ring

theorem exists_isNumeral_withPoint (negative : Bool) {places : ℕ} (hpos : 0 < k)
    (hk : k < 2 ^ 64) (hplaces : 0 < places) :
    ∃ n : Numeral, n.Spells negative k (-places) ∧
      IsNumeral (if negative then '-' :: withPoint (decimalDigits k) places else
        withPoint (decimalDigits k) places) n := by
  obtain ⟨whole, fractional, htext, hdigits, hsome, hzero, hlength, hvalue⟩ :=
    exists_withPoint_eq places hpos
  have hfraction : fractional ≠ [] := by
    rw [← List.length_pos_iff]
    omega
  have hchars : (if negative then '-' :: withPoint (decimalDigits k) places else
      withPoint (decimalDigits k) places) =
      (if negative then '-' :: whole else whole) ++ (fractionChars fractional ++ []) := by
    cases negative <;> simp [htext, fractionChars, hfraction]
  rw [hchars]
  refine exists_isNumeral_of_parts negative hdigits hsome hzero isMark_nil (.inl hfraction) hvalue
    hk ?_
  rw [hlength, Option.getD_none, zero_sub]

/-- With an exponent the point is put behind the first digit. -/
theorem exists_isNumeral_exponent (negative : Bool) (hk : k < 2 ^ 64)
    {first : Char} {more : List Char} (hcs : decimalDigits k = first :: more) {e : ℤ}
    (he : e = scale + more.length) :
    ∃ n : Numeral, n.Spells negative k scale ∧
      IsNumeral ((if negative then ['-', first] else [first]) ++
        (fractionChars more ++ exponentChars e)) n := by
  refine exists_isNumeral_of_parts negative ?_ (List.cons_ne_nil _ _) (fun _ => rfl)
    (isMark_exponentChars e) (.inr (by simp)) ?_ hk ?_
  · rw [List.singleton_append, ← hcs]
    exact fun _ => isDigit_of_mem_decimalDigits
  · rw [List.singleton_append, ← hcs, ofDigitChars_decimalDigits]
  · rw [Option.getD_some, he, add_sub_cancel_right]

/-- However the digits are laid out, they are read back with their value. -/
theorem exists_isNumeral_body (negative : Bool) (hk : k < 2 ^ 64) (hzero : k = 0 → scale = 0) :
    ∃ m : Numeral, m.Spells negative k scale ∧
      IsNumeral (if negative then '-' :: Layout.document.body k scale else
        Layout.document.body k scale) m := by
  have hbody : Layout.document.body k scale = _ := Layout.body.eq_1 _ _ _
  dsimp only at hbody
  split at hbody
  · rename_i hpositional
    split at hbody
    · rename_i hscale
      obtain ⟨n, rfl⟩ := Int.eq_ofNat_of_zero_le hscale
      obtain ⟨m, hm, hnumeral⟩ := exists_isNumeral_whole negative (k := k) (n := n)
        (fun h => by simpa using hzero h) (by
          rcases Nat.eq_zero_or_pos k with rfl | hpos
          · simp
          · refine digits_lt_of_length ?_
            simp [Layout.document, hpos.ne'] at hpositional
            omega)
      refine ⟨m, hm, ?_⟩
      rw [hbody]
      convert hnumeral using 1
      cases negative <;> simp [Layout.document, fractionChars]
    · rename_i hscale
      have hpos : 0 < k := Nat.pos_of_ne_zero fun h => hscale (hzero h).ge
      have hplaces : 0 < (-scale).toNat := by omega
      obtain ⟨m, hm, hnumeral⟩ := exists_isNumeral_withPoint negative hpos hk hplaces
      refine ⟨m, ?_, ?_⟩
      · rwa [show -((-scale).toNat : ℤ) = scale by omega] at hm
      · rwa [hbody]
  · obtain ⟨first, more, hcs⟩ := List.exists_cons_of_ne_nil (decimalDigits_ne_nil k)
    obtain ⟨e, he⟩ : ∃ e, scale + (more.length : ℤ) = e := ⟨_, rfl⟩
    obtain ⟨m, hm, hnumeral⟩ := exists_isNumeral_exponent negative hk hcs he.symm
    refine ⟨m, hm, ?_⟩
    have hmagnitude : scale + ((first :: more).length : ℕ) - 1 = e := by
      rw [List.length_cons, ← he]
      omega
    have hexp : (if e < 0 then '-' :: decimalDigits e.natAbs
        else if Layout.document.plusSign = true then '+' :: decimalDigits e.natAbs
        else decimalDigits e.natAbs) = (if e < 0 then '-' else '+') :: decimalDigits e.natAbs := by
      split <;> rfl
    rw [hbody, hcs, hmagnitude, hexp]
    convert hnumeral using 1
    cases more <;> cases negative <;> simp [fractionChars, exponentChars]

end Written

/-! ## Doubles -/

namespace Number

variable {x : Float}

theorem exists_isNumeral_of_shortest {b : Binary} {k : ℕ} {scale : ℤ} (hfinite : x.isFinite = true)
    (hb : Binary.ofFloat? x = some b) (hshort : shortest .toEven b = ⟨b.negative, k, scale⟩)
    (hk : k < 2 ^ 64) (hzero : k = 0 → scale = 0)
    (hnearest : ∀ (n : ℕ) (e : ℤ), n < 2 ^ 64 → (n : ℚ) * 10 ^ e = k * 10 ^ scale →
      nearest b.negative n e = x) :
    ∃ n : Numeral, n.IsFractional ∧ n.nearest? = some x ∧
      IsNumeral (numberChars (.double x)) n := by
  obtain ⟨n, hspells, hnumeral⟩ := exists_isNumeral_body b.negative hk hzero
  have htie : Layout.document.tie = .toEven := rfl
  have hinf : x.isInf = false := by
    have hform : x.toModel.unpack.isFinite = true := hfinite
    show x.toModel.unpack.isInf = false
    cases hx : x.toModel.unpack with
    | infinity s => simp [hx, Float.Model.UnpackedFloat.isFinite] at hform
    | _ => rfl
  refine ⟨n, hspells.isFractional, ?_, ?_⟩
  · rw [Numeral.nearest?, hspells.negative_eq, hnearest _ _ hspells.digits_lt hspells.value_eq]
    simp [hinf]
  · rw [numberChars, if_pos hfinite, Number.text, Layout.render, hb]
    dsimp only
    rw [htie, hshort, String.toList_ofList]
    exact hnumeral

/-- The text of a finite double is a numeral, and the double is the nearest to it. -/
theorem exists_isNumeral (h : x.isFinite = true) :
    ∃ n : Numeral, n.IsFractional ∧ n.nearest? = some x ∧
      IsNumeral (numberChars (.double x)) n := by
  have hten : ∀ e : ℤ, (10 : ℚ) ^ e ≠ 0 := fun e => (zpow_pos (by norm_num) e).ne'
  have hform : x.toModel.unpack.isFinite = true := h
  cases hx : x.toModel.unpack with
  | notANumber => simp [hx, Float.Model.UnpackedFloat.isFinite] at hform
  | infinity s => simp [hx, Float.Model.UnpackedFloat.isFinite] at hform
  | zero s =>
      refine exists_isNumeral_of_shortest h
        ((Binary.ofFloat?_eq x).trans (congrArg Binary.ofForm? hx)) (shortest_zero _ rfl)
        (by decide) (fun _ => rfl) fun n e _ hvalue => ?_
      have hn : n = 0 := by
        rw [Nat.cast_zero, zero_mul] at hvalue
        exact_mod_cast (mul_eq_zero.mp hvalue).resolve_right (hten e)
      subst hn
      exact nearest_zero hx e
  | finite s m e hm =>
      obtain ⟨k, scale, hshort, hpos, hle, hround⟩ :=
        shortest_roundsTo (b := ⟨s == .negative, m, e⟩) .toEven hm (fits_of_unpack hx)
      refine exists_isNumeral_of_shortest h
        ((Binary.ofFloat?_eq x).trans (congrArg Binary.ofForm? hx)) hshort
        (hle.trans_lt (by decide)) (fun h => absurd h hpos.ne') fun n e' hlt hvalue => ?_
      have hn : 0 < n := by
        rcases Nat.eq_zero_or_pos n with rfl | hn
        · rw [Nat.cast_zero, zero_mul] at hvalue
          have : (k : ℚ) = 0 := (mul_eq_zero.mp hvalue.symm).resolve_right (hten scale)
          exact absurd (by exact_mod_cast this) hpos.ne'
        · exact hn
      exact nearest_eq hm hx hn hlt (hvalue ▸ hround)

section Readers

variable [NumeralReader] {n : Numeral} {v : Number}

theorem asWritten_of_isNumeral (h : IsNumeral (numberChars v) n) :
    v.asWritten = .number n.number? := by
  have hchars : numberChars v = (Json.number v).compact.toList := by
    rw [compact, String.toList_ofList, compactChars]
  have htake := takeToken_of_takeNumeral (h [] endsValue_nil)
  rw [List.append_nil, hchars] at htake
  rw [asWritten, read?_of_run? ((run?_token htake _).trans (run?_nil _))]
  rfl

theorem reads_of_isNumeral (h : IsNumeral (numberChars v) n) : v.Reads := by
  intro rest hrest
  refine ⟨.number n.number?, takeToken_of_takeNumeral (h rest hrest), fun b outer => ?_⟩
  rw [asWritten_of_isNumeral h]
  rfl

theorem asWritten_of_not_isFinite (h : x.isFinite = false) :
    (Number.double x).asWritten = .null := by
  have hchars : (Json.number (.double x)).compact.toList = ['n', 'u', 'l', 'l'] := by
    rw [compact, String.toList_ofList, compactChars, numberChars, if_neg (by simp [h])]
    rfl
  have hrun : run? (.item false []) (Json.number (.double x)).compact.toList =
      some (.done .null) := by
    rw [hchars, run?_token (t := .word none) rfl]
    exact run?_nil _
  rw [asWritten, read?_of_run? hrun]
  rfl

/-- **The text of a double is one token.** What is not finite is written `null`. -/
theorem reads_double (x : Float) : (Number.double x).Reads := by
  cases hx : x.isFinite with
  | true =>
      obtain ⟨n, -, -, hnumeral⟩ := exists_isNumeral hx
      exact reads_of_isNumeral hnumeral
  | false =>
      intro rest hrest
      refine ⟨.word none, ?_, fun b outer => ?_⟩
      · rw [numberChars, if_neg (by simp [hx])]
        rfl
      · rw [asWritten_of_not_isFinite hx]
        rfl

theorem isReadBack_iff_of_isNumeral (hfractional : n.IsFractional)
    (hnumeral : IsNumeral (numberChars (.double x)) n) :
    (Number.double x).IsReadBack ↔ NumeralReader.double? n = some x := by
  rw [isReadBack_iff (reads_double x), asWritten_of_isNumeral hnumeral, hfractional.number?_eq]
  cases NumeralReader.double? n <;> simp

/-- A double is read back exactly if its tree has it as its value. -/
theorem double?_asWritten_eq_self :
    Written.double? (Number.double x).asWritten = some x ↔ (Number.double x).IsReadBack := by
  cases hx : x.isFinite with
  | true =>
      obtain ⟨n, hfractional, -, hnumeral⟩ := exists_isNumeral hx
      rw [isReadBack_iff_of_isNumeral hfractional hnumeral, asWritten_of_isNumeral hnumeral,
        hfractional.number?_eq]
      cases NumeralReader.double? n <;> simp [Written.double?]
  | false =>
      rw [isReadBack_iff (reads_double x), asWritten_of_not_isFinite hx]
      simp [Written.double?]

theorem IsReadBack.isFinite (h : (Number.double x).IsReadBack) : x.isFinite = true := by
  cases hx : x.isFinite with
  | true => rfl
  | false =>
      rw [isReadBack_iff (reads_double x), asWritten_of_not_isFinite hx] at h
      cases h

end Readers

/-- The nearest double to the text of a finite double is that double. -/
theorem isReadBack_double : (Number.double x).IsReadBack ↔ x.isFinite = true := by
  refine ⟨IsReadBack.isFinite, fun hx => ?_⟩
  obtain ⟨n, hfractional, hnearest, hnumeral⟩ := exists_isNumeral hx
  exact (isReadBack_iff_of_isNumeral hfractional hnumeral).mpr hnearest

/-- A reader that calculates with doubles may miss the double that was written. -/
theorem not_isReadBack_calculating : ¬@IsReadBack calculating (.double 31.245270191439438) := by
  have hfinite : (31.245270191439438 : Float).isFinite = true := by decide +kernel
  obtain ⟨n, hfractional, -, hnumeral⟩ := exists_isNumeral hfinite
  have htake : takeNumeral (numberChars (.double 31.245270191439438)) =
      some (⟨false, ⟨31, 2⟩, ⟨245270191439438, 15⟩, none⟩, []) := by
    decide +kernel
  have hread := hnumeral [] endsValue_nil
  rw [List.append_nil, htake] at hread
  cases hread
  rw [@isReadBack_iff_of_isNumeral _ calculating _ hfractional hnumeral]
  show Numeral.calculated? _ ≠ _
  decide +kernel

end Number

end Telemetry
