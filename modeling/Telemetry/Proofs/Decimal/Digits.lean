import Mathlib.Algebra.Group.Nat.Defs
import Mathlib.Data.List.Basic
import Telemetry.Decimal.Notation
import Telemetry.Decimal.Reading

/-!
# Runs of digits

A run of digits is read up to what follows it (`takeDigits_append`), and the digits of a number
stand for the number. No zero leads them, unless the number is zero, or they are filled up to put a
point between them (`exists_withPoint_eq`).
-/

namespace Telemetry.Decimal

variable {ds rest : List Char}

def EndsDigits (rest : List Char) : Prop := ∀ c ∈ rest.head?, c.isDigit = false

theorem endsDigits_cons {c : Char} (hc : c.isDigit = false) (rest : List Char) :
    EndsDigits (c :: rest) := by
  intro c' hc'
  cases hc'
  exact hc

theorem endsDigits_nil : EndsDigits [] := by
  intro c hc
  cases hc

/-- A run is taken up to the first character that does not belong to it. -/
theorem takeWhile_run {p : Char → Bool} (hds : ∀ c ∈ ds, p c = true)
    (hrest : ∀ c ∈ rest.head?, p c = false) : (ds ++ rest).takeWhile p = ds := by
  rw [List.takeWhile_append_of_pos hds]
  cases rest with
  | nil => simp
  | cons c rest => simp [hrest c rfl]

theorem dropWhile_run {p : Char → Bool} (hds : ∀ c ∈ ds, p c = true)
    (hrest : ∀ c ∈ rest.head?, p c = false) : (ds ++ rest).dropWhile p = rest := by
  rw [List.dropWhile_append_of_pos hds]
  cases rest with
  | nil => rfl
  | cons c rest => simp [hrest c rfl]

theorem takeDigits_append (hds : ∀ c ∈ ds, c.isDigit = true) (hrest : EndsDigits rest)
    (d : Digits) : takeDigits d (ds ++ rest) =
      (⟨Nat.ofDigitChars 10 ds d.value, d.count + ds.length⟩, rest) := by
  induction ds generalizing d with
  | nil =>
      cases rest with
      | nil => rfl
      | cons c rest =>
          rw [List.nil_append, takeDigits, if_neg (by simp [hrest c rfl])]
          rfl
  | cons c ds ih =>
      rw [List.forall_mem_cons] at hds
      rw [List.cons_append, takeDigits, if_pos hds.1, ih hds.2, Nat.ofDigitChars_cons,
        Digits.push, List.length_cons, Nat.add_right_comm, Nat.add_assoc]

theorem takeDigits_all (hds : ∀ c ∈ ds, c.isDigit = true) (d : Digits) :
    takeDigits d ds = (⟨Nat.ofDigitChars 10 ds d.value, d.count + ds.length⟩, []) := by
  have htake := takeDigits_append hds endsDigits_nil d
  rwa [List.append_nil] at htake

theorem isDigit_of_mem_decimalDigits {n : Nat} {c : Char} (h : c ∈ decimalDigits n) :
    c.isDigit = true :=
  Nat.isDigit_of_mem_toDigits (by decide) (by decide) h

theorem ofDigitChars_decimalDigits (n : Nat) : Nat.ofDigitChars 10 (decimalDigits n) 0 = n :=
  Nat.ofDigitChars_ten_toDigits

theorem length_decimalDigits_pos (n : Nat) : 0 < (decimalDigits n).length :=
  Nat.length_toDigits_pos

theorem decimalDigits_ne_nil (n : Nat) : decimalDigits n ≠ [] :=
  Nat.toDigits_ne_nil

theorem ofDigitChars_append_eq (whole fraction : List Char) :
    Nat.ofDigitChars 10 (whole ++ fraction) 0 =
      Nat.ofDigitChars 10 whole 0 * 10 ^ fraction.length + Nat.ofDigitChars 10 fraction 0 := by
  rw [Nat.ofDigitChars_append, Nat.ofDigitChars_eq_ofDigitChars_zero, Nat.mul_comm]

/-- No zero leads the digits of a positive number. -/
theorem head?_decimalDigits {n : Nat} (hn : 0 < n) : (decimalDigits n).head? ≠ some '0' := by
  induction n using Nat.strongRecOn with
  | ind n ih =>
      rcases Nat.lt_or_ge n 10 with hlt | hge
      · have hdigits : ∀ d < 10, 0 < d → (decimalDigits d).head? ≠ some '0' := by decide
        exact hdigits n hlt hn
      · have hsplit : decimalDigits n = decimalDigits (n / 10) ++ decimalDigits (n % 10) := by
          rw [decimalDigits, decimalDigits, decimalDigits, Nat.toDigits_append_toDigits (by decide)
            (by omega) (Nat.mod_lt _ (by decide)), Nat.div_add_mod]
        rw [hsplit, List.head?_append_of_ne_nil _ (decimalDigits_ne_nil _)]
        exact ih (n / 10) (by omega) (by omega)

/-- The point is put so that the digits after it are the places of the scale. -/
theorem exists_withPoint_eq {k : Nat} (places : Nat) (hpos : 0 < k) :
    ∃ whole fractional, withPoint (decimalDigits k) places = whole ++ '.' :: fractional ∧
      (∀ c ∈ whole ++ fractional, c.isDigit = true) ∧ whole ≠ [] ∧
      (whole.head? = some '0' → whole.length = 1) ∧ fractional.length = places ∧
      Nat.ofDigitChars 10 (whole ++ fractional) 0 = k := by
  obtain ⟨all, hall⟩ : ∃ all, List.replicate (places + 1 - (decimalDigits k).length) '0' ++
      decimalDigits k = all := ⟨_, rfl⟩
  have hlength : places + 1 ≤ all.length := by
    rw [← hall, List.length_append, List.length_replicate]
    omega
  have hwhole : (all.take (all.length - places)).length = all.length - places := by
    rw [List.length_take]
    omega
  refine ⟨all.take (all.length - places), all.drop (all.length - places), ?_, ?_, ?_, ?_, ?_, ?_⟩
  · rw [withPoint, hall]
  · rw [List.take_append_drop, ← hall]
    intro c hc
    rcases List.mem_append.mp hc with hc | hc
    · rw [List.eq_of_mem_replicate hc]
      rfl
    · exact isDigit_of_mem_decimalDigits hc
  · rw [← List.length_pos_iff]
    omega
  · -- a zero leads only if it was put there, and then it is alone before the point
    intro hzero
    rcases Nat.lt_or_ge places (decimalDigits k).length with hlong | hshort
    · rw [Nat.sub_eq_zero_of_le hlong, List.replicate_zero, List.nil_append] at hall
      rw [List.head?_take, if_neg (by omega), ← hall] at hzero
      exact absurd hzero (head?_decimalDigits hpos)
    · rw [hwhole, ← hall, List.length_append, List.length_replicate]
      omega
  · rw [List.length_drop]
    omega
  · rw [List.take_append_drop, ← hall, Nat.ofDigitChars_append, Nat.ofDigitChars_replicate_zero,
      Nat.mul_zero, ofDigitChars_decimalDigits]

end Telemetry.Decimal
