import Mathlib.Tactic.Linarith
import Mathlib.Tactic.Ring
import Telemetry.Time.Instant

/-!
# The order of time

`Instant.before` is a strict order of all instants. Outside leap seconds an instant is the number of
its nanoseconds (`Instant.total`): the order is that of these numbers, moving an instant adds to it
(`Instant.IsPlain.add?_eq`), and so windows of one length begin in the order in which they end
(`Instant.IsPlain.exists_earlier?`). The time between two instants is the difference of their
numbers, so it grows with the later one (`Instant.minus_le_minus`).
-/

namespace Telemetry.Instant

variable {a b c i t : Instant}

/-! ## All instants -/

theorem before_iff :
    a.before b = true ↔ a.seconds < b.seconds ∨ a.seconds = b.seconds ∧ a.nanos < b.nanos := by
  simp [before]

theorem before_irrefl (a : Instant) : a.before a = false := by
  simp [before]

theorem before_trans (hab : a.before b = true) (hbc : b.before c = true) : a.before c = true := by
  rw [before_iff] at *
  omega

theorem before_asymm (h : a.before b = true) : b.before a = false := by
  rw [Bool.eq_false_iff, ne_eq, before_iff]
  rw [before_iff] at h
  omega

theorem before_of_before_of_not_before (hab : a.before b = true) (hcb : c.before b = false) :
    a.before c = true := by
  rw [Bool.eq_false_iff, ne_eq, before_iff] at hcb
  rw [before_iff] at *
  omega

theorem before_of_not_before_of_before (hba : b.before a = false) (hbc : b.before c = true) :
    a.before c = true := by
  rw [Bool.eq_false_iff, ne_eq, before_iff] at hba
  rw [before_iff] at *
  omega

theorem not_before_trans (hba : b.before a = false) (hcb : c.before b = false) :
    c.before a = false := by
  rw [Bool.eq_false_iff, ne_eq, before_iff] at *
  omega

/-! ## Instants outside leap seconds -/

/-- An instant of the calendar that is not in a leap second. -/
structure IsPlain (i : Instant) : Prop where
  least_le : leastSeconds ≤ i.seconds
  le_greatest : i.seconds ≤ greatestSeconds
  nanos_lt : i.nanos < nanosPerSecond

/-- The nanoseconds since the epoch, without leap seconds. -/
def total (i : Instant) : Int := i.seconds * nanosPerSecond + i.nanos

def ofTotal? (n : Int) : Option Instant :=
  ofParts? (n / nanosPerSecond) (n % nanosPerSecond).toNat

theorem IsPlain.before_iff_total_lt (ha : a.IsPlain) (hb : b.IsPlain) :
    a.before b = true ↔ a.total < b.total := by
  have hna := ha.nanos_lt
  have hnb := hb.nanos_lt
  rw [before_iff, total, total]
  unfold nanosPerSecond at *
  omega

theorem IsPlain.add?_eq (h : i.IsPlain) (ns : Int) : i.add? ns = ofTotal? (i.total + ns) := by
  have hleap : i.isLeap = false := by
    have hn := h.nanos_lt
    simp only [isLeap, decide_eq_false_iff_not]
    omega
  have hns := Int.mul_tdiv_add_tmod ns nanosPerSecond
  have hsum : i.total + ns =
      (i.nanos + ns.tmod nanosPerSecond) +
        (i.seconds + ns.tdiv nanosPerSecond) * nanosPerSecond := by
    unfold total
    linarith
  have hpos : (nanosPerSecond : Int) ≠ 0 := by decide
  unfold add? ofTotal?
  rw [hsum, Int.add_mul_ediv_right _ _ hpos, Int.add_mul_emod_self_right]
  simp only [hleap, Bool.false_eq_true, false_and, if_false]
  ring_nf

theorem ofParts?_eq_some_iff {s : Int} {n : Nat} :
    ofParts? s n = some i ↔
      (leastSeconds ≤ s ∧ s ≤ greatestSeconds ∧ n < 2 * nanosPerSecond) ∧ ⟨s, n⟩ = i := by
  unfold ofParts?
  split
  · rename_i h
    simp [h]
  · rename_i h
    simp [h]

theorem ofTotal?_eq_some_iff {n : Int} : ofTotal? n = some i ↔ i.IsPlain ∧ i.total = n := by
  obtain ⟨s, nanos⟩ := i
  rw [ofTotal?, ofParts?_eq_some_iff, Instant.mk.injEq]
  unfold total nanosPerSecond
  constructor
  · rintro ⟨⟨hleast, hgreatest, -⟩, rfl, rfl⟩
    refine ⟨⟨hleast, hgreatest, ?_⟩, ?_⟩
    · dsimp only [nanosPerSecond]
      omega
    · dsimp only
      omega
  · rintro ⟨⟨hleast, hgreatest, hnanos⟩, rfl⟩
    dsimp only [nanosPerSecond] at *
    omega

/-- What lies between two instants of the calendar is within it. -/
theorem exists_ofTotal? {n : Int} (ha : a.IsPlain) (hb : b.IsPlain) (han : a.total ≤ n)
    (hnb : n ≤ b.total) : ∃ c, ofTotal? n = some c := by
  obtain ⟨hleast, -, -⟩ := ha
  obtain ⟨-, hgreatest, hnanos⟩ := hb
  unfold total nanosPerSecond at *
  refine ⟨_, ofParts?_eq_some_iff.mpr ⟨⟨?_, ?_, ?_⟩, rfl⟩⟩ <;>
    dsimp only [nanosPerSecond] <;> omega

/-- A window that ends later begins later, and begins within the calendar if the other does. -/
theorem IsPlain.exists_earlier? {d : Duration} (hi : i.IsPlain) (ht : t.IsPlain)
    (hd : 0 ≤ d.nanos) (hit : t.before i = false) (ha : i.earlier? d = some a) :
    ∃ b, t.earlier? d = some b ∧ b.before a = false := by
  unfold earlier? at *
  rw [hi.add?_eq, ofTotal?_eq_some_iff] at ha
  obtain ⟨hplain, htotal⟩ := ha
  have hle : i.total ≤ t.total := by
    by_contra hlt
    exact Bool.eq_false_iff.mp hit ((ht.before_iff_total_lt hi).mpr (by omega))
  -- the start of the later window lies between `a` and the end of the window
  have hb := exists_ofTotal? hplain ht (n := t.total + -d.nanos) (by omega) (by omega)
  obtain ⟨b, hb⟩ := hb
  have hbt := ofTotal?_eq_some_iff.mp hb
  refine ⟨b, by rw [ht.add?_eq, hb], ?_⟩
  rw [Bool.eq_false_iff, ne_eq, hbt.1.before_iff_total_lt hplain]
  omega

/-! ## Time between instants -/

theorem nanos_lt_of_isLeap (h : i.isLeap = false) : i.nanos < nanosPerSecond := by
  simpa [isLeap] using h

theorem minus_eq (ha : a.isLeap = false) (hb : b.isLeap = false) :
    a.minus b = a.total - b.total := by
  unfold minus total
  simp only [ha, hb, Bool.false_eq_true, and_false, if_false]
  ring

theorem total_le_total (ha : a.isLeap = false) (h : b.before a = false) : a.total ≤ b.total := by
  have hna := nanos_lt_of_isLeap ha
  rw [Bool.eq_false_iff, ne_eq, before_iff] at h
  unfold total nanosPerSecond at *
  omega

/-- What lies back longer at a later time. -/
theorem minus_le_minus (hi : i.isLeap = false) (ha : a.isLeap = false) (hb : b.isLeap = false)
    (h : b.before a = false) : a.minus i ≤ b.minus i := by
  have htotal := total_le_total ha h
  rw [minus_eq ha hi, minus_eq hb hi]
  omega

/-! ## Clocks -/

/-- What a clock shows that never shows a leap second and never goes back. -/
structure Steady (times : List Instant) : Prop where
  not_leap : ∀ t ∈ times, t.isLeap = false
  ordered : times.Pairwise fun t t' => t'.before t = false

theorem steady_cons {times : List Instant} : Steady (t :: times) ↔
    t.isLeap = false ∧ (∀ t' ∈ times, t'.before t = false) ∧ Steady times := by
  constructor
  · rintro ⟨hleap, hordered⟩
    obtain ⟨hfirst, hordered⟩ := List.pairwise_cons.mp hordered
    obtain ⟨ht, hleap⟩ := List.forall_mem_cons.mp hleap
    exact ⟨ht, hfirst, ⟨hleap, hordered⟩⟩
  · rintro ⟨ht, hfirst, ⟨hleap, hordered⟩⟩
    exact ⟨List.forall_mem_cons.mpr ⟨ht, hleap⟩, List.pairwise_cons.mpr ⟨hfirst, hordered⟩⟩

theorem Steady.exists_start {times : List Instant} (h : Steady times) :
    ∃ start : Instant, ∀ t ∈ times, t.before start = false := by
  cases times with
  | nil => exact ⟨⟨0, 0⟩, by simp⟩
  | cons t rest =>
      obtain ⟨-, hrest, -⟩ := steady_cons.mp h
      exact ⟨t, List.forall_mem_cons.mpr ⟨before_irrefl t, hrest⟩⟩

end Telemetry.Instant
