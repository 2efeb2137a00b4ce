import Mathlib.Logic.Relation
import Mathlib.Order.WellFounded
import Telemetry.Proofs.Definition.Interleaving
import Telemetry.Proofs.Time.Fields

/-!
# What an update retains

An update of an aggregating variable puts the sample of the metric in the place of that of its
series, gives up what the window of the metric leaves out, and then drops the oldest sample while
there are more than the variable remembers. Whatever was stored before, it retains the newest of
the samples that are not given up, and one at least (`Variable.update_retains`): a window begins no
later than it ends, in a leap second too (`Instant.not_before_earlier?`).

Dropping is a loop (`Variable.Drops`). It cannot go on for ever, and wherever it ends the newest are
left.
-/

namespace Telemetry

/-- A window does not begin after it ends, not even if it ends in a leap second. -/
theorem Instant.not_before_earlier? {i a : Instant} {d : Duration} (hi : i.InCalendar)
    (hd : 0 ≤ d.nanos) (ha : i.earlier? d = some a) : i.before a = false := by
  obtain ⟨-, -, hnanos⟩ := hi
  rw [earlier?, add?, Int.neg_tdiv, Int.neg_tmod, Int.tdiv_eq_ediv_of_nonneg hd,
    Int.tmod_eq_emod_of_nonneg hd] at ha
  generalize d.nanos = ns at ha hd
  rw [Bool.eq_false_iff, ne_eq, before_iff]
  dsimp only at ha
  unfold nanosPerSecond at *
  split at ha
  · -- the window begins in the same leap second
    obtain ⟨-, rfl⟩ := ofParts?_eq_some_iff.mp ha
    dsimp only
    omega
  · rename_i hmoves
    cases hleap : i.isLeap with
    | true =>
        -- it begins before the leap second, which is counted as a second of its own
        have hmore : -(ns / ((1000000000 : Nat) : Int)) < 0 := by
          by_contra hstays
          refine hmoves ⟨hleap, ?_, hstays⟩
          omega
        simp only [hleap, if_true, if_pos hmore] at ha
        obtain ⟨-, rfl⟩ := ofParts?_eq_some_iff.mp ha
        dsimp only
        omega
    | false =>
        have hplain : i.nanos < 1000000000 := nanos_lt_of_isLeap hleap
        simp only [hleap, Bool.false_eq_true, if_false] at ha
        obtain ⟨-, rfl⟩ := ofParts?_eq_some_iff.mp ha
        dsimp only
        omega

namespace Variable

variable {v : Variable} {samples after last : NameMap Sample} {stores : Stores} {m : Metric}
  {groupBy : List String} {e f : String × Sample} {n : Nat}

/-! ## The newest samples -/

/-- **The greatest samples.** `kept` are `n` of the samples, or all if there are no more, and
whatever is not kept is older than all that are. -/
structure AreNewest (n : Nat) (samples kept : NameMap Sample) : Prop where
  mem : ∀ e ∈ kept.entries, e ∈ samples.entries
  size : kept.size = min n samples.size
  older : ∀ e ∈ kept.entries, ∀ f ∈ samples.entries, f ∉ kept.entries → older f e = true

theorem areNewest_evict (n : Nat) (samples : NameMap Sample) :
    AreNewest n samples (evict n samples) := by
  induction samples using dropping_induction n with
  | within samples h =>
      rw [evict_of_size_le h]
      refine ⟨fun e he => he, (Nat.min_eq_right h).symm, ?_⟩
      intro e _ f hf hnot
      exact absurd hf hnot
  | oldest samples o ho h ih =>
      rw [evict_erase_oldest ho h] at ih
      obtain ⟨hmem, hsize, holder⟩ := ih
      have herase := NameMap.size_erase (mem_of_oldest? ho)
      refine ⟨?_, by omega, ?_⟩
      · intro e he
        exact (NameMap.mem_erase.mp (hmem e he)).1
      · intro e he f hf hnot
        by_cases hfo : f.1 = o.1
        · -- the sample that went first is older than all others
          obtain rfl := NameMap.eq_of_mem hf (mem_of_oldest? ho) hfo
          obtain ⟨he, hne⟩ := NameMap.mem_erase.mp (hmem e he)
          exact older_of_oldest? samples.ordered ho he fun heq => hne (heq ▸ rfl)
        · exact holder e he f (NameMap.mem_erase.mpr ⟨hf, hfo⟩) hnot

/-! ## The loop that drops the oldest -/

/-- A round of the loop: there are more samples than the bound, and the oldest one goes. -/
inductive Drops (bound : Nat) : NameMap Sample → NameMap Sample → Prop
  | oldest {samples : NameMap Sample} {e : String × Sample} (hmany : bound < samples.size)
      (he : e ∈ samples.entries) (hold : ∀ f ∈ samples.entries, f ≠ e → older e f = true) :
      Drops bound samples (samples.erase e.1)

theorem Drops.size_lt (h : Drops n samples after) : after.size < samples.size := by
  cases h with
  | oldest hmany he hold =>
      have hsize := NameMap.size_erase he
      omega

/-- The loop ends, whatever it starts from. -/
theorem wellFounded_drops (n : Nat) :
    WellFounded fun after samples : NameMap Sample => Drops n samples after :=
  Subrelation.wf Drops.size_lt (measure NameMap.size).wf

/-- A round does not change where the loop will end. -/
theorem Drops.evict_eq (h : Drops n samples after) : evict n after = evict n samples := by
  cases h with
  | oldest hmany he hold => exact evict_erase_oldest (oldest?_eq_some he hold) hmany

theorem reflTransGen_drops_evict (n : Nat) (samples : NameMap Sample) :
    Relation.ReflTransGen (Drops n) samples (evict n samples) := by
  induction samples using dropping_induction n with
  | within samples h =>
      rw [evict_of_size_le h]
  | oldest samples o ho h ih =>
      rw [evict_erase_oldest ho h] at ih
      apply Relation.ReflTransGen.head _ ih
      exact .oldest h (mem_of_oldest? ho) fun f hf hne => older_of_oldest? samples.ordered ho hf hne

/-- The loop goes on while there are too many. -/
theorem exists_drops_iff : (∃ after, Drops n samples after) ↔ n < samples.size := by
  constructor
  · rintro ⟨after, hdrops⟩
    cases hdrops with
    | oldest hmany he hold => exact hmany
  · intro hmany
    have hne : samples.entries ≠ [] := by
      rw [← List.length_pos_iff]
      exact Nat.lt_of_le_of_lt (Nat.zero_le n) hmany
    obtain ⟨o, ho⟩ := oldest?_isSome hne
    exact ⟨_, .oldest hmany (mem_of_oldest? ho) fun f hf hfo =>
      older_of_oldest? samples.ordered ho hf hfo⟩

/-- Wherever the loop ends, it ends with what `evict` leaves. -/
theorem eq_evict_of_reflTransGen (h : Relation.ReflTransGen (Drops n) samples last)
    (hlast : ∀ after, ¬ Drops n last after) : last = evict n samples := by
  have hevict : evict n last = evict n samples := by
    clear hlast
    induction h with
    | refl => rfl
    | tail _ hdrops ih => rw [hdrops.evict_eq, ih]
  have hsize : last.size ≤ n := by
    apply Nat.le_of_not_lt
    intro hmany
    obtain ⟨after, hdrops⟩ := exists_drops_iff.mpr hmany
    exact hlast after hdrops
  rw [← hevict, evict_of_size_le hsize]

/-! ## Updates -/

/-- The series that are remembered of a variable: none if nothing is stored, or a sample that is of
no series. -/
def remembered (stores : Stores) (name : String) : NameMap Sample :=
  match stores.get? name with
  | some (.series samples) => samples
  | some (.last _) | none => .empty

/-- Whether a sample may be retained in an update: it is that of the metric, or remembered of
another series, and is not older than the window of the metric. -/
def Offered (v : Variable) (stores : Stores) (m : Metric) (groupBy : List String)
    (e : String × Sample) : Prop :=
  (e = (seriesKey m groupBy, .ofMetric m) ∨
    e ∈ (remembered stores v.name).entries ∧ e.1 ≠ seriesKey m groupBy) ∧
  ∀ start, m.timestamp.earlier? v.expire = some start → e.2.timestamp.before start = false

def offered (v : Variable) (stores : Stores) (m : Metric) (groupBy : List String) :
    NameMap Sample :=
  ((remembered stores v.name).insert (seriesKey m groupBy) (.ofMetric m)).filter
    fun _ s => s.isLive (v.windowStart m.timestamp)

theorem mem_offered : e ∈ (v.offered stores m groupBy).entries ↔ v.Offered stores m groupBy e := by
  rw [offered, NameMap.mem_filter, NameMap.mem_insert, Offered]
  apply and_congr_right
  intro _
  rw [windowStart]
  cases m.timestamp.earlier? v.expire with
  | none => simp [Sample.isLive]
  | some start => simp [Sample.isLive]

theorem update_eq {a : Aggregation} (ha : v.aggregation = some a) : v.update stores m groupBy =
    stores.insert v.name (.series (evict v.maxSeries (v.offered stores m groupBy))) := by
  rw [update_of_aggregation ha, offered, remembered]
  cases stores.get? v.name with
  | none => rfl
  | some state => cases state <;> rfl

/-- The sample of the metric itself is not too old. -/
theorem offered_self (hm : m.timestamp.InCalendar) (hexpire : 0 ≤ v.expire.nanos) :
    v.Offered stores m groupBy (seriesKey m groupBy, .ofMetric m) := by
  refine ⟨Or.inl rfl, ?_⟩
  intro start hstart
  exact Instant.not_before_earlier? hm hexpire hstart

/-- **An update retains the newest samples.** Whatever is stored, after a metric the entry of an
aggregating variable is a series with at least one sample, and no more than the variable remembers.
Among the samples that are offered, which are that of the metric and those of other series unless
they are too old by then, it has the newest. No other entry changes. The loop that drops the oldest
ends, and it ends with this series only. -/
theorem update_retains (v : Variable) (a : Aggregation) (stores : Stores) (m : Metric)
    (groupBy : List String) (ha : v.aggregation = some a) (hexpire : 0 ≤ v.expire.nanos)
    (hm : m.timestamp.InCalendar) :
    ∃ samples kept : NameMap Sample,
      (∀ e, e ∈ samples.entries ↔ v.Offered stores m groupBy e) ∧
      (v.update stores m groupBy).get? v.name = some (.series kept) ∧
      1 ≤ kept.size ∧ kept.size ≤ v.maxSeries ∧ AreNewest v.maxSeries samples kept ∧
      (∀ name, name ≠ v.name → (v.update stores m groupBy).get? name = stores.get? name) ∧
      (WellFounded fun after before : NameMap Sample => Drops v.maxSeries before after) ∧
      ∀ last, Relation.ReflTransGen (Drops v.maxSeries) samples last ∧
        (∀ after, ¬ Drops v.maxSeries last after) ↔ last = kept := by
  have hnewest := areNewest_evict v.maxSeries (v.offered stores m groupBy)
  have hpos : 0 < (v.offered stores m groupBy).size :=
    List.length_pos_of_mem (mem_offered.mpr (offered_self hm hexpire))
  have hbound := v.maxSeries_pos
  have hsize := hnewest.size
  refine ⟨v.offered stores m groupBy, evict v.maxSeries (v.offered stores m groupBy),
    fun e => mem_offered, ?_, by omega, by omega, hnewest, ?_, wellFounded_drops _, ?_⟩
  · rw [update_eq ha, NameMap.get?_insert_self]
  · intro name hname
    rw [update_eq ha, NameMap.get?_insert, if_neg hname]
  · intro last
    constructor
    · rintro ⟨hrun, hend⟩
      exact eq_evict_of_reflTransGen hrun hend
    · rintro rfl
      refine ⟨reflTransGen_drops_evict _ _, ?_⟩
      intro after hdrops
      have hmany := exists_drops_iff.mp ⟨after, hdrops⟩
      omega

/-- More hosts than are remembered, from a time when more were. -/
def crowded : Stores :=
  .ofList [("load", .series (.ofList [("host=a", ⟨⟨5, 0⟩, .numeric 1⟩),
    ("host=b", ⟨⟨7, 0⟩, .numeric 1⟩), ("host=c", ⟨⟨7, 0⟩, .numeric 1⟩)]))]

/-- A host that comes late to a crowd is not retained itself: of the hosts with the latest sample,
the one with the greatest key is. -/
theorem late_host_not_retained :
    sumOfOne.aggregation = some .sum ∧ 0 ≤ sumOfOne.expire.nanos ∧
    (loadOf "d" 6).timestamp.InCalendar ∧
    ∃ samples kept : NameMap Sample,
      (sumOfOne.update crowded (loadOf "d" 6) ["cluster"]).get? "load" = some (.series kept) ∧
      kept = .ofList [("host=c", ⟨⟨7, 0⟩, .numeric 1⟩)] ∧ AreNewest 1 samples kept ∧
      ("host=d", .ofMetric (loadOf "d" 6)) ∈ samples.entries := by
  have hm : (loadOf "d" 6).timestamp.InCalendar := by decide
  obtain ⟨samples, kept, hoffered, hentry, -, -, hnewest, -⟩ :=
    update_retains sumOfOne .sum crowded (loadOf "d" 6) ["cluster"] rfl (by decide) hm
  have hlate : sumOfOne.Offered crowded (loadOf "d" 6) ["cluster"]
      (seriesKey (loadOf "d" 6) ["cluster"], .ofMetric (loadOf "d" 6)) :=
    offered_self hm (by decide)
  have hkept : (sumOfOne.update crowded (loadOf "d" 6) ["cluster"]).get? "load" =
      some (.series (.ofList [("host=c", ⟨⟨7, 0⟩, .numeric 1⟩)])) := by decide
  refine ⟨rfl, by decide, hm, samples, kept, hentry, ?_, hnewest, (hoffered _).mpr hlate⟩
  have hsame := hentry.symm.trans hkept
  cases hsame
  rfl

end Variable

end Telemetry
