import Telemetry.Definition.Variable
import Telemetry.Proofs.NameMap
import Telemetry.Proofs.Time.Order

/-!
# The newest samples

Samples of series are ordered by time, and those of one time by the keys of their series
(`older`). Among the samples of a map, the `n` newest are those that fewer than `n` are newer than
(`newest`). Dropping the oldest one after the other leaves just these (`evict_eq_newest`).

What is dropped stays dropped: to put in a sample before or after dropping makes no difference, as
long as a series only gets newer (`newest_insert_newest`). And dropping goes well with any condition
that newer samples meet if older ones do (`filter_newest`).
-/

namespace Telemetry.Variable

/-- Whether the first of two entries has the lesser time, or else the same and the lesser key. -/
def older (e f : String × Sample) : Bool :=
  e.2.timestamp.before f.2.timestamp || (!f.2.timestamp.before e.2.timestamp && e.1 < f.1)

/-- How many samples of a map are newer than an entry. -/
def rank (samples : NameMap Sample) (e : String × Sample) : Nat :=
  samples.entries.countP (older e)

def newest (n : Nat) (samples : NameMap Sample) : NameMap Sample :=
  samples.filter fun k s => rank samples (k, s) < n

variable {e f g : String × Sample} {samples : NameMap Sample} {k : String} {s : Sample} {n : Nat}

/-! ## The order of samples -/

theorem older_iff : older e f = true ↔ e.2.timestamp.before f.2.timestamp = true ∨
    f.2.timestamp.before e.2.timestamp = false ∧ e.1 < f.1 := by
  simp [older]

theorem older_irrefl (e : String × Sample) : older e e = false := by
  simp only [older, Instant.before_irrefl, String.lt_irrefl, Bool.not_false, decide_false,
    Bool.and_false, Bool.or_false]

theorem older_trans (hef : older e f = true) (hfg : older f g = true) : older e g = true := by
  rw [older_iff] at *
  rcases hef with hef | ⟨hfe, hkef⟩ <;> rcases hfg with hfg | ⟨hgf, hkfg⟩
  · exact Or.inl (Instant.before_trans hef hfg)
  · exact Or.inl (Instant.before_of_before_of_not_before hef hgf)
  · exact Or.inl (Instant.before_of_not_before_of_before hfe hfg)
  · exact Or.inr ⟨Instant.not_before_trans hfe hgf, String.lt_trans hkef hkfg⟩

theorem older_asymm (h : older e f = true) : older f e = false := by
  cases hfe : older f e with
  | false => rfl
  | true => exact absurd (older_trans h hfe) (by rw [older_irrefl]; exact Bool.false_ne_true)

theorem older_total (h : e.1 ≠ f.1) : older e f = true ∨ older f e = true := by
  rw [older_iff, older_iff]
  cases hef : e.2.timestamp.before f.2.timestamp with
  | true => exact Or.inl (Or.inl rfl)
  | false =>
      cases hfe : f.2.timestamp.before e.2.timestamp with
      | true => exact Or.inr (Or.inl rfl)
      | false =>
          by_cases hlt : e.1 < f.1
          · exact Or.inl (Or.inr ⟨rfl, hlt⟩)
          · refine Or.inr (Or.inr ⟨rfl, Decidable.byContradiction fun hgt => h ?_⟩)
            exact String.le_antisymm (String.not_lt.mp hgt) (String.not_lt.mp hlt)

/-! ## The oldest sample -/

theorem oldest?_isSome {l : List (String × Sample)} (h : l ≠ []) : ∃ e, oldest? l = some e := by
  cases l with
  | nil => exact absurd rfl h
  | cons first rest =>
      rw [oldest?]
      split
      · split
        · exact ⟨_, rfl⟩
        · exact ⟨_, rfl⟩
      · exact ⟨_, rfl⟩

theorem mem_of_oldest? {l : List (String × Sample)} (h : oldest? l = some e) : e ∈ l := by
  induction l generalizing e with
  | nil => cases h
  | cons first rest ih =>
      rw [oldest?] at h
      split at h
      · rename_i e' he'
        split at h
        · cases h
          exact List.mem_cons_of_mem _ (ih he')
        · cases h
          exact List.mem_cons_self
      · cases h
        exact List.mem_cons_self

/-- The oldest sample is older than every other. -/
theorem older_of_oldest? {l : List (String × Sample)} (hl : l.Pairwise (fun a b => a.1 < b.1))
    (h : oldest? l = some e) (hf : f ∈ l) (hne : f ≠ e) : older e f = true := by
  induction l generalizing e f with
  | nil => cases hf
  | cons first rest ih =>
      have hlt : ∀ g ∈ rest, first.1 < g.1 := fun _ => List.rel_of_pairwise_cons hl
      rw [oldest?] at h
      split at h
      · rename_i e' he'
        split at h
        · rename_i hbefore
          cases h
          rcases List.mem_cons.mp hf with rfl | hf
          · exact older_iff.mpr (Or.inl hbefore)
          · exact ih hl.of_cons he' hf hne
        · rename_i hbefore
          cases h
          have hfirst : older first e' = true :=
            older_iff.mpr (Or.inr ⟨Bool.eq_false_iff.mpr hbefore, hlt e' (mem_of_oldest? he')⟩)
          rcases List.mem_cons.mp hf with rfl | hf
          · exact absurd rfl hne
          · by_cases hfe : f = e'
            · exact hfe ▸ hfirst
            · exact older_trans hfirst (ih hl.of_cons he' hf hfe)
      · rename_i hnone
        cases h
        rcases List.mem_cons.mp hf with rfl | hf
        · exact absurd rfl hne
        · obtain ⟨g, hg⟩ := oldest?_isSome (List.ne_nil_of_mem hf)
          rw [hnone] at hg
          cases hg

/-! ## Counting newer samples -/

theorem mem_newest : e ∈ (newest n samples).entries ↔ e ∈ samples.entries ∧ rank samples e < n := by
  rw [newest, NameMap.mem_filter, decide_eq_true_iff]

theorem rank_lt_size (he : e ∈ samples.entries) : rank samples e < samples.size := by
  have hne : rank samples e ≠ samples.size := by
    intro h
    have hall := List.countP_eq_length.mp h
    -- all samples would be newer than `e`, itself among them
    exact absurd (hall e he) (by rw [older_irrefl]; exact Bool.false_ne_true)
  exact Nat.lt_of_le_of_ne List.countP_le_length hne

theorem newest_of_size_le (h : samples.size ≤ n) : newest n samples = samples := by
  refine NameMap.ext_mem fun e => ?_
  rw [mem_newest]
  exact ⟨fun he => he.1, fun he => ⟨he, Nat.lt_of_lt_of_le (rank_lt_size he) h⟩⟩

/-- Without the oldest sample the others are as new as before. -/
theorem rank_erase_oldest (ho : oldest? samples.entries = some e) (hf : f ∈ samples.entries)
    (hne : f ≠ e) : rank (samples.erase e.1) f = rank samples f := by
  have hfe := older_asymm (older_of_oldest? samples.ordered ho hf hne)
  show List.countP (older f) (samples.entries.filter fun g => g.1 != e.1) = _
  rw [List.countP_filter]
  refine List.countP_congr fun g hg => ?_
  rw [Bool.and_eq_true, bne_iff_ne]
  -- a sample that is newer than `f` is not the one that is erased, for that is older than `f`
  constructor
  · exact fun h => h.1
  · intro hfg
    refine ⟨hfg, fun heq => ?_⟩
    rw [NameMap.eq_of_mem hg (mem_of_oldest? ho) heq, hfe] at hfg
    cases hfg

theorem rank_oldest (ho : oldest? samples.entries = some e) :
    rank samples e + 1 = samples.size := by
  have he := mem_of_oldest? ho
  have hothers : samples.entries.filter (older e) = samples.entries.filter fun g => g.1 != e.1 := by
    refine List.filter_congr fun g hg => ?_
    by_cases hge : g.1 = e.1
    · obtain rfl := NameMap.eq_of_mem hg he hge
      simp [older_irrefl]
    · have hne : g ≠ e := fun h => hge (h ▸ rfl)
      simp [older_of_oldest? samples.ordered ho hg hne, hge]
  rw [← NameMap.size_erase he, rank, List.countP_eq_length_filter, hothers]
  rfl

theorem newest_erase_oldest (ho : oldest? samples.entries = some e) (h : n < samples.size) :
    newest n (samples.erase e.1) = newest n samples := by
  have hrank := rank_oldest ho
  refine NameMap.ext_mem fun f => ?_
  rw [mem_newest, mem_newest, NameMap.mem_erase]
  constructor
  · rintro ⟨⟨hf, hk⟩, hlt⟩
    have hne : f ≠ e := fun h => hk (h ▸ rfl)
    rw [rank_erase_oldest ho hf hne] at hlt
    exact ⟨hf, hlt⟩
  · rintro ⟨hf, hlt⟩
    have hne : f ≠ e := by
      rintro rfl
      omega
    have hk : f.1 ≠ e.1 := fun hk => hne (NameMap.eq_of_mem hf (mem_of_oldest? ho) hk)
    exact ⟨⟨hf, hk⟩, by rwa [rank_erase_oldest ho hf hne]⟩

/-! ## Dropping the oldest -/

theorem evict_of_size_le (h : samples.size ≤ n) : evict n samples = samples := by
  rw [evict, Nat.sub_eq_zero_of_le h]
  rfl

theorem evict_erase_oldest (ho : oldest? samples.entries = some e) (h : n < samples.size) :
    evict n (samples.erase e.1) = evict n samples := by
  have hsize := NameMap.size_erase (mem_of_oldest? ho)
  rw [evict, evict, show samples.size - n = (samples.erase e.1).size - n + 1 by omega, dropOldest,
    ho]

/-- What holds of maps within a bound, and of a map if it holds of it without its oldest sample,
holds of all maps. -/
theorem dropping_induction {P : NameMap Sample → Prop} (n : Nat)
    (within : ∀ samples, samples.size ≤ n → P samples)
    (oldest : ∀ samples e, oldest? samples.entries = some e → n < samples.size →
      P (samples.erase e.1) → P samples) (samples : NameMap Sample) : P samples := by
  induction hsize : samples.size using Nat.strong_induction_on generalizing samples with
  | _ size ih =>
      by_cases h : samples.size ≤ n
      · exact within samples h
      · have hne : samples.entries ≠ [] := by
          intro hnil
          have : samples.size = 0 := by rw [NameMap.size, hnil]; rfl
          omega
        obtain ⟨e, ho⟩ := oldest?_isSome hne
        have herase := NameMap.size_erase (mem_of_oldest? ho)
        exact oldest samples e ho (Nat.lt_of_not_le h) (ih _ (by omega) _ rfl)

/-- Dropping the oldest while there are too many leaves the newest. -/
theorem evict_eq_newest (n : Nat) (samples : NameMap Sample) :
    evict n samples = newest n samples := by
  induction samples using dropping_induction n with
  | within samples h => rw [evict_of_size_le h, newest_of_size_le h]
  | oldest samples e ho h ih => rw [← evict_erase_oldest ho h, ih, newest_erase_oldest ho h]

theorem newest_newest (n : Nat) (samples : NameMap Sample) :
    newest n (newest n samples) = newest n samples := by
  induction samples using dropping_induction n with
  | within samples h => rw [newest_of_size_le h, newest_of_size_le h]
  | oldest samples e ho h ih => rw [← newest_erase_oldest ho h, ih]

/-! ## Conditions that newer samples meet if older ones do -/

theorem filter_newest {keep : String → Sample → Bool}
    (hkeep : ∀ e f, older e f = true → keep e.1 e.2 = true → keep f.1 f.2 = true) :
    (newest n samples).filter keep = newest n (samples.filter keep) := by
  have hrank : ∀ e, keep e.1 e.2 = true → rank (samples.filter keep) e = rank samples e := by
    intro e he
    show List.countP (older e) (samples.entries.filter fun f => keep f.1 f.2) = _
    rw [List.countP_filter]
    -- what is newer than a sample that is kept is kept too
    refine List.countP_congr fun f _ => ?_
    rw [Bool.and_eq_true]
    exact ⟨fun h => h.1, fun h => ⟨h, hkeep e f h he⟩⟩
  refine NameMap.ext_mem fun e => ?_
  rw [NameMap.mem_filter, mem_newest, mem_newest, NameMap.mem_filter]
  constructor
  · rintro ⟨⟨he, hlt⟩, hk⟩
    exact ⟨⟨he, hk⟩, by rwa [hrank e hk]⟩
  · rintro ⟨⟨he, hk⟩, hlt⟩
    exact ⟨⟨he, by rwa [← hrank e hk]⟩, hk⟩

/-! ## Putting in a sample -/

theorem oldest?_eq_some (he : e ∈ samples.entries)
    (h : ∀ f ∈ samples.entries, f ≠ e → older e f = true) : oldest? samples.entries = some e := by
  obtain ⟨o, ho⟩ := oldest?_isSome (List.ne_nil_of_mem he)
  by_cases heo : e = o
  · rw [ho, heo]
  · have hoe := older_of_oldest? samples.ordered ho he heo
    rw [older_asymm (h o (mem_of_oldest? ho) (Ne.symm heo))] at hoe
    cases hoe

/-- A new series with the oldest sample is dropped at once. -/
theorem newest_insert_oldest (hk : samples.get? k = none) (hn : n ≤ samples.size)
    (h : ∀ f ∈ samples.entries, older (k, s) f = true) :
    newest n (samples.insert k s) = newest n samples := by
  have ho : oldest? (samples.insert k s).entries = some (k, s) := by
    refine oldest?_eq_some (NameMap.mem_insert.mpr (Or.inl rfl)) fun f hf hne => ?_
    exact h f ((NameMap.mem_insert.mp hf).resolve_left hne).1
  have hsize : n < (samples.insert k s).size := by
    rw [NameMap.size_insert_of_get?_eq_none hk]
    omega
  rw [← newest_erase_oldest ho hsize, NameMap.erase_insert_self, NameMap.erase_of_get?_eq_none hk]

/-- Without the oldest sample, the newest are the same after another series was put in. -/
theorem newest_insert_erase_oldest (ho : oldest? samples.entries = some e) (hn : n < samples.size)
    (hek : e.1 ≠ k)
    (h : ∀ old, samples.get? k = some old → s.timestamp.before old.timestamp = false) :
    newest n ((samples.erase e.1).insert k s) = newest n (samples.insert k s) := by
  have he := mem_of_oldest? ho
  have hsize := NameMap.size_erase he
  have holder := fun f => older_of_oldest? (f := f) samples.ordered ho
  rcases older_total (e := e) (f := (k, s)) hek with hes | hse
  · -- the sample that was the oldest still is
    have ho' : oldest? (samples.insert k s).entries = some e := by
      refine oldest?_eq_some (NameMap.mem_insert.mpr (Or.inr ⟨he, hek⟩)) fun f hf hne => ?_
      rcases NameMap.mem_insert.mp hf with rfl | ⟨hf, -⟩
      · exact hes
      · exact holder f hf hne
    have hlt : n < (samples.insert k s).size := Nat.lt_of_lt_of_le hn NameMap.size_le_size_insert
    rw [← newest_erase_oldest ho' hlt, NameMap.erase_insert_of_ne (Ne.symm hek)]
  · -- the new sample is the oldest, so its series is new too
    have hk : samples.get? k = none := by
      cases hold : samples.get? k with
      | none => rfl
      | some old =>
          have hmem := NameMap.get?_eq_some_iff.mp hold
          have heo := older_iff.mp (holder (k, old) hmem fun heq => hek (heq ▸ rfl))
          have hes : older e (k, s) = true := by
            rw [older_iff]
            rcases heo with hbefore | ⟨hnot, hlt⟩
            · exact Or.inl (Instant.before_of_before_of_not_before hbefore (h old hold))
            · exact Or.inr ⟨Instant.not_before_trans hnot (h old hold), hlt⟩
          rw [older_asymm hse] at hes
          cases hes
    have hall : ∀ f ∈ samples.entries, older (k, s) f = true := by
      intro f hf
      by_cases hfe : f = e
      · exact hfe ▸ hse
      · exact older_trans hse (holder f hf hfe)
    have hk' : (samples.erase e.1).get? k = none := by
      rw [NameMap.get?_erase, hk]
      split <;> rfl
    rw [newest_insert_oldest hk (Nat.le_of_lt hn) hall,
      newest_insert_oldest hk' (by omega) fun f hf => hall f (NameMap.mem_erase.mp hf).1,
      newest_erase_oldest ho hn]

/-- What was dropped stays dropped: a sample that is put in is the only one that matters. -/
theorem newest_insert_newest (n : Nat) (samples : NameMap Sample)
    (h : ∀ old, samples.get? k = some old → s.timestamp.before old.timestamp = false) :
    newest n ((newest n samples).insert k s) = newest n (samples.insert k s) := by
  induction samples using dropping_induction n with
  | within samples hsize => rw [newest_of_size_le hsize]
  | oldest samples e ho hn ih =>
      have hkept : ∀ old, (samples.erase e.1).get? k = some old →
          s.timestamp.before old.timestamp = false := by
        intro old hold
        rw [NameMap.get?_erase] at hold
        split at hold
        · cases hold
        · exact h old hold
      rw [← newest_erase_oldest ho hn, ih hkept]
      by_cases hek : e.1 = k
      · rw [hek, NameMap.insert_erase_self]
      · exact newest_insert_erase_oldest ho hn hek h

end Telemetry.Variable
