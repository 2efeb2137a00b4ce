import Mathlib.Data.Finset.Card
import Mathlib.Data.Finset.Range
import Mathlib.Data.Finset.SDiff
import Telemetry.Pattern.Matcher

/-!
# Where a pattern leads

A pattern relates the places of a text: from one it can lead to another (`Pattern.Leads`). The shape
of the pattern alone says to which ones, without preference and without an account of what was seen
on the way. The matcher finds all these places and no others (`Pattern.mem_places_run`), though it
begins no round of a repetition twice at one place. So a pattern matches in a text if and only if it
leads from some place of the text to another (`Pattern.matchesIn_iff`).
-/

namespace Telemetry.Pattern

def Walk (R : Nat → Nat → Prop) : (n : Nat) → Nat → Nat → Prop
  | 0, i, j => i = j
  | n + 1, i, j => ∃ k, R i k ∧ Walk R n k j

def ShortWalk (R : Nat → Nat → Prop) (n i j : Nat) : Prop := ∃ m ≤ n, Walk R m i j

/-- A pattern leads from one place of a text to another. -/
def Leads (text : Array Char) : Pattern → Nat → Nat → Prop
  | .empty, i, j => i = j
  | .set s, i, j => ∃ c, text[i]? = some c ∧ s.has c = true ∧ j = i + 1
  | .anchor a, i, j => holds text i a = true ∧ i = j
  | .seq p q, i, j => ∃ k, Leads text p i k ∧ Leads text q k j
  | .alt p q, i, j => Leads text p i j ∨ Leads text q i j
  | .group _ p, i, j => Leads text p i j
  | .repeated p least more _, i, j =>
    ∃ n, least ≤ n ∧ (∀ bound, more = some bound → n ≤ least + bound) ∧ Walk (Leads text p) n i j

section Walks

variable {R : Nat → Nat → Prop} {i j k m n size : Nat}

theorem walk_one : Walk R 1 i j ↔ R i j := by simp [Walk]

theorem walk_add : Walk R (m + n) i j ↔ ∃ k, Walk R m i k ∧ Walk R n k j := by
  induction m generalizing i with
  | zero => simp [Walk]
  | succ m ih =>
      rw [Nat.succ_add]
      simp only [Walk, ih]
      constructor
      · rintro ⟨k, hik, l, hkl, hlj⟩
        exact ⟨l, ⟨k, hik, hkl⟩, hlj⟩
      · rintro ⟨l, ⟨k, hik, hkl⟩, hlj⟩
        exact ⟨k, hik, l, hkl, hlj⟩

/-- A walk that has at least `m` rounds, and at most `n` beyond that. -/
theorem exists_shortWalk : (∃ k, Walk R m i k ∧ ShortWalk R n k j) ↔
    ∃ l, m ≤ l ∧ l ≤ m + n ∧ Walk R l i j := by
  constructor
  · rintro ⟨k, hik, l, hl, hkj⟩
    exact ⟨m + l, by omega, by omega, walk_add.mpr ⟨k, hik, hkj⟩⟩
  · rintro ⟨l, hle, hl, hwalk⟩
    obtain ⟨l, rfl⟩ := Nat.exists_eq_add_of_le hle
    obtain ⟨k, hik, hkj⟩ := walk_add.mp hwalk
    exact ⟨k, hik, l, by omega, hkj⟩

/-- A walk that has more than `m` rounds. -/
theorem exists_longWalk : (∃ k, Walk R m i k ∧ ∃ n, Walk R (n + 1) k j) ↔
    ∃ l, m + 1 ≤ l ∧ Walk R l i j := by
  constructor
  · rintro ⟨k, hik, n, hkj⟩
    exact ⟨m + (n + 1), by omega, walk_add.mpr ⟨k, hik, hkj⟩⟩
  · rintro ⟨l, hle, hwalk⟩
    obtain ⟨l, rfl⟩ := Nat.exists_eq_add_of_le hle
    rw [Nat.add_assoc, Nat.add_comm 1] at hwalk
    obtain ⟨k, hik, hkj⟩ := walk_add.mp hwalk
    exact ⟨k, hik, l, hkj⟩

theorem shortWalk_zero : ShortWalk R 0 i j ↔ i = j := by simp [ShortWalk, Walk]

theorem shortWalk_succ : ShortWalk R (n + 1) i j ↔ i = j ∨ ∃ k, R i k ∧ ShortWalk R n k j := by
  constructor
  · rintro ⟨m, hm, hwalk⟩
    cases m with
    | zero => exact .inl hwalk
    | succ m =>
        obtain ⟨k, hik, hkj⟩ := hwalk
        exact .inr ⟨k, hik, m, by omega, hkj⟩
  · rintro (rfl | ⟨k, hik, m, hm, hkj⟩)
    · exact ⟨0, by omega, rfl⟩
    · exact ⟨m + 1, by omega, k, hik, hkj⟩

/-- What is closed under a relation is not left by a walk. -/
theorem Walk.mem_of_closed {P : Nat → Prop} (hwalk : Walk R n i j)
    (hclosed : ∀ i, P i → ∀ j, R i j → P j) (hi : P i) : P j := by
  induction n generalizing i with
  | zero => exact hwalk ▸ hi
  | succ n ih =>
      obtain ⟨k, hik, hkj⟩ := hwalk
      exact ih hkj (hclosed i hi k hik)

end Walks

/-! ## Places of threads -/

def places (ts : List Thread) : List Nat := ts.map (·.place)

@[simp] theorem places_nil : places [] = [] := rfl

@[simp] theorem places_cons (t : Thread) (ts : List Thread) :
    places (t :: ts) = t.place :: places ts := rfl

@[simp] theorem places_append (ts us : List Thread) : places (ts ++ us) = places ts ++ places us :=
  List.map_append

variable {t : Thread} {ts : List Thread} {j : Nat}

theorem mem_places : j ∈ places ts ↔ ∃ t ∈ ts, t.place = j := List.mem_map

theorem mem_places_flatMap {f : Thread → List Thread} :
    j ∈ places (ts.flatMap f) ↔ ∃ t ∈ ts, j ∈ places (f t) := by
  simp only [mem_places, List.mem_flatMap]
  grind

@[simp] theorem mem_places_firsts : j ∈ places (firsts ts) ↔ j ∈ places ts := by
  have hkept (kept : List Thread) :
      j ∈ places (ts.foldl (fun (kept : List Thread) t =>
        if kept.any fun k => k.place == t.place then kept else t :: kept) kept) ↔
      j ∈ places kept ∨ j ∈ places ts := by
    induction ts generalizing kept with
    | nil => simp
    | cons t ts ih =>
        rw [List.foldl_cons, ih]
        split
        · rename_i hany
          have ht : t.place ∈ places kept := by
            obtain ⟨k, hk, heq⟩ := List.any_eq_true.mp hany
            exact mem_places.mpr ⟨k, hk, by simpa using heq⟩
          grind [places_cons]
        · grind [places_cons]
  have h := hkept []
  simpa [firsts, places] using h

/-! ## Repetitions -/

section Repetitions

variable {size : Nat} {round : Thread → List Thread} {R : Nat → Nat → Prop}

/-- A round finds what a relation says, and does not leave the text. -/
structure Explores (size : Nat) (round : Thread → List Thread) (R : Nat → Nat → Prop) : Prop where
  mem_places : ∀ t, t.place ≤ size → ∀ j, j ∈ places (round t) ↔ R t.place j
  le_size : ∀ i j, i ≤ size → R i j → j ≤ size

theorem Explores.le_of_mem (h : Explores size round R) (ht : t.place ≤ size) {u : Thread}
    (hu : u ∈ round t) : u.place ≤ size :=
  h.le_size _ _ ht ((h.mem_places t ht _).mp (Pattern.mem_places.mpr ⟨u, hu, rfl⟩))

theorem Explores.walk_le (h : Explores size round R) {n i : Nat} (hi : i ≤ size)
    (hwalk : Walk R n i j) : j ≤ size :=
  hwalk.mem_of_closed (P := (· ≤ size)) (fun i hi j => h.le_size i j hi) hi

theorem mem_places_exactly (h : Explores size round R) (count : Nat)
    (hts : ∀ t ∈ ts, t.place ≤ size) :
    j ∈ places (exactly round count ts) ↔ ∃ i ∈ places ts, Walk R count i j := by
  induction count generalizing ts with
  | zero => simp [exactly, Walk]
  | succ count ih =>
      have hnext : ∀ u ∈ firsts (ts.flatMap round), u.place ≤ size := by
        intro u hu
        have hplace : u.place ∈ places (ts.flatMap round) :=
          mem_places_firsts.mp (mem_places.mpr ⟨u, hu, rfl⟩)
        obtain ⟨t, ht, hplace⟩ := mem_places_flatMap.mp hplace
        exact h.le_size _ _ (hts t ht) ((h.mem_places t (hts t ht) _).mp hplace)
      rw [exactly]
      split
      · rename_i hempty
        simp [List.isEmpty_iff.mp hempty]
      · rw [ih hnext]
        constructor
        · rintro ⟨k, hk, hkj⟩
          obtain ⟨t, ht, hk⟩ := mem_places_flatMap.mp (mem_places_firsts.mp hk)
          exact ⟨t.place, mem_places.mpr ⟨t, ht, rfl⟩, k, (h.mem_places t (hts t ht) k).mp hk, hkj⟩
        · rintro ⟨i, hi, k, hik, hkj⟩
          obtain ⟨t, ht, rfl⟩ := mem_places.mp hi
          refine ⟨k, mem_places_firsts.mpr (mem_places_flatMap.mpr ⟨t, ht, ?_⟩), hkj⟩
          exact (h.mem_places t (hts t ht) k).mpr hik

/-- What is found from the places where so many rounds lead. -/
theorem mem_places_exactly_flatMap (h : Explores size round R) (count : Nat) (ht : t.place ≤ size)
    {f : Thread → List Thread} {P : Nat → Prop}
    (hf : ∀ u, u.place ≤ size → (j ∈ places (f u) ↔ P u.place)) :
    j ∈ places ((exactly round count [t]).flatMap f) ↔ ∃ k, Walk R count t.place k ∧ P k := by
  have hts : ∀ u ∈ [t], u.place ≤ size := by simpa using ht
  have hcount (k : Nat) : k ∈ places (exactly round count [t]) ↔ Walk R count t.place k := by
    simp [mem_places_exactly h count hts]
  rw [mem_places_flatMap]
  constructor
  · rintro ⟨u, hu, hj⟩
    have hwalk := (hcount u.place).mp (mem_places.mpr ⟨u, hu, rfl⟩)
    exact ⟨u.place, hwalk, (hf u (h.walk_le ht hwalk)).mp hj⟩
  · rintro ⟨k, hwalk, hP⟩
    obtain ⟨u, hu, rfl⟩ := mem_places.mp ((hcount k).mpr hwalk)
    exact ⟨u, hu, (hf u (h.walk_le ht hwalk)).mpr hP⟩

/-! ### With a bound -/

/-- A place was found, or rounds that lead to it had begun before with fewer left. -/
def Covered (R : Nat → Nat → Prop) (bound : Nat) (seen : List (Nat × Nat)) (found : List Thread)
    (j : Nat) : Prop :=
  j ∈ places found ∨ ∃ e ∈ seen, e.1 < bound ∧ ShortWalk R (e.1 + 1) e.2 j

/-- What is known when `bound` more rounds were tried from each of some threads: `seen₀` was seen
before, `seen` afterwards. -/
structure Swept (R : Nat → Nat → Prop) (bound : Nat) (seen₀ : List (Nat × Nat))
    (tried found : List Thread) (seen : List (Nat × Nat)) : Prop where
  sound : ∀ j ∈ places found, ∃ u ∈ tried, ShortWalk R bound u.place j
  complete : ∀ u ∈ tried, ∀ j, ShortWalk R bound u.place j → Covered R bound seen₀ found j
  seen : ∀ e ∈ seen, e ∈ seen₀ ∨
    e.1 < bound ∧ ∀ j, ShortWalk R (e.1 + 1) e.2 j → Covered R bound seen₀ found j

theorem Covered.mono {bound : Nat} {seen : List (Nat × Nat)} {found more : List Thread}
    (h : Covered R bound seen found j) (hmore : places found ⊆ places more) :
    Covered R bound seen more j :=
  h.imp_left fun hfound => hmore hfound

theorem swept_nil (R : Nat → Nat → Prop) (bound : Nat) (seen : List (Nat × Nat)) :
    Swept R bound seen [] [] seen where
  sound := by simp
  complete := by simp
  seen e he := .inl he

theorem Swept.append {bound : Nat} {seen₀ seen seen' : List (Nat × Nat)}
    {tried tried' found more : List Thread} (h : Swept R bound seen₀ tried found seen)
    (h' : Swept R bound seen tried' more seen') :
    Swept R bound seen₀ (tried ++ tried') (found ++ more) seen' := by
  have hfound {j : Nat} (hj : Covered R bound seen₀ found j) :
      Covered R bound seen₀ (found ++ more) j :=
    hj.mono (by simp)
  have hmore {j : Nat} (hj : Covered R bound seen more j) :
      Covered R bound seen₀ (found ++ more) j := by
    rcases hj with hj | ⟨e, he, hlt, hwalk⟩
    · exact .inl (by simp [hj])
    · rcases h.seen e he with he | ⟨-, hcovered⟩
      · exact .inr ⟨e, he, hlt, hwalk⟩
      · exact hfound (hcovered j hwalk)
  refine ⟨fun j hj => ?_, fun u hu j hwalk => ?_, fun e he => ?_⟩
  · rw [places_append, List.mem_append] at hj
    rcases hj with hj | hj
    · obtain ⟨u, hu, hwalk⟩ := h.sound j hj
      exact ⟨u, List.mem_append_left _ hu, hwalk⟩
    · obtain ⟨u, hu, hwalk⟩ := h'.sound j hj
      exact ⟨u, List.mem_append_right _ hu, hwalk⟩
  · rcases List.mem_append.mp hu with hu | hu
    · exact hfound (h.complete u hu j hwalk)
    · exact hmore (h'.complete u hu j hwalk)
  · rcases h'.seen e he with he | ⟨hlt, hcovered⟩
    · exact (h.seen e he).imp_right fun new => ⟨new.1, fun j hwalk => hfound (new.2 j hwalk)⟩
    · exact .inr ⟨hlt, fun j hwalk => hmore (hcovered j hwalk)⟩

/-- What follows a round, and the place where it began. -/
theorem Swept.of_round {bound : Nat} {seen seen' : List (Nat × Nat)} {deeper found : List Thread}
    (h : Explores size round R) (ht : t.place ≤ size)
    (hswept : Swept R bound ((bound, t.place) :: seen) (round t) deeper seen')
    (hfound : ∀ j, j ∈ places found ↔ j = t.place ∨ j ∈ places deeper) :
    Swept R (bound + 1) seen [t] found seen' := by
  have hdeeper {j : Nat} (hj : Covered R bound ((bound, t.place) :: seen) deeper j) :
      Covered R (bound + 1) seen found j := by
    rcases hj with hj | ⟨e, he, hlt, hwalk⟩
    · exact .inl ((hfound j).mpr (.inr hj))
    · rcases List.mem_cons.mp he with rfl | he
      · omega
      · exact .inr ⟨e, he, by omega, hwalk⟩
  have hcomplete {j : Nat} (hwalk : ShortWalk R (bound + 1) t.place j) :
      Covered R (bound + 1) seen found j := by
    rcases shortWalk_succ.mp hwalk with heq | ⟨k, hk, hwalk⟩
    · exact .inl ((hfound j).mpr (.inl heq.symm))
    · obtain ⟨u, hu, rfl⟩ := mem_places.mp ((h.mem_places t ht k).mpr hk)
      exact hdeeper (hswept.complete u hu j hwalk)
  refine ⟨fun j hj => ⟨t, List.mem_singleton_self t, shortWalk_succ.mpr ?_⟩, ?_, fun e he => ?_⟩
  · rcases (hfound j).mp hj with rfl | hj
    · exact .inl rfl
    · obtain ⟨u, hu, hwalk⟩ := hswept.sound j hj
      exact .inr ⟨u.place, (h.mem_places t ht _).mp (mem_places.mpr ⟨u, hu, rfl⟩), hwalk⟩
  · intro u hu j hwalk
    cases List.mem_singleton.mp hu
    exact hcomplete hwalk
  · rcases hswept.seen e he with he | ⟨hlt, hcovered⟩
    · rcases List.mem_cons.mp he with rfl | he
      · exact .inr ⟨Nat.lt_succ_self _, fun j => hcomplete⟩
      · exact .inl he
    · exact .inr ⟨by omega, fun j hwalk => hdeeper (hcovered j hwalk)⟩

/-- Threads that are swept one after the other. -/
theorem swept_foldl {bound : Nat}
    {sweep : Thread → List (Nat × Nat) → List Thread × List (Nat × Nat)}
    (hsweep : ∀ u seen, u.place ≤ size → Swept R bound seen [u] (sweep u seen).1 (sweep u seen).2)
    (tried us found : List Thread) (seen₀ seen : List (Nat × Nat))
    (hus : ∀ u ∈ us, u.place ≤ size) (hswept : Swept R bound seen₀ tried found seen) :
    let result := us.foldl (fun state u => (state.1 ++ (sweep u state.2).1, (sweep u state.2).2))
      (found, seen)
    Swept R bound seen₀ (tried ++ us) result.1 result.2 := by
  induction us generalizing tried found seen with
  | nil => simpa using hswept
  | cons u us ih =>
      have hu := hswept.append (hsweep u seen (hus u List.mem_cons_self))
      rw [List.append_cons]
      exact ih _ _ _ (fun v hv => hus v (List.mem_cons_of_mem _ hv)) hu

theorem swept_upTo (h : Explores size round R) (greedy : Bool) (bound : Nat) (t : Thread)
    (seen : List (Nat × Nat)) (ht : t.place ≤ size) :
    Swept R bound seen [t] (upTo round greedy bound t seen).1
      (upTo round greedy bound t seen).2 := by
  induction bound generalizing t seen with
  | zero =>
      refine ⟨fun j hj => ⟨t, by simp, ?_⟩, fun u hu j hwalk => .inl ?_, fun e he => .inl he⟩
      · simpa [upTo, shortWalk_zero, eq_comm] using hj
      · cases List.mem_singleton.mp hu
        simpa [upTo, shortWalk_zero, eq_comm] using hwalk
  | succ bound ih =>
      rw [upTo]
      split
      · rename_i hseen
        have hmem : (bound, t.place) ∈ seen := by simpa using hseen
        refine ⟨by simp, fun u hu j hwalk => .inr ⟨_, hmem, Nat.lt_succ_self _, ?_⟩,
          fun e he => .inl he⟩
        cases List.mem_singleton.mp hu
        exact hwalk
      · refine Swept.of_round h ht (swept_foldl ih [] (round t) [] _ _ (fun u => h.le_of_mem ht)
          (swept_nil R bound _)) fun j => ?_
        cases greedy <;> simp [or_comm]

theorem mem_places_upTo (h : Explores size round R) (greedy : Bool) (bound : Nat)
    (ht : t.place ≤ size) :
    j ∈ places (upTo round greedy bound t []).1 ↔ ShortWalk R bound t.place j := by
  have hswept := swept_upTo h greedy bound t [] ht
  constructor
  · intro hj
    obtain ⟨u, hu, hwalk⟩ := hswept.sound j hj
    cases List.mem_singleton.mp hu
    exact hwalk
  · intro hwalk
    rcases hswept.complete t (List.mem_singleton_self t) j hwalk with hj | ⟨e, he, -⟩
    · exact hj
    · cases he

/-! ### Without bound -/

/-- What is known after rounds: all that ended was found, began a round of its own, and what begins
a round sees all its successors end. -/
structure Explored (R : Nat → Nat → Prop) (seen₀ : Seen) (found : List Thread) (seen : Seen) :
    Prop where
  began : ∀ i ∈ seen₀.began, i ∈ seen.began
  ended : ∀ j, j ∈ seen.ended ↔ j ∈ seen₀.ended ∨ j ∈ places found
  fresh : ∀ j ∈ seen.ended, j ∈ seen₀.ended ∨ j ∈ seen.began
  closed : ∀ i ∈ seen.began, i ∈ seen₀.began ∨ ∀ j, R i j → j ∈ seen.ended

theorem explored_nil (R : Nat → Nat → Prop) (seen : Seen) : Explored R seen [] seen where
  began _ hi := hi
  ended := by simp
  fresh _ hj := .inl hj
  closed _ hi := .inl hi

theorem Explored.append {seen₀ seen seen' : Seen} {found more : List Thread}
    (h : Explored R seen₀ found seen) (h' : Explored R seen more seen') :
    Explored R seen₀ (found ++ more) seen' where
  began i hi := h'.began i (h.began i hi)
  ended j := by
    rw [h'.ended, h.ended, places_append, List.mem_append, or_assoc]
  fresh j hj := by
    rcases h'.fresh j hj with hj | hj
    · exact (h.fresh j hj).imp_right (h'.began j)
    · exact .inr hj
  closed i hi := by
    rcases h'.closed i hi with hi | hclosed
    · exact (h.closed i hi).imp_right fun hclosed j hij => (h'.ended j).mpr (.inl (hclosed j hij))
    · exact .inr hclosed

/-- A place where no round has ended before ends one, and begins the next. -/
theorem Explored.of_ended {seen seen' : Seen} {deeper found : List Thread} {u : Thread}
    (h : Explored R ⟨seen.began, u.place :: seen.ended⟩ deeper seen') (hu : u.place ∈ seen'.began)
    (hfound : ∀ j, j ∈ places found ↔ j = u.place ∨ j ∈ places deeper) :
    Explored R seen found seen' where
  began := h.began
  ended j := by
    rw [h.ended, hfound, List.mem_cons]
    grind
  fresh j hj := by
    rcases h.fresh j hj with hj | hj
    · rcases List.mem_cons.mp hj with rfl | hj
      · exact .inr hu
      · exact .inl hj
    · exact .inr hj
  closed := h.closed

def untried (size : Nat) (seen : Seen) : Finset Nat :=
  Finset.range (size + 1) \ seen.began.toFinset

theorem card_untried_le {seen seen' : Seen} (h : ∀ i ∈ seen.began, i ∈ seen'.began) :
    (untried size seen').card ≤ (untried size seen).card :=
  Finset.card_le_card (Finset.sdiff_subset_sdiff subset_rfl fun i hi => by simp_all)

theorem card_untried_lt {seen : Seen} (ht : j ≤ size) (hnew : j ∉ seen.began) :
    (untried size ⟨j :: seen.began, seen.ended⟩).card < (untried size seen).card := by
  refine Finset.card_lt_card (Finset.ssubset_iff_of_subset ?_ |>.mpr ⟨j, ?_, ?_⟩)
  · exact Finset.sdiff_subset_sdiff subset_rfl fun i hi => by simp_all
  · simp [untried, hnew]
    omega
  · simp [untried]

structure ExploredFrom (R : Nat → Nat → Prop) (t : Thread) (seen : Seen)
    (result : List Thread × Seen) : Prop where
  explored : Explored R seen result.1 result.2
  began : t.place ∈ result.2.began
  sound : ∀ j ∈ places result.1, ∃ n, Walk R (n + 1) t.place j

/-- What becomes of the rounds so far when one more has ended: `deepen` explores what follows it. -/
def proceed (greedy : Bool) (deepen : Thread → Seen → List Thread × Seen)
    (state : List Thread × Seen) (u : Thread) : List Thread × Seen :=
  if state.2.ended.contains u.place then state
  else
    let (deeper, seen) := deepen u ⟨state.2.began, u.place :: state.2.ended⟩
    (state.1 ++ (if greedy then deeper ++ [u] else u :: deeper), seen)

theorem rounds_succ (round : Thread → List Thread) (greedy : Bool) (fuel : Nat) (t : Thread)
    (seen : Seen) : rounds round greedy (fuel + 1) t seen =
      if seen.began.contains t.place then ([], seen)
      else (round t).foldl (proceed greedy (rounds round greedy fuel))
        ([], ⟨t.place :: seen.began, seen.ended⟩) := rfl

def Proceeds (R : Nat → Nat → Prop) (t : Thread) (us : List Thread)
    (state state' : List Thread × Seen) : Prop :=
  ∃ more, state'.1 = state.1 ++ more ∧ Explored R state.2 more state'.2 ∧
    (∀ u ∈ us, u.place ∈ state'.2.ended) ∧ ∀ j ∈ places more, ∃ n, Walk R (n + 1) t.place j

theorem proceeds_proceed {greedy : Bool} {deepen : Thread → Seen → List Thread × Seen}
    {state : List Thread × Seen} {u : Thread} (hround : R t.place u.place)
    (hdeepen : ∀ seen : Seen, seen.began = state.2.began → ExploredFrom R u seen (deepen u seen)) :
    Proceeds R t [u] state (proceed greedy deepen state u) := by
  unfold proceed
  by_cases hended : state.2.ended.contains u.place
  · rw [if_pos hended]
    exact ⟨[], by simp, explored_nil R state.2, by simpa using hended, by simp⟩
  · rw [if_neg hended]
    have hdeeper := hdeepen ⟨state.2.began, u.place :: state.2.ended⟩ rfl
    let more := if greedy then (deepen u ⟨state.2.began, u.place :: state.2.ended⟩).1 ++ [u]
      else u :: (deepen u ⟨state.2.began, u.place :: state.2.ended⟩).1
    have hmore (j : Nat) : j ∈ places more ↔ j = u.place ∨
        j ∈ places (deepen u ⟨state.2.began, u.place :: state.2.ended⟩).1 := by
      cases greedy <;> simp [more, or_comm]
    have hexplored := hdeeper.explored.of_ended hdeeper.began hmore
    refine ⟨more, rfl, hexplored, ?_, fun j hj => ?_⟩
    · intro v hv
      cases List.mem_singleton.mp hv
      exact (hexplored.ended _).mpr (.inr ((hmore _).mpr (.inl rfl)))
    · rcases (hmore j).mp hj with rfl | hj
      · exact ⟨0, walk_one.mpr hround⟩
      · obtain ⟨n, hwalk⟩ := hdeeper.sound j hj
        exact ⟨n + 1, u.place, hround, hwalk⟩

theorem Proceeds.trans {us vs : List Thread} {state state' state'' : List Thread × Seen}
    (h : Proceeds R t us state state') (h' : Proceeds R t vs state' state'') :
    Proceeds R t (us ++ vs) state state'' := by
  obtain ⟨found, hfound, hexplored, hall, hsound⟩ := h
  obtain ⟨more, hmore, hexplored', hall', hsound'⟩ := h'
  refine ⟨found ++ more, by rw [hmore, hfound, List.append_assoc], hexplored.append hexplored',
    fun u hu => ?_, fun j hj => ?_⟩
  · rcases List.mem_append.mp hu with hu | hu
    · exact (hexplored'.ended _).mpr (.inl (hall u hu))
    · exact hall' u hu
  · rw [places_append, List.mem_append] at hj
    exact hj.elim (hsound j) (hsound' j)

/-- The threads at which a round from `t` ended are gone through one after the other. -/
theorem proceeds_foldl (h : Explores size round R) {greedy : Bool} {fuel : Nat}
    {deepen : Thread → Seen → List Thread × Seen}
    (hdeepen : ∀ u seen, u.place ≤ size → (untried size seen).card < fuel →
      ExploredFrom R u seen (deepen u seen))
    (ht : t.place ≤ size) (us : List Thread) (hus : ∀ u ∈ us, R t.place u.place)
    (state : List Thread × Seen) (hfuel : (untried size state.2).card < fuel) :
    Proceeds R t us state (us.foldl (proceed greedy deepen) state) := by
  induction us generalizing state with
  | nil => exact ⟨[], by simp, explored_nil R state.2, by simp, by simp⟩
  | cons u us ih =>
      have hround := hus u List.mem_cons_self
      have hstep : Proceeds R t [u] state (proceed greedy deepen state u) :=
        proceeds_proceed hround fun seen hseen =>
          hdeepen u seen (h.le_size _ _ ht hround) (by rwa [untried, hseen])
      have hbegan : ∀ i ∈ state.2.began, i ∈ (proceed greedy deepen state u).2.began := by
        obtain ⟨more, -, hexplored, -⟩ := hstep
        exact hexplored.began
      exact hstep.trans (ih (fun v hv => hus v (List.mem_cons_of_mem _ hv)) _
        (lt_of_le_of_lt (card_untried_le hbegan) hfuel))

/-- The rounds that begin at a thread, where no round has begun before. -/
theorem Proceeds.exploredFrom (h : Explores size round R) (ht : t.place ≤ size) {seen : Seen}
    {result : List Thread × Seen}
    (hproceeds : Proceeds R t (round t) ([], ⟨t.place :: seen.began, seen.ended⟩) result) :
    ExploredFrom R t seen result := by
  obtain ⟨more, hmore, hexplored, hall, hsound⟩ := hproceeds
  rw [List.nil_append] at hmore
  subst hmore
  refine ⟨⟨fun i hi => hexplored.began i (List.mem_cons_of_mem _ hi), hexplored.ended,
    hexplored.fresh, fun i hi => ?_⟩, hexplored.began _ List.mem_cons_self, hsound⟩
  rcases hexplored.closed i hi with hi | hclosed
  · rcases List.mem_cons.mp hi with rfl | hi
    · refine .inr fun j hij => ?_
      obtain ⟨u, hu, rfl⟩ := mem_places.mp ((h.mem_places t ht j).mpr hij)
      exact hall u hu
    · exact .inl hi
  · exact .inr hclosed

/-- The fuel is enough, since every round begins at a place of its own. -/
theorem exploredFrom_rounds (h : Explores size round R) (greedy : Bool) (fuel : Nat) (t : Thread)
    (seen : Seen)
    (ht : t.place ≤ size) (hfuel : (untried size seen).card < fuel) :
    ExploredFrom R t seen (rounds round greedy fuel t seen) := by
  induction fuel generalizing t seen with
  | zero => omega
  | succ fuel ih =>
      rw [rounds_succ]
      by_cases hbegan : seen.began.contains t.place
      · rw [if_pos hbegan]
        exact ⟨explored_nil R seen, by simpa using hbegan, by simp⟩
      · rw [if_neg hbegan]
        have hless := card_untried_lt ht (by simpa using hbegan : t.place ∉ seen.began)
        refine Proceeds.exploredFrom h ht (proceeds_foldl h ih ht (round t) ?_ _
          (lt_of_lt_of_le hless (Nat.le_of_lt_succ hfuel)))
        exact fun u hu => (h.mem_places t ht _).mp (mem_places.mpr ⟨u, hu, rfl⟩)

theorem mem_places_rounds (h : Explores size round R) (greedy : Bool) (ht : t.place ≤ size) :
    j ∈ places (rounds round greedy (size + 2) t ⟨[], []⟩).1 ↔ ∃ n, Walk R (n + 1) t.place j := by
  have hcard : (untried size ⟨[], []⟩).card < size + 2 := by simp [untried]
  have hfrom := exploredFrom_rounds h greedy (size + 2) t ⟨[], []⟩ ht hcard
  generalize rounds round greedy (size + 2) t ⟨[], []⟩ = result at hfrom ⊢
  obtain ⟨found, seen⟩ := result
  refine ⟨hfrom.sound j, fun ⟨n, k, htk, hwalk⟩ => ?_⟩
  have hclosed {i : Nat} (hi : i ∈ seen.began) (j : Nat) (hij : R i j) : j ∈ seen.ended :=
    (hfrom.explored.closed i hi).resolve_left (by simp) j hij
  have hended : j ∈ seen.ended := hwalk.mem_of_closed
    (fun i hi => hclosed ((hfrom.explored.fresh i hi).resolve_left (by simp)))
    (hclosed hfrom.began k htk)
  exact ((hfrom.explored.ended j).mp hended).resolve_left (by simp)

end Repetitions

/-! ## The matcher -/

theorem Leads.le_size {text : Array Char} {p : Pattern} {i : Nat} (h : Leads text p i j)
    (hi : i ≤ text.size) : j ≤ text.size := by
  induction p generalizing i j with
  | empty => exact h ▸ hi
  | set s =>
      obtain ⟨c, hc, -, rfl⟩ := h
      obtain ⟨hlt, -⟩ := Array.getElem?_eq_some_iff.mp hc
      omega
  | anchor a => exact h.2 ▸ hi
  | seq p q ihp ihq =>
      obtain ⟨k, hik, hkj⟩ := h
      exact ihq hkj (ihp hik hi)
  | alt p q ihp ihq =>
      rcases h with h | h
      · exact ihp h hi
      · exact ihq h hi
  | group index p ih => exact ih h hi
  | repeated p least more greedy ih =>
      obtain ⟨n, -, -, hwalk⟩ := h
      exact hwalk.mem_of_closed (P := (· ≤ text.size)) (fun i hi j hij => ih hij hi) hi

/-- **The matcher finds the places to which a pattern leads**, and no others. -/
theorem mem_places_run (text : Array Char) (p : Pattern) (t : Thread) (ht : t.place ≤ text.size)
    (j : Nat) : j ∈ places (run text p t) ↔ Leads text p t.place j := by
  induction p generalizing t j with
  | empty => simp [run, Leads, eq_comm]
  | set s =>
      simp only [run, Leads]
      cases text[t.place]? with
      | none => simp
      | some c => cases hc : s.has c <;> simp [hc]
  | anchor a => cases ha : holds text t.place a <;> simp [run, Leads, ha, eq_comm]
  | seq p q ihp ihq =>
      simp only [run, Leads, mem_places_firsts, mem_places_flatMap]
      constructor
      · rintro ⟨u, hu, hj⟩
        have hlead := (ihp t ht _).mp (mem_places.mpr ⟨u, hu, rfl⟩)
        exact ⟨u.place, hlead, (ihq u (hlead.le_size ht) j).mp hj⟩
      · rintro ⟨k, hk, hj⟩
        obtain ⟨u, hu, rfl⟩ := mem_places.mp ((ihp t ht k).mpr hk)
        exact ⟨u, hu, (ihq u (hk.le_size ht) j).mpr hj⟩
  | alt p q ihp ihq => simp [run, Leads, ihp t ht, ihq t ht]
  | group index p ih =>
      rw [Leads, ← ih t ht]
      simp [run, places]
  | repeated p least more greedy ih =>
      have h : Explores text.size (run text p) (Leads text p) :=
        ⟨ih, fun i j hi hij => hij.le_size hi⟩
      cases more with
      | some bound =>
          rw [run, mem_places_firsts, mem_places_exactly_flatMap h least ht
            (P := (ShortWalk _ bound · j)) fun u hu => mem_places_upTo h greedy bound hu,
            exists_shortWalk]
          simp [Leads]
      | none =>
          cases least with
          | zero =>
              have hmany := mem_places_rounds h greedy ht (j := j)
              have hfound (many : List Thread) :
                  j ∈ places (if greedy then many ++ [t] else t :: many) ↔
                    t.place = j ∨ j ∈ places many := by
                cases greedy <;> simp [or_comm, eq_comm]
              rw [run, mem_places_firsts, hfound, hmany]
              simp only [Leads, Nat.zero_le, true_and, reduceCtorEq, false_implies, implies_true]
              constructor
              · rintro (rfl | ⟨n, hwalk⟩)
                · exact ⟨0, rfl⟩
                · exact ⟨n + 1, hwalk⟩
              · rintro ⟨_ | n, hwalk⟩
                · exact .inl hwalk
                · exact .inr ⟨n, hwalk⟩
          | succ least =>
              rw [run, mem_places_firsts, mem_places_exactly_flatMap h least ht
                (P := fun k => ∃ n, Walk _ (n + 1) k j) fun u hu => mem_places_rounds h greedy hu,
                exists_longWalk]
              simp [Leads]

theorem isSome_searchFrom (p : Pattern) (text : Array Char) (count start : Nat) :
    (searchFrom p text count start).isSome = true ↔
      ∃ i, start ≤ i ∧ i < start + count ∧ run text p ⟨i, []⟩ ≠ [] := by
  induction count generalizing start with
  | zero =>
      simp only [searchFrom, Option.isSome_none, Bool.false_eq_true, false_iff]
      rintro ⟨i, hle, hlt, -⟩
      omega
  | succ count ih =>
      rw [searchFrom]
      cases hrun : run text p ⟨start, []⟩ with
      | cons found rest =>
          simp only [Option.isSome_some, true_iff]
          exact ⟨start, le_rfl, by omega, by simp [hrun]⟩
      | nil =>
          rw [ih]
          constructor
          · rintro ⟨i, hle, hlt, hfound⟩
            exact ⟨i, by omega, by omega, hfound⟩
          · rintro ⟨i, hle, hlt, hfound⟩
            have hne : i ≠ start := fun heq => hfound (heq ▸ hrun)
            exact ⟨i, by omega, by omega, hfound⟩

/-- A pattern matches in a text if and only if it leads from some place to another. -/
theorem matchesIn_iff (p : Pattern) (s : String) :
    p.matchesIn s = true ↔ ∃ i ≤ s.toList.length, ∃ j, Leads s.toList.toArray p i j := by
  have hsize : s.toList.toArray.size = s.toList.length := List.size_toArray
  have hrun (i : Nat) (hi : i ≤ s.toList.length) :
      run s.toList.toArray p ⟨i, []⟩ ≠ [] ↔ ∃ j, Leads s.toList.toArray p i j := by
    have hlead := mem_places_run s.toList.toArray p ⟨i, []⟩ (by simpa using hi)
    constructor
    · intro hne
      obtain ⟨t, ht⟩ := List.exists_mem_of_ne_nil _ hne
      exact ⟨t.place, (hlead _).mp (mem_places.mpr ⟨t, ht, rfl⟩)⟩
    · rintro ⟨j, hj⟩ hnil
      have hmem := (hlead j).mpr hj
      rw [hnil] at hmem
      cases hmem
  rw [matchesIn, search, Option.isSome_map, isSome_searchFrom, hsize]
  constructor
  · rintro ⟨i, -, hlt, hne⟩
    exact ⟨i, by omega, (hrun i (by omega)).mp hne⟩
  · rintro ⟨i, hle, hlead⟩
    exact ⟨i, Nat.zero_le i, by omega, (hrun i hle).mpr hlead⟩

end Telemetry.Pattern
