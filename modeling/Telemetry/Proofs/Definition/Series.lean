import Telemetry.Proofs.Definition.Newest

/-!
# Series and their keys

The series of a group are told apart by the attributes that do not group, and the key of a series
is the text of these attributes, `name=text` by `name=text` with commas between. The key says which
attributes they are as long as the signs of the spelling stand for nothing else
(`eq_of_spelling_eq`), and then a metric of one series leaves the samples of the others alone
(`series_kept_apart`).

Nothing is escaped in a key. So every metric that has two equals signs in its key, as with any two
attributes, has a namesake with a single attribute (`exists_namesake`), and the samples of the two
replace each other (`replaced_by_namesake`).
-/

namespace Telemetry

def Stores.sample? (stores : Stores) (variableName key : String) : Option Sample :=
  match stores.get? variableName with
  | some (.series samples) => samples.get? key
  | some (.last _) | none => none

namespace Variable

variable {v : Variable} {stores : Stores} {samples : NameMap Sample} {m : Metric} {s : Sample}
  {groupBy : List String} {name key : String}

/-! ## Samples after an update -/

theorem get?_of_get?_dropOldest {count : Nat} (h : (dropOldest count samples).get? key = some s) :
    samples.get? key = some s := by
  induction count generalizing samples with
  | zero => exact h
  | succ count ih =>
      rw [dropOldest] at h
      split at h
      · have herase := ih h
        rw [NameMap.get?_erase] at herase
        split at herase
        · cases herase
        · exact herase
      · exact h

/-- What is remembered of a series is the sample of the metric, if it is of that series, and
otherwise what was remembered before. -/
theorem get?_of_get?_record (h : (v.record samples m groupBy).get? key = some s) :
    if key = seriesKey m groupBy then s = .ofMetric m else samples.get? key = some s := by
  have hfilter := get?_of_get?_dropOldest h
  rw [NameMap.get?_filter, Option.filter_eq_some_iff, NameMap.get?_insert] at hfilter
  split
  · rename_i hkey
    rw [if_pos hkey] at hfilter
    exact (Option.some.inj hfilter.1).symm
  · rename_i hkey
    rw [if_neg hkey] at hfilter
    exact hfilter.1

theorem sample?_insert_self (stores : Stores) (name key : String) (samples : NameMap Sample) :
    Stores.sample? (stores.insert name (.series samples)) name key = samples.get? key := by
  rw [Stores.sample?, NameMap.get?_insert_self]

theorem sample?_insert_last (stores : Stores) (name key : String) (s : Sample) :
    Stores.sample? (stores.insert name (.last s)) name key = none := by
  rw [Stores.sample?, NameMap.get?_insert_self]

theorem sample?_insert_of_ne {name' : String} (state : VariableState) (h : name ≠ name') :
    Stores.sample? (stores.insert name' state) name key = stores.sample? name key := by
  rw [Stores.sample?, NameMap.get?_insert, if_neg h, Stores.sample?]

/-- An update remembers no sample but that of the metric, and that only of its own series. -/
theorem sample?_of_update (h : (v.update stores m groupBy).sample? name key = some s) :
    if name = v.name ∧ key = seriesKey m groupBy then s = .ofMetric m
    else stores.sample? name key = some s := by
  by_cases hname : name = v.name
  · subst hname
    unfold update at h
    split at h
    · rw [sample?_insert_last] at h
      cases h
    · rw [sample?_insert_self] at h
      have hrecord := get?_of_get?_record h
      by_cases hkey : key = seriesKey m groupBy
      · rw [if_pos hkey] at hrecord
        rwa [if_pos ⟨rfl, hkey⟩]
      · rw [if_neg hkey] at hrecord
        rw [if_neg fun both => hkey both.2]
        unfold Stores.sample?
        split at hrecord
        · rename_i hold
          rw [hold]
          exact hrecord
        · cases hrecord
  · rw [if_neg fun both => hname both.1]
    unfold update at h
    split at h <;> rwa [sample?_insert_of_ne _ hname] at h

/-! ## The spelling of attributes -/

/-- The attributes that tell the series of a group apart. -/
def ungrouped (m : Metric) (groupBy : List String) : Attributes :=
  m.attributes.filter fun k _ => !groupBy.contains k

def behind : List (String × String) → List Char
  | [] => []
  | e :: rest => ',' :: (e.1.toList ++ '=' :: (e.2.toList ++ behind rest))

def spelling : List (String × String) → List Char
  | [] => []
  | e :: rest => e.1.toList ++ '=' :: (e.2.toList ++ behind rest)

theorem behind_cons (e : String × String) (rest : List (String × String)) :
    behind (e :: rest) = ',' :: spelling (e :: rest) := rfl

theorem tail_behind (l : List (String × String)) : (behind l).tail = spelling l := by
  cases l <;> rfl

theorem toList_seriesKey (m : Metric) (groupBy : List String) :
    (seriesKey m groupBy).toList = spelling (ungrouped m groupBy).entries := by
  have hjoin : ∀ l : List (String × String),
      (",".intercalate (l.map fun e => e.1 ++ "=" ++ e.2)).toList = spelling l := by
    intro l
    induction l with
    | nil => rfl
    | cons e rest ih =>
        cases rest with
        | nil => simp [spelling, behind]
        | cons e' rest =>
            rw [List.map_cons] at ih ⊢
            rw [List.map_cons, String.intercalate_cons_cons, String.toList_append, ih]
            simp [spelling, behind]
  exact hjoin _

/-- An attribute in whose spelling the signs stand for nothing else: there is none of them in the
name, and in the text no equals sign behind a comma. -/
structure IsPlain (e : String × String) : Prop where
  equals_notMem : '=' ∉ e.1.toList
  comma_notMem : ',' ∉ e.1.toList
  behind_comma : '=' ∉ e.2.toList.dropWhile (· ≠ ',')

instance (e : String × String) : Decidable (IsPlain e) :=
  decidable_of_iff ('=' ∉ e.1.toList ∧ ',' ∉ e.1.toList ∧ '=' ∉ e.2.toList.dropWhile (· ≠ ','))
    ⟨fun h => ⟨h.1, h.2.1, h.2.2⟩, fun h => ⟨h.1, h.2, h.3⟩⟩

/-- The first of some signs can be found in only one way. -/
theorem eq_of_append_cons {sign : Char} {a a' b b' : List Char} (ha : sign ∉ a) (ha' : sign ∉ a')
    (h : a ++ sign :: b = a' ++ sign :: b') : a = a' ∧ b = b' := by
  rcases List.append_eq_append_iff.mp h with ⟨x, rfl, hx⟩ | ⟨x, rfl, hx⟩
  · cases x with
    | nil => simpa using hx
    | cons c x =>
        obtain ⟨rfl, -⟩ := List.cons.inj hx
        exact absurd (List.mem_append_right a List.mem_cons_self) ha'
  · cases x with
    | nil => simpa [eq_comm] using hx
    | cons c x =>
        obtain ⟨rfl, -⟩ := List.cons.inj hx
        exact absurd (List.mem_append_right a' List.mem_cons_self) ha

theorem notMem_of_dropWhile {a b : List Char} (h : '=' ∉ (a ++ ',' :: b).dropWhile (· ≠ ',')) :
    '=' ∉ b := by
  rw [List.dropWhile_append] at h
  split at h
  · rw [List.dropWhile_cons_of_neg (by simp)] at h
    exact fun hb => h (List.mem_cons_of_mem _ hb)
  · exact fun hb => h (List.mem_append_right _ (List.mem_cons_of_mem _ hb))

/-- A plain text does not go on into the attributes behind it. -/
theorem not_goes_on {text more : List Char} {l r : List (String × String)}
    (hl : ∀ e ∈ l, IsPlain e) (hmore : more ≠ [])
    (htext : '=' ∉ (text ++ more).dropWhile (· ≠ ','))
    (h : behind l = more ++ behind r) : False := by
  obtain ⟨c, more, rfl⟩ := List.exists_cons_of_ne_nil hmore
  cases l with
  | nil => cases h
  | cons e l =>
      -- `more` begins with the comma and ends within the name of the attribute behind it
      obtain ⟨rfl, hname⟩ := List.cons.inj h
      have hfree : '=' ∉ more := notMem_of_dropWhile htext
      have hplain := hl e List.mem_cons_self
      rcases List.append_eq_append_iff.mp hname with ⟨x, rfl, hx⟩ | ⟨x, heq, hx⟩
      · cases x with
        | nil =>
            cases r with
            | nil => cases hx
            | cons e' r => exact absurd (List.cons.inj hx).1 (by decide)
        | cons c x =>
            obtain ⟨rfl, -⟩ := List.cons.inj hx
            exact hfree (List.mem_append_right _ List.mem_cons_self)
      · cases r with
        | nil =>
            rw [behind] at hx
            cases x <;> cases hx
        | cons e' r =>
            rw [behind_cons] at hx
            cases x with
            | nil => exact absurd (List.cons.inj hx).1 (by decide)
            | cons c x =>
                obtain ⟨rfl, -⟩ := List.cons.inj hx
                exact hplain.comma_notMem (heq ▸ List.mem_append_right _ List.mem_cons_self)

/-- **Plain attributes can be read off their spelling.** -/
theorem eq_of_spelling_eq {l r : List (String × String)} (hl : ∀ e ∈ l, IsPlain e)
    (hr : ∀ e ∈ r, IsPlain e) (h : spelling l = spelling r) : l = r := by
  induction l generalizing r with
  | nil =>
      cases r with
      | nil => rfl
      | cons e r => simp [spelling] at h
  | cons e l ih =>
      cases r with
      | nil => simp [spelling] at h
      | cons e' r =>
          obtain ⟨he, hl⟩ := List.forall_mem_cons.mp hl
          obtain ⟨he', hr⟩ := List.forall_mem_cons.mp hr
          obtain ⟨hname, hrest⟩ := eq_of_append_cons he.equals_notMem he'.equals_notMem h
          obtain ⟨htext, hbehind⟩ : e.2.toList = e'.2.toList ∧
              behind l = behind r := by
            rcases List.append_eq_append_iff.mp hrest with ⟨x, hx, hl'⟩ | ⟨x, hx, hr'⟩
            · by_cases hnone : x = []
              · subst hnone
                exact ⟨by simpa using hx.symm, by simpa using hl'⟩
              · exact (not_goes_on hl hnone (hx ▸ he'.behind_comma) hl').elim
            · by_cases hnone : x = []
              · subst hnone
                exact ⟨by simpa using hx, by simpa using hr'.symm⟩
              · exact (not_goes_on hr hnone (hx ▸ he.behind_comma) hr').elim
          have hmore : spelling l = spelling r := by rw [← tail_behind, ← tail_behind, hbehind]
          rw [ih hl hr hmore, Prod.ext (String.toList_injective hname)
            (String.toList_injective htext)]

/-! ## Series apart -/

/-- Metrics with the same attributes, except those that group, have one key. -/
theorem seriesKey_congr {m m' : Metric} (h : ungrouped m groupBy = ungrouped m' groupBy) :
    seriesKey m groupBy = seriesKey m' groupBy :=
  String.toList_injective (by rw [toList_seriesKey, toList_seriesKey, h])

theorem seriesKey_eq_iff {m m' : Metric} (hm : ∀ e ∈ (ungrouped m groupBy).entries, IsPlain e)
    (hm' : ∀ e ∈ (ungrouped m' groupBy).entries, IsPlain e) :
    seriesKey m groupBy = seriesKey m' groupBy ↔ ungrouped m groupBy = ungrouped m' groupBy := by
  constructor
  · intro hkey
    have hspelling := congrArg String.toList hkey
    rw [toList_seriesKey, toList_seriesKey] at hspelling
    have hentries := eq_of_spelling_eq hm hm' hspelling
    exact NameMap.ext_mem fun e => by rw [hentries]
  · exact seriesKey_congr

/-- **Series are kept apart.** Take two metrics whose attributes, except those that group, are
plain. Their series have the same key if and only if these attributes are the same; and if they are
not, an update by the second metric, of whatever variable and in whatever stores, leaves of the
series of the first only the sample that was there before, if any. -/
theorem series_kept_apart (groupBy : List String) (m m' : Metric)
    (hm : ∀ e ∈ (ungrouped m groupBy).entries, IsPlain e)
    (hm' : ∀ e ∈ (ungrouped m' groupBy).entries, IsPlain e) :
    (seriesKey m groupBy = seriesKey m' groupBy ↔ ungrouped m groupBy = ungrouped m' groupBy) ∧
      (ungrouped m groupBy ≠ ungrouped m' groupBy →
        ∀ (v : Variable) (stores : Stores) (name : String) (s : Sample),
          (v.update stores m' groupBy).sample? name (seriesKey m groupBy) = some s →
            stores.sample? name (seriesKey m groupBy) = some s) := by
  have hkeys := seriesKey_eq_iff hm hm'
  refine ⟨hkeys, fun hne v stores name s hs => ?_⟩
  have hother : ¬(name = v.name ∧ seriesKey m groupBy = seriesKey m' groupBy) :=
    fun both => hne (hkeys.mp both.2)
  have hupdate := sample?_of_update hs
  rwa [if_neg hother] at hupdate

def sumOfHosts : Variable := (ofName "load").withAggregation .sum

def loadAt (seconds : Int) (attributes : List (String × String)) : Metric :=
  ⟨⟨seconds, 0⟩, .numeric 1, .ofList (("cluster", "c") :: attributes)⟩

def zoneMetric : Metric := loadAt 0 [("host", "a=1"), ("zone", "x,y")]

def otherZoneMetric : Metric := loadAt 1 [("host", "a=1,zone"), ("zone", "x")]

/-- Texts may hold equals signs and commas, and even what is the name of another attribute. -/
theorem zones_kept_apart :
    (∀ e ∈ (ungrouped zoneMetric ["cluster"]).entries, IsPlain e) ∧
      (∀ e ∈ (ungrouped otherZoneMetric ["cluster"]).entries, IsPlain e) ∧
      ungrouped zoneMetric ["cluster"] ≠ ungrouped otherZoneMetric ["cluster"] ∧
      seriesKey zoneMetric ["cluster"] ≠ seriesKey otherZoneMetric ["cluster"] ∧
      ∀ s, (sumOfHosts.update (sumOfHosts.update .empty zoneMetric ["cluster"]) otherZoneMetric
          ["cluster"]).sample? "load" (seriesKey zoneMetric ["cluster"]) = some s →
        s = .ofMetric zoneMetric := by
  have hm : ∀ e ∈ (ungrouped zoneMetric ["cluster"]).entries, IsPlain e := by decide
  have hm' : ∀ e ∈ (ungrouped otherZoneMetric ["cluster"]).entries, IsPlain e := by decide
  have hne : ungrouped zoneMetric ["cluster"] ≠ ungrouped otherZoneMetric ["cluster"] := by decide
  obtain ⟨hkeys, hkept⟩ := series_kept_apart ["cluster"] zoneMetric otherZoneMetric hm hm'
  refine ⟨hm, hm', hne, fun heq => hne (hkeys.mp heq), fun s hs => ?_⟩
  have hfirst := sample?_of_update (hkept hne sumOfHosts _ "load" s hs)
  rwa [if_pos ⟨rfl, rfl⟩] at hfirst

/-! ## Namesakes -/

/-- Of every metric with two attributes that do not group there is a namesake: another metric of its
group, with other attributes, whose series has the same key. -/
theorem exists_namesake (h : 2 ≤ (ungrouped m groupBy).size) :
    ∃ m' : Metric, (∀ name ∈ groupBy, m'.attribute? name = m.attribute? name) ∧
      seriesKey m' groupBy = seriesKey m groupBy ∧
      ungrouped m' groupBy ≠ ungrouped m groupBy := by
  obtain ⟨e, e', rest, hentries⟩ :
      ∃ e e' rest, (ungrouped m groupBy).entries = e :: e' :: rest := by
    rw [NameMap.size] at h
    rcases hentries : (ungrouped m groupBy).entries with _ | ⟨e, _ | ⟨e', rest⟩⟩
    · simp [hentries] at h
    · simp [hentries] at h
    · exact ⟨e, e', rest, rfl⟩
  have hfree : groupBy.contains e.1 = false := by
    have he : e ∈ (ungrouped m groupBy).entries := by rw [hentries]; exact List.mem_cons_self
    simpa using (NameMap.mem_filter.mp he).2
  -- the text of the first attribute swallows the others
  let text := String.ofList (e.2.toList ++ behind (e' :: rest))
  let grouped := m.attributes.filter fun k _ => groupBy.contains k
  have hungrouped : ungrouped ⟨m.timestamp, m.value, grouped.insert e.1 text⟩ groupBy =
      NameMap.empty.insert e.1 text := by
    rw [ungrouped, NameMap.filter_insert_of_pos (by simpa using hfree), NameMap.filter_filter]
    simp only [Bool.and_not_self]
    congr 1
    exact NameMap.ext_mem fun e => by simp [NameMap.mem_filter, NameMap.empty]
  refine ⟨⟨m.timestamp, m.value, grouped.insert e.1 text⟩, ?_, ?_, ?_⟩
  · intro name hname
    have hne : name ≠ e.1 := by
      rintro rfl
      simp [hname] at hfree
    rw [Metric.attribute?, NameMap.get?_insert, if_neg hne, NameMap.get?_filter]
    cases hget : m.attributes.get? name <;> simp [Metric.attribute?, hget, hname, Option.filter]
  · refine String.toList_injective ?_
    rw [toList_seriesKey, toList_seriesKey, hungrouped, hentries]
    simp [NameMap.insert, NameMap.empty, NameMap.insertEntry, spelling, behind, text]
  · intro heq
    have hsize := congrArg (fun attributes : Attributes => attributes.entries.length)
      (hungrouped.symm.trans heq)
    simp [hentries, NameMap.insert, NameMap.empty, NameMap.insertEntry] at hsize

/-- The sample of one metric is lost to a namesake of its group. -/
theorem replaced_by_namesake :
    let m := loadAt 0 [("a", "1"), ("b", "2")]
    let m' := loadAt 1 [("a", "1,b=2")]
    let stores := sumOfHosts.update .empty m ["cluster"]
    ungrouped m ["cluster"] ≠ ungrouped m' ["cluster"] ∧
      seriesKey m ["cluster"] = seriesKey m' ["cluster"] ∧
      stores.sample? "load" (seriesKey m ["cluster"]) = some (.ofMetric m) ∧
      (sumOfHosts.update stores m' ["cluster"]).sample? "load" (seriesKey m ["cluster"]) =
        some (.ofMetric m') := by
  decide +kernel

end Variable

end Telemetry
