import Telemetry.Proofs.Time.Fields
import Telemetry.Time.Stamp

/-!
# What patterns read

The items of a pattern keep the bounds of the fields (`TimePattern.Item.keeps_of_items?`), so the
instants that are read by a pattern, or as a stamp, are within the calendar.
-/

namespace Telemetry

namespace TimePattern

variable {f f' : Fields} {cs rest : List Char}

/-! ## Patterns -/

def Item.Keeps : Item → Prop
  | .number n => Fields.Keeps n.set?
  | _ => True

namespace Item

theorem keeps_of_number? {c : Char} {item : NumberItem} (h : number? c = some item) :
    Fields.Keeps item.set? := by
  unfold number? at h
  split at h <;> cases h
  all_goals first
    | exact Fields.Setters.keeps_hour
    | exact Fields.Setters.keeps_hour12
    | exact Fields.Setters.keeps_minute
    | exact Fields.Setters.keeps_second
    | exact Fields.Setters.keeps_nanos
    | exact Fields.Setters.keeps_daysFromSunday
    | exact Fields.Setters.keeps_numberFromMonday
    | exact Fields.Setters.keeps_others _ (by simp)

theorem keeps_intersperse {items : List Item} {between : Item} (h : ∀ item ∈ items, item.Keeps)
    (hbetween : between.Keeps) : ∀ item ∈ items.intersperse between, item.Keeps := by
  fun_induction List.intersperse between items with
  | case1 => exact h
  | case2 => exact h
  | case3 first second rest ih =>
      obtain ⟨hfirst, hrest⟩ := List.forall_mem_cons.mp h
      exact List.forall_mem_cons.mpr ⟨hfirst, List.forall_mem_cons.mpr ⟨hbetween, ih hrest⟩⟩

theorem keeps_numbers {letters : List Char} {between : Item} (h : between.Keeps) :
    ∀ item ∈ numbers letters between, item.Keeps := by
  refine keeps_intersperse (fun item hitem => ?_) h
  obtain ⟨n, hn, rfl⟩ := List.mem_map.mp hitem
  obtain ⟨c, -, hc⟩ := List.mem_filterMap.mp hn
  exact keeps_of_number? hc

theorem keeps_of_group? {c : Char} {items : List Item} (h : group? c = some items) :
    ∀ item ∈ items, item.Keeps := by
  have hmark : ∀ {letters : List Char} {c : Char}, ∀ item ∈ numbers letters (mark c), item.Keeps :=
    keeps_numbers trivial
  have hblank : ∀ {letters : List Char}, ∀ item ∈ numbers letters .blank, item.Keeps :=
    keeps_numbers trivial
  unfold group? at h
  split at h <;> cases h
  all_goals
    try simp only [List.mem_append, List.mem_cons, List.not_mem_nil, or_false, or_imp, forall_and,
      forall_eq]
    repeat' apply And.intro
    all_goals first
      | exact hmark
      | exact hblank
      | exact trivial

theorem keeps_of_specifier? {items : List Item} (h : specifier? cs = some (items, rest)) :
    ∀ item ∈ items, item.Keeps := by
  have hnumber : ∀ {c : Char} {more : List Char},
      (number? c).map (fun n => ([Item.number n], more)) = some (items, rest) →
      ∀ item ∈ items, item.Keeps := by
    intro c more h
    obtain ⟨n, hn, heq⟩ := Option.map_eq_some_iff.mp h
    cases heq
    exact List.forall_mem_singleton.mpr (keeps_of_number? hn)
  unfold specifier? at h
  split at h
  all_goals first
    | exact hnumber h
    | cases h
      done
    | cases h
      exact List.forall_mem_singleton.mpr trivial
    | skip
  -- a letter with no mark in front of it
  split at h
  · rename_i n hn
    cases h
    exact List.forall_mem_singleton.mpr (keeps_of_number? hn)
  · obtain ⟨items', hitems, heq⟩ := Option.map_eq_some_iff.mp h
    cases heq
    exact keeps_of_group? hitems

theorem keeps_of_items? {items : List Item} (h : items? cs = some items) :
    ∀ item ∈ items, item.Keeps := by
  fun_induction items? cs generalizing items with
  | case1 =>
      cases h
      simp
  | case2 => cases h
  | case3 rest items' rest' hspecifier hlt ih =>
      obtain ⟨more, hmore, rfl⟩ := Option.map_eq_some_iff.mp h
      exact List.forall_mem_append.mpr ⟨keeps_of_specifier? hspecifier, ih hmore⟩
  | case4 c rest _ ih =>
      obtain ⟨more, hmore, rfl⟩ := Option.map_eq_some_iff.mp h
      refine List.forall_mem_cons.mpr ⟨?_, ih hmore⟩
      split <;> exact trivial

end Item

/-! ## Reading -/

theorem bounded_of_read {item : NumberItem} (hitem : Fields.Keeps item.set?) (hf : f.Bounded)
    (h : item.read f cs = some (f', rest)) : f'.Bounded := by
  unfold NumberItem.read at h
  split at h
  all_goals
    simp only [Option.bind_eq_bind, Option.bind_eq_some_iff] at h
    obtain ⟨_, -, _, hset, heq⟩ := h
    cases heq
    exact hitem hf hset

theorem bounded_of_takeSpaced {parts : List (Char × Char)} (hf : f.Bounded)
    (h : takeSpaced f cs parts = some (f', rest)) : f'.Bounded := by
  induction parts generalizing f cs with
  | nil =>
      cases h
      exact hf
  | cons part more ih =>
      simp only [takeSpaced, Option.bind_eq_bind, Option.bind_eq_some_iff] at h
      obtain ⟨_, -, item, hitem, ⟨_, _⟩, hread, h⟩ := h
      exact ih (bounded_of_read (Item.keeps_of_number? hitem) hf hread) h

theorem bounded_of_takeOptionalFraction {read : List Char → Option (Int × List Char)}
    (hf : f.Bounded) (h : takeOptionalFraction read f cs = some (f', rest)) : f'.Bounded := by
  unfold takeOptionalFraction at h
  split at h
  · simp only [Option.bind_eq_bind, Option.bind_eq_some_iff] at h
    obtain ⟨_, -, _, hset, heq⟩ := h
    cases heq
    exact Fields.Setters.keeps_nanos hf hset
  · cases h
    exact hf

theorem bounded_of_takeStandard (hf : f.Bounded) (h : takeStandard f cs = some (f', rest)) :
    f'.Bounded := by
  simp only [takeStandard, Option.bind_eq_bind, Option.bind_eq_some_iff] at h
  obtain ⟨itemY, hY, ⟨f₁, rest₁⟩, hyear, ⟨f₂, rest₂⟩, hdate, h⟩ := h
  have h₁ := bounded_of_read (Item.keeps_of_number? hY) hf hyear
  have h₂ := bounded_of_takeSpaced h₁ hdate
  split at h
  · cases h
  · obtain ⟨-, h⟩ := Option.ite_none_left_eq_some.mp h
    simp only [Option.bind_eq_some_iff] at h
    obtain ⟨itemH, hH, ⟨f₃, rest₃⟩, hhour, ⟨f₄, rest₄⟩, hclock, ⟨f₅, rest₅⟩, hfraction, h⟩ := h
    have h₃ := bounded_of_read (Item.keeps_of_number? hH) h₂ hhour
    have h₄ := bounded_of_takeSpaced h₃ hclock
    have h₅ := bounded_of_takeOptionalFraction h₄ hfraction
    split at h
    all_goals
      simp only [Option.bind_eq_some_iff] at h
    · obtain ⟨_, hoffset, heq⟩ := h
      cases heq
      exact Fields.Setters.keeps_offset h₅ hoffset
    · obtain ⟨_, -, _, hoffset, heq⟩ := h
      cases heq
      exact Fields.Setters.keeps_offset h₅ hoffset

theorem bounded_of_item {item : Item} (hitem : item.Keeps) (hf : f.Bounded)
    (h : item.read f cs = some (f', rest)) : f'.Bounded := by
  unfold Item.read at h
  split at h
  all_goals try simp only [Option.bind_eq_bind, Option.bind_eq_some_iff,
    Option.map_eq_some_iff] at h
  · obtain ⟨_, -, heq⟩ := h
    cases heq
    exact hf
  · cases h
    exact hf
  · exact bounded_of_read hitem hf h
  · obtain ⟨_, -, _, hset, heq⟩ := h
    cases heq
    exact Fields.Setters.keeps_month hf hset
  · obtain ⟨_, -, _, hset, heq⟩ := h
    cases heq
    exact Fields.Setters.keeps_weekday hf hset
  · split at h
    · obtain ⟨_, hset, heq⟩ := Option.map_eq_some_iff.mp h
      cases heq
      exact Fields.Setters.keeps_half hf hset
    · obtain ⟨_, hset, heq⟩ := Option.map_eq_some_iff.mp h
      cases heq
      exact Fields.Setters.keeps_half hf hset
    · cases h
  · exact bounded_of_takeOptionalFraction hf h
  · exact bounded_of_takeOptionalFraction hf h
  · obtain ⟨_, -, _, hset, heq⟩ := h
    cases heq
    exact Fields.Setters.keeps_nanos hf hset
  · cases h
    exact hf
  · obtain ⟨_, -, _, hset, heq⟩ := h
    cases heq
    exact Fields.Setters.keeps_offset hf hset
  · exact bounded_of_takeStandard hf h

/-- Items are read one after the other. -/
theorem bounded_of_foldlM {items : List Item} {r : Fields × List Char}
    (hitems : ∀ item ∈ items, item.Keeps) (hf : f.Bounded)
    (h : items.foldlM (fun (f, cs) item => item.read f cs) (f, cs) = some r) : r.1.Bounded := by
  induction items generalizing f cs with
  | nil =>
      cases h
      exact hf
  | cons item rest ih =>
      obtain ⟨hitem, hrest⟩ := List.forall_mem_cons.mp hitems
      obtain ⟨⟨f₁, cs₁⟩, hread, h⟩ := Option.bind_eq_some_iff.mp h
      exact ih hrest (bounded_of_item hitem hf hread) h

theorem bounded_of_readAll {items : List Item} (hitems : ∀ item ∈ items, item.Keeps)
    (h : readAll items cs = some f) : f.Bounded := by
  simp only [readAll, Option.bind_eq_bind, Option.bind_eq_some_iff] at h
  obtain ⟨r, hr, h⟩ := h
  cases (Option.ite_none_right_eq_some.mp h).2
  exact bounded_of_foldlM hitems Fields.bounded_empty hr

/-! ## Instants -/

/-- What a pattern reads is within the calendar. -/
theorem inCalendar_of_read? {text : List Char} {items : List Item} {s : String}
    {i : Instant} (hitems : items? text = some items) (h : read? items s = some i) :
    i.InCalendar := by
  obtain ⟨f, hf, h⟩ := Option.bind_eq_some_iff.mp h
  rcases Option.or_eq_some_iff.mp h with h | ⟨-, h⟩
  · exact Fields.inCalendar_of_instant? h
  · exact (bounded_of_readAll (Item.keeps_of_items? hitems) hf).localTime? h

end TimePattern

theorem Instant.inCalendar_of_ofStamp? {s : String} {i : Instant} (h : ofStamp? s = some i) :
    i.InCalendar := by
  simp only [ofStamp?, Option.bind_eq_bind, Option.bind_eq_some_iff] at h
  obtain ⟨_, -, _, -, _, -, h⟩ := h
  split at h
  · cases h
  · obtain ⟨-, h⟩ := Option.ite_none_left_eq_some.mp h
    simp only [Option.bind_eq_some_iff, Option.ite_none_right_eq_some] at h
    obtain ⟨_, _, _, _, _, _, _, _, _, _, _, _, _, h⟩ := h
    exact Fields.inCalendar_of_instant? h

end Telemetry
