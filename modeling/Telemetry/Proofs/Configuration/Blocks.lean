import Mathlib.Data.List.TakeWhile
import Telemetry.Configuration.Properties
import Telemetry.Proofs.NameMap

/-!
# Names and blocks

Which properties a component takes and which it leaves. Whatever is in a set of properties is taken
or left when a name or a block is taken (`eq_or_mem_erase`, `mem_subset_or_mem_left`), and it is
either in the block of an id or the id of a block itself, without anything behind it
(`mem_ids_or_mem_subset`).
-/

namespace Telemetry

theorem Text.dropStart?_eq_some_iff {start s rest : String} :
    dropStart? start s = some rest ↔ s = start ++ rest := by
  unfold dropStart?
  constructor
  · intro h
    split at h
    · rename_i hprefix
      obtain ⟨cs, hcs⟩ := List.isPrefixOf_iff_prefix.mp hprefix
      cases h
      refine String.toList_injective ?_
      rw [String.toList_append, ← hcs]
      simp
    · cases h
  · rintro rfl
    simp

namespace Properties

open ConfigurationError (qualified)

variable {p : Properties} {block key param id text : String}

/-! ## Blocks -/

theorem qualified_inj : qualified block key = qualified block param ↔ key = param :=
  String.append_right_inj _

/-- A block within a block. -/
theorem qualified_qualified (outer inner param : String) :
    qualified (qualified outer inner) param = qualified outer (qualified inner param) := by
  simp [qualified, String.append_assoc]

theorem isUnder_iff : isUnder block key = true ↔ ∃ param, key = qualified block param := by
  rw [isUnder, Option.isSome_iff_exists]
  exact exists_congr fun _ => Text.dropStart?_eq_some_iff

/-- A block has the properties under its name. -/
theorem get?_subset (p : Properties) (block key : String) :
    (p.subset block).get? key = p.get? (qualified block key) := by
  have hnames : ((p.entries.filterMap fun e =>
      (Text.dropStart? (block ++ ".") e.1).map fun key => (key, e.2)).map Prod.fst).Nodup := by
    refine List.pairwise_map.mpr (p.ordered.filterMap _ ?_)
    intro e e' hlt f hf f' hf' hsame
    obtain ⟨key, hkey, rfl⟩ := Option.map_eq_some_iff.mp hf
    obtain ⟨key', hkey', rfl⟩ := Option.map_eq_some_iff.mp hf'
    obtain rfl : key = key' := hsame
    rw [Text.dropStart?_eq_some_iff.mp hkey, Text.dropStart?_eq_some_iff.mp hkey'] at hlt
    exact String.lt_irrefl _ hlt
  refine Option.ext fun text => ?_
  rw [subset, NameMap.get?_ofList_of_nodup hnames, NameMap.get?_eq_some_iff, List.mem_filterMap]
  constructor
  · rintro ⟨⟨name, text'⟩, he, hmap⟩
    obtain ⟨key', hkey, heq⟩ := Option.map_eq_some_iff.mp hmap
    obtain rfl : name = block ++ "." ++ key' := Text.dropStart?_eq_some_iff.mp hkey
    cases heq
    exact he
  · intro he
    exact ⟨_, he, Option.map_eq_some_iff.mpr ⟨key, Text.dropStart?_eq_some_iff.mpr rfl, rfl⟩⟩

theorem mem_keys_of_takeSubset (h : key ∈ (p.takeSubset block).2.keys) : key ∈ p.keys := by
  obtain ⟨text, htext⟩ := NameMap.mem_keys.mp h
  rw [takeSubset, NameMap.get?_filter] at htext
  exact NameMap.mem_keys.mpr ⟨text, (Option.filter_eq_some_iff.mp htext).1⟩

theorem mem_keys_subset : key ∈ (p.subset block).keys ↔ qualified block key ∈ p.keys := by
  rw [NameMap.mem_keys, NameMap.mem_keys, get?_subset]

theorem qualified_ne (h : isUnder block key = false) : qualified block param ≠ key := by
  rintro rfl
  rw [isUnder_iff.mpr ⟨param, rfl⟩] at h
  cases h

/-- Two blocks whose names begin with different letters have nothing in common. -/
theorem not_isUnder_qualified {block' : String}
    (h : (block ++ ".").toList.head? ≠ (block' ++ ".").toList.head?) :
    isUnder block (qualified block' param) = false := by
  have hhead (block param : String) :
      (qualified block param).toList.head? = (block ++ ".").toList.head? := by
    rw [qualified, String.toList_append, List.head?_append, Option.or_of_isSome]
    simp
  refine Bool.eq_false_iff.mpr fun hunder => ?_
  obtain ⟨param', heq⟩ := isUnder_iff.mp hunder
  exact h (by rw [← hhead block param', ← heq, hhead])

/-! ## What is taken and what is left -/

theorem takeRequired_snd (p : Properties) (key : String) :
    (p.takeRequired key).2 = p.erase key := by
  unfold takeRequired
  cases p.get? key <;> rfl

theorem mem_keys_of_takeRequired {raw : String} (h : (p.takeRequired key).1 = .ok raw) :
    key ∈ p.keys := by
  unfold takeRequired at h
  split at h
  · rename_i hget
    exact NameMap.mem_keys.mpr ⟨_, hget⟩
  · cases h

theorem takeRead_snd {α : Type} (read? : String → Except Reason α) (p : Properties) (key : String) :
    (p.takeRead read? key).2 = p.erase key := by
  unfold takeRead
  split
  · rfl
  · split <;> rfl

theorem eq_or_mem_erase (key : String) (h : param ∈ p.keys) :
    param = key ∨ param ∈ (p.erase key).keys := by
  by_cases hkey : param = key
  · exact .inl hkey
  · exact .inr (NameMap.mem_keys_erase.mpr ⟨hkey, h⟩)

theorem mem_or_mem_foldl_erase (names : List String) (h : key ∈ p.keys) :
    key ∈ names ∨ key ∈ (names.foldl NameMap.erase p).keys := by
  induction names generalizing p with
  | nil => exact .inr h
  | cons name rest ih =>
      rcases eq_or_mem_erase name h with rfl | h
      · exact .inl List.mem_cons_self
      · exact (ih h).imp_left (List.mem_cons_of_mem _)

theorem mem_subset_or_mem_left (block : String) (h : key ∈ p.keys) :
    (∃ param ∈ (p.subset block).keys, key = qualified block param) ∨
      key ∈ (p.takeSubset block).2.keys := by
  by_cases hunder : isUnder block key = true
  · obtain ⟨param, rfl⟩ := isUnder_iff.mp hunder
    exact .inl ⟨param, mem_keys_subset.mpr h, rfl⟩
  · obtain ⟨text, htext⟩ := NameMap.mem_keys.mp h
    refine .inr (NameMap.mem_keys.mpr ⟨text, ?_⟩)
    rw [takeSubset, NameMap.get?_filter, htext]
    simp [hunder]

/-- What is in no block is there when the block is taken. -/
theorem get?_takeSubset_of_not_under (h : isUnder block key = false) :
    (p.takeSubset block).2.get? key = p.get? key := by
  rw [takeSubset, NameMap.get?_filter]
  cases p.get? key <;> simp [h]

theorem get?_takeSubset_of_under (h : isUnder block key = true) :
    (p.takeSubset block).2.get? key = none := by
  rw [takeSubset, NameMap.get?_filter]
  cases p.get? key <;> simp [h]

theorem not_mem_keys_of_confirmAllUsed (h : p.confirmAllUsed = .ok ()) : key ∉ p.keys := by
  unfold confirmAllUsed at h
  split at h
  · rename_i hempty
    rw [NameMap.keys, List.isEmpty_iff.mp hempty]
    exact List.not_mem_nil
  · cases h

theorem qualified_ne_qualified {block' param' : String}
    (h : (block ++ ".").toList.head? ≠ (block' ++ ".").toList.head?) :
    qualified block param ≠ qualified block' param' :=
  qualified_ne (not_isUnder_qualified h)

/-- A block stays as it is when a property outside of it is taken. -/
theorem subset_erase (h : isUnder block key = false) :
    subset (p.erase key) block = p.subset block := by
  refine NameMap.ext_get? fun param => ?_
  rw [get?_subset, get?_subset, NameMap.get?_erase, if_neg (qualified_ne h)]

/-- A block stays as it is when another block is taken. -/
theorem subset_takeSubset {block' : String}
    (h : ∀ param, isUnder block' (qualified block param) = false) :
    (p.takeSubset block').2.subset block = p.subset block := by
  refine NameMap.ext_get? fun param => ?_
  rw [get?_subset, get?_subset, takeSubset, NameMap.get?_filter]
  cases p.get? (qualified block param) <;> simp [h]

/-! ## Ids -/

theorem not_mem_firstSegment (key : String) : '.' ∉ (firstSegment key).toList := by
  rw [firstSegment, String.toList_ofList]
  intro h
  simpa using List.mem_takeWhile_imp h

/-- A name is its first segment, alone or with more behind a dot. -/
theorem eq_firstSegment_or_qualified (key : String) :
    key = firstSegment key ∨ ∃ rest, key = qualified (firstSegment key) rest := by
  have hsplit := List.takeWhile_append_dropWhile (p := (· != '.')) (l := key.toList)
  cases hrest : key.toList.dropWhile (· != '.') with
  | nil =>
      rw [hrest, List.append_nil] at hsplit
      refine .inl (String.toList_injective ?_)
      rw [firstSegment, String.toList_ofList, hsplit]
  | cons c rest =>
      have hc : c = '.' := by
        have := List.head?_dropWhile_not (p := (· != '.')) (l := key.toList)
        simpa [hrest] using this
      refine .inr ⟨String.ofList rest, String.toList_injective ?_⟩
      rw [hrest, hc] at hsplit
      simpa [qualified, firstSegment] using hsplit.symm

theorem ne_qualified_of_not_mem (h : '.' ∉ id.toList) : id ≠ qualified block param := by
  rintro rfl
  exact h (by simp [qualified])

theorem forall_ne_dot (h : '.' ∉ id.toList) : ∀ c ∈ id.toList, (c != '.') = true :=
  fun _ hc => bne_iff_ne.mpr fun heq => h (heq ▸ hc)

theorem firstSegment_of_not_mem (h : '.' ∉ id.toList) : firstSegment id = id := by
  rw [firstSegment, List.takeWhile_eq_self_iff.mpr (forall_ne_dot h), String.ofList_toList]

theorem firstSegment_qualified (h : '.' ∉ id.toList) : firstSegment (qualified id param) = id := by
  rw [firstSegment, qualified, String.toList_append, String.toList_append, List.append_assoc,
    List.takeWhile_append_of_pos (forall_ne_dot h)]
  simp

theorem mem_ids : id ∈ p.ids ↔ ∃ key ∈ p.keys, firstSegment key = id := by
  rw [ids, NameMap.mem_sortedNames, List.mem_map]

theorem not_mem_of_mem_ids (h : id ∈ p.ids) : '.' ∉ id.toList := by
  obtain ⟨key, -, rfl⟩ := mem_ids.mp h
  exact not_mem_firstSegment key

/-- A property is in the block of an id, or it has no more than an id for a name. -/
theorem mem_ids_or_mem_subset (h : key ∈ p.keys) :
    key ∈ p.ids ∨ ∃ id ∈ p.ids, ∃ param ∈ (p.subset id).keys, key = qualified id param := by
  have hid : firstSegment key ∈ p.ids := mem_ids.mpr ⟨key, h, rfl⟩
  rcases eq_firstSegment_or_qualified key with heq | ⟨rest, heq⟩
  · rw [← heq] at hid
    exact .inl hid
  · refine .inr ⟨_, hid, rest, ?_, heq⟩
    rw [mem_keys_subset, ← heq]
    exact h

/-! ## One more property -/

theorem take_insert_of_ne (h : param ≠ key) :
    take (p.insert param text) key = ((p.take key).1, (p.take key).2.insert param text) := by
  rw [take, NameMap.get?_insert, if_neg h.symm, NameMap.erase_insert_of_ne h]
  rfl

theorem takeRequired_insert_of_ne (h : param ≠ key) :
    takeRequired (p.insert param text) key =
      ((p.takeRequired key).1, (p.takeRequired key).2.insert param text) := by
  unfold takeRequired
  rw [NameMap.get?_insert, if_neg h.symm, NameMap.erase_insert_of_ne h]
  cases p.get? key <;> rfl

theorem subset_insert_of_not_under (h : isUnder block key = false) :
    subset (p.insert key text) block = p.subset block := by
  refine NameMap.ext_get? fun param => ?_
  rw [get?_subset, get?_subset, NameMap.get?_insert, if_neg (qualified_ne h)]

theorem subset_insert_qualified :
    subset (p.insert (qualified block key) text) block = (p.subset block).insert key text := by
  refine NameMap.ext_get? fun param => ?_
  rw [get?_subset, NameMap.get?_insert, NameMap.get?_insert, get?_subset]
  exact if_congr qualified_inj rfl rfl

theorem takeSubset_insert_of_not_under (h : isUnder block key = false) :
    takeSubset (p.insert key text) block =
      ((p.takeSubset block).1, (p.takeSubset block).2.insert key text) := by
  rw [takeSubset, subset_insert_of_not_under h, NameMap.filter_insert_of_pos (by simp [h])]
  rfl

/-- A property of a block changes the block, and nothing of what is left. -/
theorem takeSubset_insert_qualified :
    takeSubset (p.insert (qualified block key) text) block =
      ((p.takeSubset block).1.insert key text, (p.takeSubset block).2) := by
  have hunder : isUnder block (qualified block key) = true := isUnder_iff.mpr ⟨key, rfl⟩
  rw [takeSubset, subset_insert_qualified, NameMap.filter_insert_of_neg (by simp [hunder])]
  exact congrArg _ (NameMap.erase_of_get?_eq_none (get?_takeSubset_of_under hunder))

/-- An id that is there already makes no other id. -/
theorem ids_insert_of_mem (h : id ∈ p.ids) : ids (p.insert id text) = p.ids := by
  refine NameMap.sortedNames_congr fun name => ?_
  rw [List.mem_map, List.mem_map]
  constructor
  · rintro ⟨key, hkey, rfl⟩
    rcases NameMap.mem_keys_insert.mp hkey with rfl | hkey
    · rw [firstSegment_of_not_mem (not_mem_of_mem_ids h)]
      exact mem_ids.mp h
    · exact ⟨key, hkey, rfl⟩
  · rintro ⟨key, hkey, rfl⟩
    exact ⟨key, NameMap.mem_keys_insert.mpr (.inr hkey), rfl⟩

/-- An id is in no block. -/
theorem not_isUnder_of_mem_ids (h : id ∈ p.ids) (block : String) : isUnder block id = false := by
  refine Bool.eq_false_iff.mpr fun hunder => ?_
  obtain ⟨param, heq⟩ := isUnder_iff.mp hunder
  exact ne_qualified_of_not_mem (not_mem_of_mem_ids h) heq

end Properties

end Telemetry
