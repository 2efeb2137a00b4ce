import Mathlib.Data.List.Induction
import Mathlib.Logic.Basic
import Telemetry.NameMap

/-!
# Entries of maps

The entries of a map after `insert`, `erase` and `filter`, and where those of a map built from a
list come from. A map is its entries (`NameMap.ext_mem`), and has one entry for a name
(`NameMap.eq_of_mem`), so `erase` takes one away (`NameMap.size_erase`).
-/

namespace Telemetry.NameMap

universe u

variable {α : Type u} {m n : NameMap α} {k : String} {x : α} {e f : String × α}

/-! ## Membership -/

theorem ext_mem (h : ∀ e, e ∈ m.entries ↔ e ∈ n.entries) : m = n := by
  refine ext_get? fun k => Option.ext fun x => ?_
  rw [get?_eq_some_iff, get?_eq_some_iff, h]

/-- A name has one entry. -/
theorem eq_of_mem (he : e ∈ m.entries) (hf : f ∈ m.entries) (h : e.1 = f.1) : e = f := by
  obtain ⟨k, x⟩ := e
  obtain ⟨k', y⟩ := f
  obtain rfl : k = k' := h
  have hx := get?_eq_some_iff.mpr he
  rw [get?_eq_some_iff.mpr hf] at hx
  cases hx
  rfl

theorem mem_filter {keep : String → α → Bool} :
    e ∈ (m.filter keep).entries ↔ e ∈ m.entries ∧ keep e.1 e.2 = true := by
  simp [filter]

theorem mem_erase : e ∈ (m.erase k).entries ↔ e ∈ m.entries ∧ e.1 ≠ k := by
  rw [erase, mem_filter]
  simp

theorem mem_insert : e ∈ (m.insert k x).entries ↔ e = (k, x) ∨ e ∈ m.entries ∧ e.1 ≠ k := by
  obtain ⟨k', y⟩ := e
  rw [← get?_eq_some_iff, get?_insert, ← get?_eq_some_iff]
  by_cases h : k' = k
  · subst h
    simp [eq_comm]
  · simp [h]

theorem mem_keys : k ∈ m.keys ↔ ∃ x, m.get? k = some x := by
  constructor
  · intro h
    obtain ⟨⟨k', x⟩, he, rfl⟩ := List.mem_map.mp h
    exact ⟨x, get?_eq_some_iff.mpr he⟩
  · rintro ⟨x, hk⟩
    exact List.mem_map.mpr ⟨(k, x), get?_eq_some_iff.mp hk, rfl⟩

theorem isEmpty_of_mem_keys (h : k ∈ m.keys) : m.isEmpty = false := by
  obtain ⟨e, he, -⟩ := List.mem_map.mp h
  exact List.isEmpty_eq_false_iff.mpr (List.ne_nil_of_mem he)

theorem mem_keys_insert {k' : String} : k' ∈ (m.insert k x).keys ↔ k' = k ∨ k' ∈ m.keys := by
  rw [mem_keys, mem_keys]
  by_cases hk : k' = k
  · subst hk
    simp
  · simp [get?_insert, hk]

theorem mem_keys_erase {k' : String} : k' ∈ (m.erase k).keys ↔ k' ≠ k ∧ k' ∈ m.keys := by
  rw [mem_keys, mem_keys]
  by_cases hk : k' = k <;> simp [get?_erase, hk]

theorem mem_values : x ∈ m.values ↔ ∃ k, m.get? k = some x := by
  constructor
  · intro h
    obtain ⟨⟨k, x'⟩, he, rfl⟩ := List.mem_map.mp h
    exact ⟨k, get?_eq_some_iff.mpr he⟩
  · rintro ⟨k, hk⟩
    exact List.mem_map.mpr ⟨(k, x), get?_eq_some_iff.mp hk, rfl⟩

/-- Values that know their names have different ones. -/
theorem pairwise_values {name : α → String} (h : ∀ k x, m.get? k = some x → name x = k) :
    m.values.Pairwise fun x y => name x ≠ name y := by
  refine List.pairwise_map.mpr (m.ordered.imp_of_mem ?_)
  intro e f he hf hlt
  rw [h e.1 e.2 (get?_eq_some_iff.mpr he), h f.1 f.2 (get?_eq_some_iff.mpr hf)]
  exact String.ne_of_lt hlt

/-! ## Building a map from a list -/

theorem ofList_concat (l : List (String × α)) (e : String × α) :
    ofList (l ++ [e]) = (ofList l).insert e.1 e.2 := by
  simp [ofList]

theorem mem_entries_ofList {l : List (String × α)} (h : e ∈ (ofList l).entries) : e ∈ l := by
  induction l using List.reverseRecOn with
  | nil => cases h
  | append_singleton l f ih =>
      rw [ofList_concat] at h
      rcases mem_insertEntry h with rfl | h
      · exact List.mem_append_right _ List.mem_cons_self
      · exact List.mem_append_left _ (ih h)

theorem insertEntry_of_lt {l : List (String × α)} (h : ∀ e ∈ l, e.1 < k) :
    insertEntry k x l = l ++ [(k, x)] := by
  induction l with
  | nil => rfl
  | cons first rest ih =>
      have hfirst : first.1 < k := h first List.mem_cons_self
      rw [insertEntry, if_neg fun hk => String.lt_irrefl _ (String.lt_trans hk hfirst),
        if_neg fun hk => String.lt_irrefl _ (hk ▸ hfirst),
        ih fun e he => h e (List.mem_cons_of_mem _ he)]
      rfl

/-- A list in the order of its names is the list of entries of its map. -/
theorem entries_ofList {l : List (String × α)} (h : l.Pairwise (fun a b => a.1 < b.1)) :
    (ofList l).entries = l := by
  induction l using List.reverseRecOn with
  | nil => rfl
  | append_singleton l e ih =>
      obtain ⟨hl, -, hlast⟩ := List.pairwise_append.mp h
      rw [ofList_concat]
      show insertEntry e.1 e.2 (ofList l).entries = _
      rw [ih hl]
      exact insertEntry_of_lt fun f hf => hlast f hf e List.mem_cons_self

theorem ofList_entries (m : NameMap α) : ofList m.entries = m :=
  ext_mem fun e => by rw [entries_ofList m.ordered]

theorem values_ofList_single (k : String) (x : α) : (ofList [(k, x)]).values = [x] := rfl

/-- A map that gives every one of some names what belongs to it. -/
theorem get?_ofList_map (f : String → α) (names : List String) (k : String) :
    (ofList (names.map fun name => (name, f name))).get? k =
      if k ∈ names then some (f k) else none := by
  induction names using List.reverseRecOn with
  | nil => rfl
  | append_singleton names name ih =>
      rw [List.map_append, List.map_singleton, ofList_concat, get?_insert, ih]
      by_cases hname : k = name
      · subst hname
        simp
      · simp [hname]

/-- If no name occurs twice, every entry of the list is one of the map. -/
theorem get?_ofList_of_nodup {l : List (String × α)} (h : (l.map Prod.fst).Nodup) :
    (ofList l).get? k = some x ↔ (k, x) ∈ l := by
  induction l using List.reverseRecOn with
  | nil => simp [ofList]
  | append_singleton l e ih =>
      obtain ⟨hl, -, hdisjoint⟩ := List.nodup_append.mp (List.map_append ▸ h)
      rw [ofList_concat, get?_insert, List.mem_append, List.mem_singleton]
      by_cases hk : k = e.1
      · subst hk
        have hnot : (e.1, x) ∉ l := fun hmem =>
          hdisjoint e.1 (List.mem_map.mpr ⟨_, hmem, rfl⟩) e.1 (by simp) rfl
        simp [hnot, Prod.ext_iff, eq_comm]
      · simp [hk, ih hl, Prod.ext_iff]

/-- Entries that are put into a map go before those that are there. -/
theorem get?_foldl_insert (l : List (String × α)) (m : NameMap α) (k : String) :
    (l.foldl (fun m e => m.insert e.1 e.2) m).get? k = ((ofList l).get? k).or (m.get? k) := by
  induction l using List.reverseRecOn with
  | nil => rfl
  | append_singleton l e ih =>
      rw [List.foldl_append, List.foldl_cons, List.foldl_nil, ofList_concat, get?_insert,
        get?_insert, ih]
      split <;> rfl

theorem get?_union (m n : NameMap α) (k : String) :
    (m.union n).get? k = (n.get? k).or (m.get? k) := by
  rw [union, get?_foldl_insert, ofList_entries]

/-! ## Names -/

theorem mem_sortedNames {names : List String} : k ∈ sortedNames names ↔ k ∈ names := by
  have hget := get?_ofList_map (fun _ => ()) names k
  rw [sortedNames, mem_keys, hget]
  simp

theorem sortedNames_pairwise (names : List String) : (sortedNames names).Pairwise (· < ·) :=
  List.pairwise_map.mpr (ofList _).ordered

theorem sortedNames_congr {names names' : List String} (h : ∀ k, k ∈ names ↔ k ∈ names') :
    sortedNames names = sortedNames names' := by
  refine congrArg keys (ext_get? fun k => ?_)
  rw [get?_ofList_map, get?_ofList_map]
  exact if_congr (h k) rfl rfl

/-! ## Filters -/

theorem filter_filter (p q : String → α → Bool) :
    (m.filter p).filter q = m.filter fun k x => p k x && q k x := by
  refine ext_mem fun e => ?_
  simp [mem_filter, and_assoc]

theorem filter_insert_of_pos {keep : String → α → Bool} (h : keep k x = true) :
    (m.insert k x).filter keep = (m.filter keep).insert k x := by
  refine ext_mem fun e => ?_
  rw [mem_filter, mem_insert, mem_insert, mem_filter]
  constructor
  · rintro ⟨rfl | ⟨he, hk⟩, hkeep⟩
    · exact Or.inl rfl
    · exact Or.inr ⟨⟨he, hkeep⟩, hk⟩
  · rintro (rfl | ⟨⟨he, hkeep⟩, hk⟩)
    · exact ⟨Or.inl rfl, h⟩
    · exact ⟨Or.inr ⟨he, hk⟩, hkeep⟩

theorem filter_insert_of_neg {keep : String → α → Bool} (h : keep k x = false) :
    (m.insert k x).filter keep = (m.filter keep).erase k := by
  refine ext_mem fun e => ?_
  rw [mem_filter, mem_insert, mem_erase, mem_filter]
  constructor
  · rintro ⟨rfl | ⟨he, hk⟩, hkeep⟩
    · exact absurd hkeep (by simp [h])
    · exact ⟨⟨he, hkeep⟩, hk⟩
  · rintro ⟨⟨he, hkeep⟩, hk⟩
    exact ⟨Or.inr ⟨he, hk⟩, hkeep⟩

theorem erase_of_get?_eq_none (h : m.get? k = none) : m.erase k = m := by
  refine ext_get? fun k' => ?_
  rw [get?_erase]
  split
  · rename_i hk
    rw [hk, h]
  · rfl

theorem insert_erase_self : (m.erase k).insert k x = m.insert k x := by
  refine ext_get? fun k' => ?_
  simp only [get?_insert, get?_erase]
  split <;> rfl

theorem erase_insert_self : (m.insert k x).erase k = m.erase k := by
  refine ext_get? fun k' => ?_
  simp only [get?_insert, get?_erase]
  split <;> rfl

theorem erase_insert_of_ne {k' : String} (h : k ≠ k') :
    (m.insert k x).erase k' = (m.erase k').insert k x := by
  refine ext_get? fun k'' => ?_
  simp only [get?_insert, get?_erase]
  split
  · rename_i hk
    rw [if_neg (hk ▸ Ne.symm h)]
  · rfl

/-! ## Sizes -/

theorem length_filter_ne {l : List (String × α)} (hl : l.Pairwise (fun a b => a.1 < b.1))
    (he : e ∈ l) : (l.filter fun f => f.1 != e.1).length + 1 = l.length := by
  induction l with
  | nil => cases he
  | cons first rest ih =>
      have hlt : ∀ f ∈ rest, first.1 < f.1 := fun _ => List.rel_of_pairwise_cons hl
      rcases List.mem_cons.mp he with rfl | he
      · have hrest : (rest.filter fun f => f.1 != e.1) = rest := by
          rw [List.filter_eq_self]
          intro f hf
          have hne : f.1 ≠ e.1 := fun h => String.lt_irrefl _ (h ▸ hlt f hf)
          simp [hne]
        rw [List.filter_cons_of_neg (by simp), hrest, List.length_cons]
      · have hne : first.1 ≠ e.1 := fun h => String.lt_irrefl _ (h ▸ hlt e he)
        rw [List.filter_cons_of_pos (by simp [hne]), List.length_cons, List.length_cons,
          ih hl.of_cons he]

theorem size_erase (h : e ∈ m.entries) : (m.erase e.1).size + 1 = m.size :=
  length_filter_ne m.ordered h

theorem size_insert_of_get?_eq_none (h : m.get? k = none) : (m.insert k x).size = m.size + 1 := by
  rw [← size_erase (e := (k, x)) (mem_insert.mpr (Or.inl rfl)), erase_insert_self,
    erase_of_get?_eq_none h]

theorem length_le_length_insertEntry (l : List (String × α)) :
    l.length ≤ (insertEntry k x l).length := by
  induction l with
  | nil => exact Nat.zero_le _
  | cons first rest ih =>
      obtain ⟨k', y⟩ := first
      rw [insertEntry]
      split
      · exact Nat.le_succ _
      · split
        · exact Nat.le_refl _
        · exact Nat.succ_le_succ ih

theorem size_le_size_insert : m.size ≤ (m.insert k x).size :=
  length_le_length_insertEntry m.entries

end Telemetry.NameMap
