import Telemetry.Proofs.Configuration.Blocks

/-!
# Blocks as parts of a whole

A block is taken property by property. The set of properties falls into the block and what is left,
and is made whole again by putting the two together. The blocks of all ids and the properties that
are nothing but ids are parts in the same sense: no property is in none of them, and none is in two.
-/

namespace Telemetry.Properties

open ConfigurationError (qualified)

variable {p : Properties} {block key param id text : String} {s : Properties × Properties}

/-! ## Taking a block property by property -/

/-- The name of a property in its block. -/
def unqualified (block key : String) : String :=
  String.ofList (key.toList.drop (block ++ ".").length)

def move (block : String) (s : Properties × Properties) (key : String) :
    Properties × Properties :=
  let (found, rest) := s.2.take key
  (found.elim s.1 fun text => s.1.insert (unqualified block key) text, rest)

/-- Takes the block, one property after the other in the order of their names. -/
def takeEach (p : Properties) (block : String) : Properties × Properties :=
  (p.keys.filter (isUnder block)).foldl (move block) (.empty, p)

theorem unqualified_qualified : unqualified block (qualified block param) = param := by
  rw [unqualified, qualified, String.toList_append, ← String.length_toList, List.drop_left,
    String.ofList_toList]

theorem move_snd : (move block s key).2 = s.2.erase key := rfl

theorem get?_move_fst (name : String) : (move block s (qualified block param)).1.get? name =
    if name = param then (s.2.get? (qualified block param)).or (s.1.get? param)
    else s.1.get? name := by
  show ((s.2.get? (qualified block param)).elim s.1 _).get? name = _
  cases s.2.get? (qualified block param) with
  | none =>
      by_cases hname : name = param <;> simp [hname]
  | some text =>
      rw [unqualified_qualified]
      exact NameMap.get?_insert s.1 param name text

/-- What is left has none of the properties that were moved. -/
theorem get?_foldl_move_snd (keys : List String) (s : Properties × Properties) :
    (keys.foldl (move block) s).2.get? key = if key ∈ keys then none else s.2.get? key := by
  induction keys generalizing s with
  | nil => simp
  | cons first rest ih =>
      rw [List.foldl_cons, ih, move_snd, NameMap.get?_erase]
      by_cases hrest : key ∈ rest <;> by_cases hfirst : key = first <;> simp [hrest, hfirst]

/-- The block has the properties that were moved, by their names in it. -/
theorem get?_foldl_move_fst {keys : List String} (hkeys : ∀ key ∈ keys, isUnder block key = true)
    (s : Properties × Properties) :
    (keys.foldl (move block) s).1.get? param =
      if qualified block param ∈ keys then (s.2.get? (qualified block param)).or (s.1.get? param)
      else s.1.get? param := by
  induction keys generalizing s with
  | nil => simp
  | cons first rest ih =>
      obtain ⟨hfirst, hrest⟩ := List.forall_mem_cons.mp hkeys
      obtain ⟨name, rfl⟩ := isUnder_iff.mp hfirst
      rw [List.foldl_cons, ih hrest, move_snd, NameMap.get?_erase, get?_move_fst]
      by_cases hname : param = name
      · subst hname
        simp
      · simp [hname, qualified_inj]

theorem isUnder_of_mem_filter {keys : List String} :
    ∀ key ∈ keys.filter (isUnder block), isUnder block key = true :=
  fun _ hkey => (List.mem_filter.mp hkey).2

/-- Property by property or at once, the same is taken and the same is left. -/
theorem takeEach_eq (p : Properties) (block : String) : p.takeEach block = p.takeSubset block := by
  have hnames {key text : String} (hget : p.get? key = some text) :
      key ∈ p.keys.filter (isUnder block) ↔ isUnder block key = true := by
    rw [List.mem_filter]
    exact and_iff_right (NameMap.mem_keys.mpr ⟨text, hget⟩)
  refine Prod.ext (NameMap.ext_get? fun name => ?_) (NameMap.ext_get? fun key => ?_)
  · rw [takeEach, get?_foldl_move_fst isUnder_of_mem_filter, takeSubset, get?_subset]
    cases hget : p.get? (qualified block name) with
    | none => simp
    | some text => rw [if_pos ((hnames hget).mpr (isUnder_iff.mpr ⟨name, rfl⟩)), Option.some_or]
  · rw [takeEach, get?_foldl_move_snd, takeSubset, NameMap.get?_filter]
    cases hget : p.get? key with
    | none => simp
    | some text =>
        rw [if_congr (hnames hget) rfl rfl]
        cases isUnder block key <;> rfl

/-! ## The whole of a block and the rest -/

theorem mem_entries_subset : (param, text) ∈ (p.subset block).entries ↔
    (qualified block param, text) ∈ p.entries := by
  rw [← NameMap.get?_eq_some_iff, get?_subset, NameMap.get?_eq_some_iff]

theorem not_isUnder_iff : isUnder block key = false ↔ ∀ param, key ≠ qualified block param := by
  rw [← Bool.not_eq_true, isUnder_iff, not_exists]

/-- What is left when a block is taken: all that is not under its name. -/
theorem mem_entries_takeSubset {e : String × String} : e ∈ (p.takeSubset block).2.entries ↔
    e ∈ p.entries ∧ ∀ param, e.1 ≠ qualified block param := by
  rw [takeSubset, NameMap.mem_filter, ← not_isUnder_iff, Bool.not_eq_true']

/-- The properties of a block by the names that the enclosing set has for them. -/
def within (block : String) (q : Properties) : Properties :=
  .ofList (q.entries.map fun e => (qualified block e.1, e.2))

theorem get?_within_eq_some_iff {q : Properties} : (within block q).get? key = some text ↔
    ∃ param, key = qualified block param ∧ q.get? param = some text := by
  have hnodup : ((q.entries.map fun e => (qualified block e.1, e.2)).map Prod.fst).Nodup := by
    rw [List.map_map]
    refine List.pairwise_map.mpr (q.ordered.imp fun hlt heq => ?_)
    exact String.ne_of_lt hlt (qualified_inj.mp heq)
  rw [within, NameMap.get?_ofList_of_nodup hnodup, List.mem_map]
  constructor
  · rintro ⟨⟨param, text'⟩, he, heq⟩
    cases heq
    exact ⟨param, rfl, NameMap.get?_eq_some_iff.mpr he⟩
  · rintro ⟨param, rfl, hget⟩
    exact ⟨(param, text), NameMap.get?_eq_some_iff.mp hget, rfl⟩

theorem get?_within_qualified (q : Properties) :
    (within block q).get? (qualified block param) = q.get? param := by
  refine Option.ext fun text => get?_within_eq_some_iff.trans ?_
  simp [qualified_inj]

theorem get?_within_of_not_under (h : isUnder block key = false) (q : Properties) :
    (within block q).get? key = none := by
  refine Option.eq_none_iff_forall_not_mem.mpr fun text htext => ?_
  obtain ⟨param, hkey, -⟩ := get?_within_eq_some_iff.mp htext
  exact not_isUnder_iff.mp h param hkey

/-- A block by its full names, together with the rest, is the whole. -/
theorem union_takeSubset (p : Properties) (block : String) :
    (within block (p.takeSubset block).1).union (p.takeSubset block).2 = p := by
  refine NameMap.ext_get? fun key => ?_
  rw [NameMap.get?_union]
  cases hunder : isUnder block key with
  | false =>
      rw [get?_within_of_not_under hunder, get?_takeSubset_of_not_under hunder, Option.or_none]
  | true =>
      obtain ⟨param, rfl⟩ := isUnder_iff.mp hunder
      rw [get?_takeSubset_of_under hunder, get?_within_qualified, Option.none_or]
      exact get?_subset p block param

/-! ## Blocks of ids -/

def LiesUnder (p : Properties) (id : String) (e : String × String) : Prop :=
  ∃ param, e.1 = qualified id param ∧ (param, e.2) ∈ (p.subset id).entries

variable {e : String × String}

theorem liesUnder_qualified (h : (qualified id param, text) ∈ p.entries) :
    p.LiesUnder id (qualified id param, text) :=
  ⟨param, rfl, mem_entries_subset.mpr h⟩

/-- Ids have no dots, so a name tells where its id ends. -/
theorem LiesUnder.firstSegment_eq (h : p.LiesUnder id e) (hid : id ∈ p.ids) :
    firstSegment e.1 = id := by
  obtain ⟨param, hkey, -⟩ := h
  rw [hkey, firstSegment_qualified (not_mem_of_mem_ids hid)]

theorem firstSegment_mem_ids (h : e ∈ p.entries) : firstSegment e.1 ∈ p.ids :=
  mem_ids.mpr ⟨e.1, List.mem_map.mpr ⟨e, h, rfl⟩, rfl⟩

/-- An id lies under no name, and any other property under one id. -/
theorem mem_ids_or_existsUnique_liesUnder (h : e ∈ p.entries) :
    (e.1 ∈ p.ids ∧ ∀ name, ¬p.LiesUnder name e) ∨
      e.1 ∉ p.ids ∧ ∃! id, id ∈ p.ids ∧ p.LiesUnder id e := by
  have hid := firstSegment_mem_ids h
  obtain ⟨key, text⟩ := e
  rcases eq_firstSegment_or_qualified key with hkey | ⟨param, hkey⟩
  · have hmem : key ∈ p.ids := by
      rw [hkey]
      exact hid
    refine .inl ⟨hmem, ?_⟩
    rintro name ⟨param, hname, -⟩
    exact ne_qualified_of_not_mem (not_mem_of_mem_ids hmem) hname
  · -- a name with a dot is no id, and a block that it lies in is that of its first segment
    refine .inr ⟨?_, firstSegment key, ⟨hid, ?_⟩, ?_⟩
    · intro hmem
      exact ne_qualified_of_not_mem (not_mem_of_mem_ids hmem) hkey
    · rw [hkey] at h
      have hlies := liesUnder_qualified h
      rwa [← hkey] at hlies
    · rintro id ⟨hmem, hlies⟩
      exact (hlies.firstSegment_eq hmem).symm

/-- **Blocks are parts of a whole.** Taken property by property, a block is what it is without being
taken: all that is under its name, by the rest of the names. What is left is all that is not, and
the block by its full names together with what is left is the whole.

A property whose name is an id lies in no block. Any other lies in the block of one id, and of no
other. -/
theorem blocks_partition (p : Properties) (block : String) :
    (p.takeEach block).1 = p.subset block ∧ p.takeEach block = p.takeSubset block ∧
    (∀ param text, (param, text) ∈ (p.subset block).entries ↔
      (qualified block param, text) ∈ p.entries) ∧
    (∀ e, e ∈ (p.takeEach block).2.entries ↔
      e ∈ p.entries ∧ ∀ param, e.1 ≠ qualified block param) ∧
    (within block (p.takeEach block).1).union (p.takeEach block).2 = p ∧
    ∀ e ∈ p.entries, (e.1 ∈ p.ids ∧ ∀ name, ¬p.LiesUnder name e) ∨
      e.1 ∉ p.ids ∧ ∃! id, id ∈ p.ids ∧ p.LiesUnder id e := by
  rw [takeEach_eq]
  exact ⟨rfl, rfl, fun _ _ => mem_entries_subset, fun _ => mem_entries_takeSubset,
    union_takeSubset p block, fun _ => mem_ids_or_existsUnique_liesUnder⟩

/-- Ids that begin alike, names with empty segments and names that are nothing but an id. -/
def nested : Properties :=
  .ofList [("a", "0"), ("a.b", "1"), ("a.b.c", "2"), ("a.b.", "3"), ("ab.c", "4"), (".a.b.c", "5")]

/-- The block `a.b` has two properties, and its own name is not in it. -/
theorem nested_partition :
    nested.takeEach "a.b" = (.ofList [("c", "2"), ("", "3")],
      .ofList [("a", "0"), ("a.b", "1"), ("ab.c", "4"), (".a.b.c", "5")]) ∧
    nested.ids = ["", "a", "ab"] ∧ (".a.b.c", "5") ∈ nested.entries ∧
    ∃! id, id ∈ nested.ids ∧ nested.LiesUnder id (".a.b.c", "5") := by
  have hids : nested.ids = ["", "a", "ab"] := by decide +kernel
  have hmem : (".a.b.c", "5") ∈ nested.entries := by decide +kernel
  refine ⟨by decide +kernel, hids, hmem, ?_⟩
  rcases (blocks_partition nested "a.b").2.2.2.2.2 _ hmem with ⟨hid, -⟩ | ⟨-, hunique⟩
  · rw [hids] at hid
    exact absurd hid (by decide)
  · exact hunique

end Telemetry.Properties
