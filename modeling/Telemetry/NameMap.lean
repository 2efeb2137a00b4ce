/-!
# Maps keyed by names

A map from names to values, held as its entries in increasing order of the name. Every map
has exactly one such list, so two maps with the same bindings are equal, and whatever is
listed from a map comes in name order.

*View*: `get?`. The lemmas say what `insert`, `erase` and `filter` do to it, and
`NameMap.ext_get?` says that nothing else can be seen of a map.
-/

namespace Telemetry

universe u v

/-- A finite map from names to values. -/
structure NameMap (α : Type u) where
  entries : List (String × α)
  ordered : entries.Pairwise (fun a b => a.1 < b.1) := by exact List.Pairwise.nil
  deriving DecidableEq, Repr

namespace NameMap

variable {α : Type u} {β : Type v}

/-- The entry takes the place of one with the same name. -/
def insertEntry (k : String) (x : α) : List (String × α) → List (String × α)
  | [] => [(k, x)]
  | (k', x') :: rest =>
    if k < k' then (k, x) :: (k', x') :: rest
    else if k = k' then (k, x) :: rest
    else (k', x') :: insertEntry k x rest

theorem mem_insertEntry {k : String} {x : α} {e : String × α} {l : List (String × α)} :
    e ∈ insertEntry k x l → e = (k, x) ∨ e ∈ l := by
  induction l with
  | nil => simp [insertEntry]
  | cons head rest ih =>
    obtain ⟨k', x'⟩ := head
    rw [insertEntry]
    split
    · intro h; simpa using h
    · split
      · intro h
        rcases List.mem_cons.1 h with h | h
        · exact Or.inl h
        · exact Or.inr (List.mem_cons_of_mem _ h)
      · intro h
        rcases List.mem_cons.1 h with h | h
        · exact Or.inr (h ▸ List.mem_cons_self)
        · rcases ih h with h | h
          · exact Or.inl h
          · exact Or.inr (List.mem_cons_of_mem _ h)

theorem insertEntry_ordered (k : String) (x : α) {l : List (String × α)}
    (h : l.Pairwise (fun a b => a.1 < b.1)) :
    (insertEntry k x l).Pairwise (fun a b => a.1 < b.1) := by
  induction l with
  | nil => simp [insertEntry]
  | cons head rest ih =>
    obtain ⟨k', x'⟩ := head
    have hrest : ∀ e ∈ rest, k' < e.1 := fun _ => List.rel_of_pairwise_cons h
    rw [insertEntry]
    split
    · rename_i hlt
      refine List.Pairwise.cons ?_ h
      intro e he
      rcases List.mem_cons.1 he with rfl | he
      · exact hlt
      · exact String.lt_trans hlt (hrest e he)
    · rename_i hge
      split
      · rename_i heq
        subst heq
        exact List.Pairwise.cons hrest h.of_cons
      · rename_i hne
        refine List.Pairwise.cons ?_ (ih h.of_cons)
        intro e he
        rcases mem_insertEntry he with rfl | he
        · refine Decidable.byContradiction fun hnot => hne ?_
          exact String.le_antisymm (String.not_lt.1 hnot) (String.not_lt.1 hge)
        · exact hrest e he

instance : Inhabited (NameMap α) := ⟨{ entries := [] }⟩

def empty : NameMap α := { entries := [] }

instance : EmptyCollection (NameMap α) := ⟨empty⟩

/-- The value of the first entry with the name. -/
def findEntry (k : String) : List (String × α) → Option α
  | [] => none
  | (k', x) :: rest => if k = k' then some x else findEntry k rest

def get? (m : NameMap α) (k : String) : Option α := findEntry k m.entries

def contains (m : NameMap α) (k : String) : Bool := (m.get? k).isSome

def insert (m : NameMap α) (k : String) (x : α) : NameMap α where
  entries := insertEntry k x m.entries
  ordered := insertEntry_ordered k x m.ordered

def filter (m : NameMap α) (keep : String → α → Bool) : NameMap α where
  entries := m.entries.filter fun e => keep e.1 e.2
  ordered := m.ordered.filter _

def erase (m : NameMap α) (k : String) : NameMap α := m.filter fun k' _ => k' != k

def map (f : String → α → β) (m : NameMap α) : NameMap β where
  entries := m.entries.map fun e => (e.1, f e.1 e.2)
  ordered := List.pairwise_map.2 m.ordered

/-- Of two entries with one name the later holds. -/
def ofList (l : List (String × α)) : NameMap α :=
  l.foldl (fun m e => m.insert e.1 e.2) empty

/-- The second map overrides the first. -/
def union (m n : NameMap α) : NameMap α :=
  n.entries.foldl (fun m e => m.insert e.1 e.2) m

def toList (m : NameMap α) : List (String × α) := m.entries

def keys (m : NameMap α) : List String := m.entries.map (·.1)

/-- Names in increasing order, each once. -/
def sortedNames (names : List String) : List String :=
  (ofList (names.map fun k => (k, ()))).keys

def values (m : NameMap α) : List α := m.entries.map (·.2)

def size (m : NameMap α) : Nat := m.entries.length

def isEmpty (m : NameMap α) : Bool := m.entries.isEmpty

/-! ## What can be seen of a map -/

@[simp] theorem get?_empty (k : String) : (empty : NameMap α).get? k = none := rfl

theorem findEntry_insertEntry (k k' : String) (x : α) (l : List (String × α)) :
    findEntry k' (insertEntry k x l) = if k' = k then some x else findEntry k' l := by
  induction l with
  | nil => rfl
  | cons head rest ih =>
    obtain ⟨k₀, x₀⟩ := head
    grind [insertEntry, findEntry]

theorem get?_insert (m : NameMap α) (k k' : String) (x : α) :
    (m.insert k x).get? k' = if k' = k then some x else m.get? k' :=
  findEntry_insertEntry k k' x m.entries

@[simp] theorem get?_insert_self (m : NameMap α) (k : String) (x : α) :
    (m.insert k x).get? k = some x := by simp [get?_insert]

theorem findEntry_eq_some_iff {l : List (String × α)}
    (h : l.Pairwise (fun a b => a.1 < b.1)) {k : String} {x : α} :
    findEntry k l = some x ↔ (k, x) ∈ l := by
  induction l with
  | nil => simp [findEntry]
  | cons head rest ih =>
    obtain ⟨k₀, x₀⟩ := head
    have hrest : ∀ e ∈ rest, k₀ < e.1 := fun _ => List.rel_of_pairwise_cons h
    have hirr := String.lt_irrefl k₀
    have := ih h.of_cons
    grind [findEntry]

theorem get?_eq_some_iff {m : NameMap α} {k : String} {x : α} :
    m.get? k = some x ↔ (k, x) ∈ m.entries :=
  findEntry_eq_some_iff m.ordered

theorem get?_filter (m : NameMap α) (keep : String → α → Bool) (k : String) :
    (m.filter keep).get? k = (m.get? k).filter (keep k) := by
  refine Option.ext fun x => ?_
  rw [get?_eq_some_iff, Option.filter_eq_some_iff, get?_eq_some_iff]
  simp [filter]

theorem get?_erase (m : NameMap α) (k k' : String) :
    (m.erase k).get? k' = if k' = k then none else m.get? k' := by
  rw [erase, get?_filter]
  by_cases h : k' = k
  · simp [h]
  · cases m.get? k' <;> simp [h]

theorem get?_map (f : String → α → β) (m : NameMap α) (k : String) :
    (m.map f).get? k = (m.get? k).map (f k) := by
  obtain ⟨l, ordered⟩ := m
  simp only [map, get?]
  clear ordered
  induction l with
  | nil => rfl
  | cons head rest ih => grind [findEntry]

/-- Two maps with the same bindings are the same map. -/
theorem ext_get? {m n : NameMap α} (h : ∀ k, m.get? k = n.get? k) : m = n := by
  obtain ⟨l, hl⟩ := m
  obtain ⟨r, hr⟩ := n
  have hmem : ∀ e : String × α, e ∈ l ↔ e ∈ r := fun e => by
    rw [← findEntry_eq_some_iff hl, ← findEntry_eq_some_iff hr]
    exact iff_of_eq (congrArg (· = some e.2) (h e.1))
  suffices l = r by subst this; rfl
  clear h
  induction l generalizing r with
  | nil =>
    cases r with
    | nil => rfl
    | cons b r => exact absurd ((hmem b).2 List.mem_cons_self) (by simp)
  | cons a l ih =>
    cases r with
    | nil => exact absurd ((hmem a).1 List.mem_cons_self) (by simp)
    | cons b r =>
      have hab : a = b := by
        rcases List.mem_cons.1 ((hmem a).1 List.mem_cons_self) with h | h
        · exact h
        · rcases List.mem_cons.1 ((hmem b).2 List.mem_cons_self) with h' | h'
          · exact h'.symm
          · exact absurd (String.lt_trans (List.rel_of_pairwise_cons hl h')
              (List.rel_of_pairwise_cons hr h)) (String.lt_irrefl _)
      subst hab
      rw [ih hl.of_cons r hr.of_cons]
      intro e
      constructor
      · intro he
        rcases List.mem_cons.1 ((hmem e).1 (List.mem_cons_of_mem _ he)) with h | h
        · exact absurd (h ▸ List.rel_of_pairwise_cons hl he) (String.lt_irrefl _)
        · exact h
      · intro he
        rcases List.mem_cons.1 ((hmem e).2 (List.mem_cons_of_mem _ he)) with h | h
        · exact absurd (h ▸ List.rel_of_pairwise_cons hr he) (String.lt_irrefl _)
        · exact h

end NameMap

end Telemetry
