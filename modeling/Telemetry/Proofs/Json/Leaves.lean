import Telemetry.Json.Written
import Telemetry.Proofs.Json.Lookup
import Telemetry.Proofs.NameMap

/-!
# What is found under a listed path

What is read is in order (`Json.ordered_of_read?`), and the paths of a document in order are those
that spell ways to its leaves (`Json.mem_paths`). The look-up of such a path finds something, but
not always a leaf: as several ways may spell one path, a preferred one may lead to an object, or to
a leaf of another kind, and hide the leaf for which the path was listed
(`Json.kind_iff_not_hidden`). If no name holds a dot, a path is spelled by one way only, and what it
is listed for is what is found (`Json.element?_of_dotless`).
-/

namespace Telemetry.Json

variable {node root child found leaf : Json} {name path : String} {names : List String}
  {above : Option String}

/-! ## Documents in order -/

/-- The members of every object stand in increasing order of their names, each name once. -/
inductive Ordered : Json → Prop
  | null : Ordered .null
  | bool (b : Bool) : Ordered (.bool b)
  | number (n : Number) : Ordered (.number n)
  | string (s : String) : Ordered (.string s)
  | array {items : List Json} (hitems : ∀ v ∈ items, Ordered v) : Ordered (.array items)
  | object {members : List (String × Json)} (hnames : members.Pairwise fun a b => a.1 < b.1)
      (hmembers : ∀ m ∈ members, Ordered m.2) : Ordered (.object members)

mutual

theorem ordered_of_toJson? {levels : Nat} {v : Json} (w : Written)
    (h : w.toJson? levels = some v) : Ordered v := by
  match w, levels with
  | .null, _ =>
      cases h
      exact .null
  | .bool b, _ =>
      cases h
      exact .bool b
  | .number n, _ =>
      obtain ⟨n, -, rfl⟩ := Option.map_eq_some_iff.mp h
      exact .number n
  | .string s, _ =>
      obtain ⟨s, -, rfl⟩ := Option.map_eq_some_iff.mp h
      exact .string s
  | .array items, 0 => cases h
  | .object members, 0 => cases h
  | .array items, levels + 1 =>
      obtain ⟨vs, hitems, rfl⟩ := Option.map_eq_some_iff.mp h
      exact .array (ordered_of_itemsToJson? items hitems)
  | .object members, levels + 1 =>
      obtain ⟨ms, hmembers, rfl⟩ := Option.map_eq_some_iff.mp h
      refine .object (NameMap.ofList ms).ordered fun m hm => ?_
      exact ordered_of_membersToJson? members hmembers m (NameMap.mem_entries_ofList hm)

theorem ordered_of_itemsToJson? {levels : Nat} {vs : List Json} (items : List Written)
    (h : Written.itemsToJson? levels items = some vs) : ∀ v ∈ vs, Ordered v := by
  match items with
  | [] =>
      cases h
      intro v hv
      cases hv
  | w :: rest =>
      rw [Written.itemsToJson?] at h
      simp only [Option.bind_eq_bind, Option.bind_eq_some_iff, Option.pure_def,
        Option.some.injEq] at h
      obtain ⟨v, hv, more, hmore, rfl⟩ := h
      exact List.forall_mem_cons.mpr ⟨ordered_of_toJson? w hv, ordered_of_itemsToJson? rest hmore⟩

theorem ordered_of_membersToJson? {levels : Nat} {ms : List (String × Json)}
    (members : List (Option String × Written))
    (h : Written.membersToJson? levels members = some ms) : ∀ m ∈ ms, Ordered m.2 := by
  match members with
  | [] =>
      cases h
      intro m hm
      cases hm
  | (name, w) :: rest =>
      rw [Written.membersToJson?] at h
      simp only [Option.bind_eq_bind, Option.bind_eq_some_iff, Option.pure_def,
        Option.some.injEq] at h
      obtain ⟨name, -, v, hv, more, hmore, rfl⟩ := h
      exact List.forall_mem_cons.mpr
        ⟨ordered_of_toJson? w hv, ordered_of_membersToJson? rest hmore⟩

end

/-- What is read is in order. -/
theorem ordered_of_read? {text : String} (h : read? text = some root) : Ordered root := by
  obtain ⟨w, -, hw⟩ := Option.bind_eq_some_iff.mp h
  exact ordered_of_toJson? w hw

/-- In a document in order, members are found by their names. -/
theorem member?_eq_some_iff {members : List (String × Json)}
    (h : members.Pairwise fun a b => a.1 < b.1) :
    (object members).member? name = some child ↔ (name, child) ∈ members :=
  NameMap.findEntry_eq_some_iff h

/-! ## Leaves -/

def isLeaf : Json → Bool
  | .object (_ :: _) => false
  | _ => true

theorem leafPaths_of_isLeaf (h : node.isLeaf = true) : node.leafPaths above = above.toList := by
  cases node with
  | object members =>
      cases members with
      | nil => rfl
      | cons m rest => cases h
  | _ => rfl

theorem member?_of_isLeaf (h : node.isLeaf = true) : node.member? name = none := by
  cases node with
  | object members =>
      cases members with
      | nil => rfl
      | cons m rest => cases h
  | _ => rfl

/-- No names lead on from a leaf. -/
theorem follow?_of_isLeaf (h : node.isLeaf = true) :
    node.follow? names = some found ↔ names = [] ∧ node = found := by
  cases names with
  | nil => simp [follow?]
  | cons name rest => simp [follow?, member?_of_isLeaf h]

theorem mem_memberPaths {members : List (String × Json)} :
    path ∈ memberPaths above members ↔
      ∃ m ∈ members, path ∈ m.2.leafPaths (some (extend above m.1)) := by
  induction members with
  | nil => simp [memberPaths]
  | cons m rest ih => simp [memberPaths, ih]

def behind (above : Option String) (names : List String) : Option String :=
  names.foldl (fun above name => some (extend above name)) above

theorem behind_some (prefixed : String) (names : List String) :
    behind (some prefixed) names = some (".".intercalate (prefixed :: names)) := by
  induction names generalizing prefixed with
  | nil => simp [behind]
  | cons name rest ih => exact ih (prefixed ++ "." ++ name)

theorem behind_none (h : names ≠ []) : behind none names = some (".".intercalate names) := by
  obtain ⟨name, rest, rfl⟩ := List.exists_cons_of_ne_nil h
  exact behind_some name rest

/-- The paths behind a path are those that ways to leaves spell. -/
theorem mem_leafPaths (h : Ordered node) : path ∈ node.leafPaths above ↔
    ∃ names leaf, node.follow? names = some leaf ∧ leaf.isLeaf = true ∧
      behind above names = some path := by
  -- at a leaf, only no names at all lead to one
  have hleaf {node : Json} {above : Option String} (hnode : node.isLeaf = true) :
      path ∈ node.leafPaths above ↔
        ∃ names leaf, node.follow? names = some leaf ∧ leaf.isLeaf = true ∧
          behind above names = some path := by
    rw [leafPaths_of_isLeaf hnode, Option.mem_toList]
    constructor
    · intro habove
      exact ⟨[], node, rfl, hnode, habove⟩
    · rintro ⟨names, leaf, hfollow, -, hpath⟩
      obtain ⟨rfl, -⟩ := (follow?_of_isLeaf hnode).mp hfollow
      exact hpath
  induction h generalizing above with
  | null | bool | number | string | array => exact hleaf rfl
  | @object members hnames hmembers ih =>
      cases members with
      | nil => exact hleaf rfl
      | cons first rest =>
          rw [leafPaths, mem_memberPaths]
          constructor
          · rintro ⟨⟨name, child⟩, hm, hpath⟩
            obtain ⟨names, leaf, hfollow, hleaf, hbehind⟩ := (ih _ hm).mp hpath
            refine ⟨name :: names, leaf, ?_, hleaf, hbehind⟩
            rw [follow?, (member?_eq_some_iff hnames).mpr hm]
            exact hfollow
          · rintro ⟨names, leaf, hfollow, hleaf, hbehind⟩
            cases names with
            | nil =>
                cases hfollow
                cases hleaf
            | cons name names =>
                obtain ⟨child, hchild, hfollow⟩ := Option.bind_eq_some_iff.mp hfollow
                have hm := (member?_eq_some_iff hnames).mp hchild
                exact ⟨_, hm, (ih _ hm).mpr ⟨names, leaf, hfollow, hleaf, hbehind⟩⟩

structure ListedFor (root : Json) (path : String) (leaf : Json) : Prop where
  isLeaf : leaf.isLeaf = true
  spelled : ∃ names, Way root path.toList names leaf

theorem mem_paths (h : Ordered root) : path ∈ root.paths ↔ ∃ leaf, ListedFor root path leaf := by
  rw [paths, List.mem_mergeSort, mem_leafPaths h]
  constructor
  · rintro ⟨names, leaf, hfollow, hleaf, hbehind⟩
    have hne : names ≠ [] := by
      rintro rfl
      cases hbehind
    rw [behind_none hne] at hbehind
    exact ⟨leaf, hleaf, names, way_iff.mpr ⟨hne, Option.some.inj hbehind, hfollow⟩⟩
  · rintro ⟨leaf, hleaf, names, hway⟩
    obtain ⟨hne, hspells, hfollow⟩ := way_iff.mp hway
    exact ⟨names, leaf, hfollow, hleaf, (behind_none hne).trans (congrArg some hspells)⟩

theorem exists_element?_of_mem_paths (h : Ordered root) (hpath : path ∈ root.paths) :
    ∃ found, root.element? path = some found := by
  obtain ⟨leaf, -, names, hway⟩ := (mem_paths h).mp hpath
  exact Option.isSome_iff_exists.mp hway.isSome_element

theorem ListedFor.mem_paths (h : ListedFor root path leaf) (hroot : Ordered root) :
    path ∈ root.paths :=
  (Json.mem_paths hroot).mpr ⟨leaf, h⟩

/-! ## Elements that are hidden -/

variable {kind : Json → Bool}

/-- A way to an element of another kind is preferred to all ways to elements of the kind. -/
def Hidden (kind : Json → Bool) (root : Json) (path : String) : Prop :=
  ∃ names found, Way root path.toList names found ∧ kind found = false ∧
    ∀ names' found', Way root path.toList names' found' → kind found' = true →
      Prefers names names'

/-- What is found is of a kind exactly if nothing of another kind hides the elements of the kind. -/
theorem kind_iff_not_hidden (h : root.element? path = some found) :
    kind found = true ↔ ¬Hidden kind root path := by
  obtain ⟨names, hbest⟩ := exists_bestWay h
  constructor
  · rintro hkind ⟨names', found', hway, hother, hprefers⟩
    have hprefers' := hprefers names found hbest.toWay hkind
    rcases hbest.best names' found' hway with rfl | hcontrary
    · exact hprefers'.asymm hprefers'
    · exact hcontrary.asymm hprefers'
  · intro hhidden
    by_contra hkind
    apply hhidden
    refine ⟨names, found, hbest.toWay, by simpa using hkind, ?_⟩
    intro names' found' hway h'
    rcases hbest.best names' found' hway with rfl | hprefers
    · rw [hway.found_eq hbest.toWay] at h'
      exact absurd h' hkind
    · exact hprefers

/-- A leaf that is found is one that the path is listed for. -/
theorem listedFor_iff_isLeaf (h : root.element? path = some found) :
    ListedFor root path found ↔ found.isLeaf = true := by
  constructor
  · exact ListedFor.isLeaf
  · intro hleaf
    obtain ⟨names, hbest⟩ := exists_bestWay h
    exact ⟨hleaf, names, hbest.toWay⟩

/-! ## Names without dots -/

inductive Dotless : Json → Prop
  | leaf {node : Json} (h : node.isLeaf = true) : Dotless node
  | object {members : List (String × Json)} (hnames : ∀ m ∈ members, '.' ∉ m.1.toList)
      (hmembers : ∀ m ∈ members, Dotless m.2) : Dotless (.object members)

theorem Dotless.of_follow? (h : Dotless root) (hroot : Ordered root)
    (hfollow : root.follow? names = some found) : ∀ name ∈ names, '.' ∉ name.toList := by
  induction h generalizing names with
  | leaf hleaf =>
      obtain ⟨rfl, -⟩ := (follow?_of_isLeaf hleaf).mp hfollow
      exact List.forall_mem_nil _
  | object hnames _ ih =>
      cases hroot with
      | object hordered hmembers =>
          cases names with
          | nil => exact List.forall_mem_nil _
          | cons name rest =>
              obtain ⟨child, hchild, hfollow⟩ := Option.bind_eq_some_iff.mp hfollow
              have hm := (member?_eq_some_iff hordered).mp hchild
              exact List.forall_mem_cons.mpr ⟨hnames _ hm, ih _ hm (hmembers _ hm) hfollow⟩

/-- Names without dots can be told from the path that they spell. -/
theorem splitOn_intercalate (hne : names ≠ []) (h : ∀ name ∈ names, '.' ∉ name.toList) :
    (".".intercalate names).toList.splitOn '.' = names.map String.toList := by
  rw [String.toList_intercalate]
  exact List.splitOn_intercalate '.' (List.forall_mem_map.mpr h) (by simpa using hne)

/-- Where no name holds a dot, a listed path leads to what it is listed for. -/
theorem element?_of_dotless (h : Dotless root) (hroot : Ordered root)
    (hlisted : ListedFor root path leaf) : root.element? path = some leaf := by
  obtain ⟨-, names, hway⟩ := hlisted
  refine element_eq_some_iff.mpr ⟨names, hway, fun names' found' hway' => Or.inl ?_⟩
  obtain ⟨hne, rfl, hfollow⟩ := way_iff.mp hway
  obtain ⟨hne', hspells, hfollow'⟩ := way_iff.mp hway'
  have hnames := splitOn_intercalate hne (h.of_follow? hroot hfollow)
  rw [← hspells, splitOn_intercalate hne' (h.of_follow? hroot hfollow')] at hnames
  exact (List.map_inj_right fun _ _ => String.toList_inj.mp).mp hnames

end Telemetry.Json
