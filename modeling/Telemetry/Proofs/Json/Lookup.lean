import Telemetry.Json.Path

/-!
# Paths lead to the elements that they spell

Names lead from an element to the members of members (`Json.follow?`). With dots between them they
spell a path, and as names may be empty or hold dots themselves, several ways may spell the same
path (`Json.Way`). The look-up of a path finds an element exactly if there is a way, and of all ways
it takes the one with the longest first name, then the longest second name, and so on
(`Json.element_best_way`).

The proof is by induction on the length of the path. The cuts of a path are its splits at dots, the
longest first part first (`Json.pairwise_cuts`), so whatever is tried in vain before a cut has no
way at all, and whatever comes after it begins with a shorter name.
-/

namespace Telemetry.Json

variable {node child found found' : Json} {path head tail : List Char} {name : String}
  {names names' rest : List String}

/-! ## Ways -/

def follow? (node : Json) : List String → Option Json
  | [] => some node
  | name :: rest => (node.member? name).bind fun child => child.follow? rest

/-- The names lead from `node` to `found`, and with dots between them they are the path. -/
structure Way (node : Json) (path : List Char) (names : List String) (found : Json) : Prop where
  nonempty : names ≠ []
  spells : (".".intercalate names).toList = path
  leads : node.follow? names = some found

/-- The first name that differs is longer. -/
inductive Prefers : List String → List String → Prop
  | longer {name name' : String} {names names' : List String} (h : name'.length < name.length) :
      Prefers (name :: names) (name' :: names')
  | tail {name : String} {names names' : List String} (h : Prefers names names') :
      Prefers (name :: names) (name :: names')

/-- A way that is preferred to all others that spell the same path. -/
structure BestWay (node : Json) (path : List Char) (names : List String) (found : Json) : Prop
    extends Way node path names found where
  best : ∀ names' found', Way node path names' found' → names' = names ∨ Prefers names names'

theorem Prefers.asymm (h : Prefers names names') : ¬ Prefers names' names := by
  induction h with
  | longer hlt =>
      intro h'
      cases h' with
      | longer hlt' => omega
      | tail h' => omega
  | tail _ ih =>
      intro h'
      cases h' with
      | longer hlt' => omega
      | tail h' => exact ih h'

theorem Way.found_eq (h : Way node path names found) (h' : Way node path names found') :
    found = found' :=
  Option.some.inj (h.leads.symm.trans h'.leads)

theorem BestWay.names_eq (h : BestWay node path names found)
    (h' : BestWay node path names' found') : names = names' := by
  rcases h.best _ _ h'.toWay with heq | hprefers
  · exact heq.symm
  · rcases h'.best _ _ h.toWay with heq | hprefers'
    · exact heq
    · exact absurd hprefers' hprefers.asymm

theorem follow?_single : node.follow? [name] = node.member? name := by
  rw [follow?]
  cases node.member? name <;> rfl

theorem way_single (h : node.member? (String.ofList path) = some found) :
    Way node path [String.ofList path] found :=
  ⟨List.cons_ne_nil _ _, by simp, follow?_single.trans h⟩

theorem way_cons (hchild : node.member? (String.ofList head) = some child)
    (h : Way child tail rest found) :
    Way node (head ++ '.' :: tail) (String.ofList head :: rest) found := by
  obtain ⟨hne, rfl, hleads⟩ := h
  obtain ⟨next, more, rfl⟩ := List.exists_cons_of_ne_nil hne
  refine ⟨List.cons_ne_nil _ _, ?_, ?_⟩
  · simp [String.intercalate_cons_cons]
  · rw [follow?, hchild]
    exact hleads

/-- A way is a member whose name is the whole path, or it goes on behind a dot. -/
theorem Way.cases (h : Way node path names found) :
    (names = [String.ofList path] ∧ node.member? (String.ofList path) = some found) ∨
    ∃ head tail child rest, path = head ++ '.' :: tail ∧ names = String.ofList head :: rest ∧
      node.member? (String.ofList head) = some child ∧ Way child tail rest found := by
  obtain ⟨hne, rfl, hleads⟩ := h
  obtain ⟨name, rest, rfl⟩ := List.exists_cons_of_ne_nil hne
  cases rest with
  | nil =>
      left
      rw [follow?_single] at hleads
      simp [hleads]
  | cons next more =>
      right
      obtain ⟨child, hchild, hrest⟩ := Option.bind_eq_some_iff.mp hleads
      refine ⟨name.toList, (".".intercalate (next :: more)).toList, child, next :: more, ?_, ?_, ?_,
        List.cons_ne_nil _ _, rfl, hrest⟩
      · simp [String.intercalate_cons_cons]
      · rw [String.ofList_toList]
      · rw [String.ofList_toList, hchild]

/-! ## Cuts -/

theorem mem_cuts : (head, tail) ∈ cuts path ↔ path = head ++ '.' :: tail := by
  constructor
  · exact eq_append_of_mem_cuts
  · rintro rfl
    induction head with
    | nil => simp [cuts]
    | cons c head ih =>
        rw [List.cons_append, cuts]
        exact List.mem_append_left _ (List.mem_map.mpr ⟨_, ih, rfl⟩)

/-- A cut that is tried later has a shorter first part. -/
theorem pairwise_cuts (path : List Char) :
    (cuts path).Pairwise fun p q => q.1.length < p.1.length := by
  induction path with
  | nil => exact List.Pairwise.nil
  | cons c path ih =>
      rw [cuts, List.pairwise_append, List.pairwise_map]
      refine ⟨ih.imp fun h => Nat.succ_lt_succ h, ?_, ?_⟩
      · split
        · exact List.pairwise_singleton _ _
        · exact List.Pairwise.nil
      · intro p hp q hq
        obtain ⟨p, -, rfl⟩ := List.mem_map.mp hp
        split at hq
        · obtain rfl := List.mem_singleton.mp hq
          exact Nat.succ_pos _
        · cases hq

/-! ## The look-up -/

/-- A member with the name of the whole path is taken at once. -/
theorem element_of_member? (h : node.member? (String.ofList path) = some found) :
    node.element path = some found := by
  rw [element, h]

theorem element_of_not_member? (h : node.member? (String.ofList path) = none) :
    node.element path = (cuts path).findSome? fun p =>
      (node.member? (String.ofList p.1)).bind fun child => child.element p.2 := by
  rw [element, h]
  dsimp only
  rw [List.findSome?_subtype (g := fun p : List Char × List Char =>
    (node.member? (String.ofList p.1)).bind fun child => child.element p.2)]
  · rw [List.unattach_attach]
  · rintro ⟨head, tail⟩ _
    cases node.member? (String.ofList head) <;> rfl

theorem length_of_mem_cuts (h : (head, tail) ∈ cuts path) :
    head.length < path.length ∧ tail.length < path.length := by
  rw [mem_cuts.mp h, List.length_append, List.length_cons]
  omega

/-- Where there is a way, something is found. -/
theorem Way.isSome_element (h : Way node path names found) : (node.element path).isSome = true := by
  induction hlen : path.length using Nat.strongRecOn generalizing node path names with
  | ind n ih =>
      subst hlen
      cases hwhole : node.member? (String.ofList path) with
      | some found => rw [element_of_member? hwhole, Option.isSome_some]
      | none =>
          rcases h.cases with ⟨-, hmember⟩ | ⟨head, tail, child, rest, hpath, -, hchild, hrest⟩
          · rw [hwhole] at hmember
            cases hmember
          · have hcut : (head, tail) ∈ cuts path := mem_cuts.mpr hpath
            rw [element_of_not_member? hwhole, List.findSome?_isSome_iff]
            refine ⟨_, hcut, ?_⟩
            rw [hchild]
            exact ih _ (length_of_mem_cuts hcut).2 hrest rfl

/-- A member whose name is the whole path is preferred to all that a cut leads to. -/
theorem bestWay_single (h : node.member? (String.ofList path) = some found) :
    BestWay node path [String.ofList path] found := by
  refine ⟨way_single h, fun names' found' h' => ?_⟩
  rcases h'.cases with ⟨rfl, -⟩ | ⟨head, tail, child, rest, hpath, rfl, -, -⟩
  · exact Or.inl rfl
  · right
    refine .longer ?_
    rw [String.length_ofList, String.length_ofList]
    exact (length_of_mem_cuts (mem_cuts.mpr hpath)).1

/-- The best way behind the first cut that leads on is the best of all, if no member has the name
of the whole path. -/
theorem bestWay_cons {before after : List (List Char × List Char)}
    (hwhole : node.member? (String.ofList path) = none)
    (hcuts : cuts path = before ++ (head, tail) :: after)
    (hbefore : ∀ p ∈ before,
      ((node.member? (String.ofList p.1)).bind fun child => child.element p.2) = none)
    (hchild : node.member? (String.ofList head) = some child) (h : BestWay child tail rest found) :
    BestWay node path (String.ofList head :: rest) found := by
  have hcut : (head, tail) ∈ cuts path := by simp [hcuts]
  obtain rfl := mem_cuts.mp hcut
  refine ⟨way_cons hchild h.toWay, fun names' found' h' => ?_⟩
  rcases h'.cases with ⟨-, hmember⟩ | ⟨head', tail', child', rest', hpath, rfl, hchild', hrest⟩
  · rw [hwhole] at hmember
    cases hmember
  have hcut' : (head', tail') ∈ before ++ (head, tail) :: after := hcuts ▸ mem_cuts.mpr hpath
  rcases List.mem_append.mp hcut' with hmem | hmem
  · -- there is no way behind a cut that was tried in vain
    have hnone := hbefore _ hmem
    rw [hchild', Option.bind_some] at hnone
    have hsome := hrest.isSome_element
    rw [hnone] at hsome
    cases hsome
  rcases List.mem_cons.mp hmem with heq | hmem
  · obtain ⟨rfl, rfl⟩ := Prod.mk.inj heq
    rw [hchild] at hchild'
    obtain rfl := Option.some.inj hchild'
    exact (h.best _ _ hrest).imp (congrArg _) .tail
  · have hpairwise := pairwise_cuts (head ++ '.' :: tail)
    rw [hcuts, List.pairwise_append] at hpairwise
    have hlt : head'.length < head.length := List.rel_of_pairwise_cons hpairwise.2.1 hmem
    right
    refine .longer ?_
    rwa [String.length_ofList, String.length_ofList]

/-- What is found is where the best way leads. -/
theorem exists_bestWay (h : node.element path = some found) :
    ∃ names, BestWay node path names found := by
  induction hlen : path.length using Nat.strongRecOn generalizing node path with
  | ind n ih =>
      subst hlen
      cases hwhole : node.member? (String.ofList path) with
      | some found' =>
          rw [element_of_member? hwhole] at h
          obtain rfl := Option.some.inj h
          exact ⟨_, bestWay_single hwhole⟩
      | none =>
          rw [element_of_not_member? hwhole, List.findSome?_eq_some_iff] at h
          obtain ⟨before, ⟨head, tail⟩, after, hcuts, hfound, hbefore⟩ := h
          obtain ⟨child, hchild, hfound⟩ := Option.bind_eq_some_iff.mp hfound
          have hcut : (head, tail) ∈ cuts path := by simp [hcuts]
          obtain ⟨rest, hrest⟩ := ih _ (length_of_mem_cuts hcut).2 hfound rfl
          exact ⟨_, bestWay_cons hwhole hcuts hbefore hchild hrest⟩

theorem element_eq_some_iff :
    node.element path = some found ↔ ∃ names, BestWay node path names found := by
  refine ⟨exists_bestWay, ?_⟩
  rintro ⟨names, h⟩
  obtain ⟨found', hfound⟩ := Option.isSome_iff_exists.mp h.toWay.isSome_element
  obtain ⟨names', h'⟩ := exists_bestWay hfound
  obtain rfl := h.names_eq h'
  rw [hfound, h.toWay.found_eq h'.toWay]

theorem way_iff {path : String} : Way node path.toList names found ↔
    names ≠ [] ∧ ".".intercalate names = path ∧ node.follow? names = some found := by
  constructor
  · rintro ⟨hne, hspells, hleads⟩
    exact ⟨hne, String.toList_inj.mp hspells, hleads⟩
  · rintro ⟨hne, rfl, hleads⟩
    exact ⟨hne, rfl, hleads⟩

/-- **A path leads to the elements that it spells.** The look-up finds something exactly if names
that are joined by dots to the path lead somewhere. What it finds is where those of them lead of
which the first name is longest, then the second, and so on. -/
theorem element_best_way (node : Json) (path : String) :
    ((node.element? path).isSome = true ↔
      ∃ names found, names ≠ [] ∧ ".".intercalate names = path ∧
        node.follow? names = some found) ∧
    ∀ found, node.element? path = some found ↔
      ∃ names, (names ≠ [] ∧ ".".intercalate names = path ∧ node.follow? names = some found) ∧
        ∀ names' found', names' ≠ [] ∧ ".".intercalate names' = path ∧
          node.follow? names' = some found' → names' = names ∨ Prefers names names' := by
  simp only [← way_iff]
  refine ⟨⟨?_, ?_⟩, fun found => ?_⟩
  · intro h
    obtain ⟨found, hfound⟩ := Option.isSome_iff_exists.mp h
    obtain ⟨names, hnames⟩ := exists_bestWay hfound
    exact ⟨names, found, hnames.toWay⟩
  · rintro ⟨names, found, h⟩
    exact h.isSome_element
  · rw [element?, element_eq_some_iff]
    refine exists_congr fun names => ?_
    constructor
    · intro h
      exact ⟨h.toWay, h.best⟩
    · rintro ⟨h, hbest⟩
      exact ⟨h, hbest⟩

/-- A longer name is preferred, but here it does not lead on. -/
example : (Json.object [("a", .object [("b.c", .bool true)]), ("a.b", .object [])]).scalarAt?
    "a.b.c" = some "true" := by
  cbv

end Telemetry.Json
