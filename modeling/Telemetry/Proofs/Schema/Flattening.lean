import Telemetry.Proofs.Json.Leaves
import Telemetry.Schema.Attribute

/-!
# Attributes of leaves that match

A rule for all paths that a pattern matches looks up every listed path anew, and takes the text of
what it finds. So a leaf that has a text gives the rule an attribute unless it is hidden
(`PatternRule.attribute_iff_not_hidden`): then the look-up ends at what hides it, and where that has
no text the rule has no attribute for the path.
-/

namespace Telemetry

open Json

variable {root leaf : Json} {path text : String}

namespace Json

def isScalar (node : Json) : Bool := node.scalar?.isSome

/-- A listed path has a text exactly if nothing without a text hides what has one. -/
theorem isSome_scalarAt?_iff (hroot : Ordered root) (hpath : path ∈ root.paths) :
    (root.scalarAt? path).isSome = true ↔ ¬Hidden isScalar root path := by
  obtain ⟨found, hfound⟩ := exists_element?_of_mem_paths hroot hpath
  rw [scalarAt?, hfound, Option.bind_some]
  show found.isScalar = true ↔ ¬Hidden isScalar root path
  exact kind_iff_not_hidden hfound

end Json

namespace PatternRule

variable {r : PatternRule}

theorem mem_attributes {e : String × String} : e ∈ r.attributes root ↔
    ∃ path text, path ∈ root.paths ∧ r.pattern.matchesIn path = true ∧
      root.scalarAt? path = some text ∧ (r.nameFor path, text) = e := by
  simp only [attributes, List.mem_filterMap, List.mem_filter, Option.map_eq_some_iff]
  constructor
  · rintro ⟨path, ⟨hpath, hmatches⟩, text, htext, he⟩
    exact ⟨path, text, hpath, hmatches, htext, he⟩
  · rintro ⟨path, text, hpath, hmatches, htext, he⟩
    exact ⟨path, ⟨hpath, hmatches⟩, text, htext, he⟩

/-- **A listed leaf is found, and gives its attribute, unless it is hidden.** The paths of a record
are those that ways to leaves spell. Something is found under each; it is a leaf that the path is
listed for exactly if no object with members is preferred to all of these. A rule that matches the
path has an attribute of it exactly if nothing without a text is preferred to all scalars that the
path leads to. If no name holds a dot, every leaf is found under its path, and every scalar leaf
whose path is matched gives its text. -/
theorem attribute_iff_not_hidden (root : Json) (hroot : Ordered root) :
    (∀ path, path ∈ root.paths ↔ ∃ leaf, ListedFor root path leaf) ∧
    (∀ path ∈ root.paths, ∃ found, root.element? path = some found ∧
      (ListedFor root path found ↔ ¬Hidden isLeaf root path)) ∧
    (∀ r : PatternRule, ∀ path ∈ root.paths, r.pattern.matchesIn path = true →
      ((∃ text, root.scalarAt? path = some text ∧ (r.nameFor path, text) ∈ r.attributes root) ↔
        ¬Hidden isScalar root path)) ∧
    (Dotless root → ∀ path leaf, ListedFor root path leaf → root.element? path = some leaf ∧
      ∀ (r : PatternRule) text, leaf.scalar? = some text → r.pattern.matchesIn path = true →
        (r.nameFor path, text) ∈ r.attributes root) := by
  refine ⟨fun path => mem_paths hroot, fun path hpath => ?_, fun r path hpath hmatches => ?_,
    fun hdotless path leaf hlisted => ?_⟩
  · obtain ⟨found, hfound⟩ := exists_element?_of_mem_paths hroot hpath
    exact ⟨found, hfound, (listedFor_iff_isLeaf hfound).trans (kind_iff_not_hidden hfound)⟩
  · rw [← isSome_scalarAt?_iff hroot hpath, Option.isSome_iff_exists]
    refine exists_congr fun text => and_iff_left_of_imp fun htext => ?_
    exact mem_attributes.mpr ⟨path, text, hpath, hmatches, htext, rfl⟩
  · have hfound := element?_of_dotless hdotless hroot hlisted
    refine ⟨hfound, fun r text htext hmatches => ?_⟩
    have hat : root.scalarAt? path = some text := by
      rw [scalarAt?, hfound, Option.bind_some, htext]
    exact mem_attributes.mpr ⟨path, text, hlisted.mem_paths hroot, hmatches, hat, rfl⟩

/-! ## Records with and without dots in names -/

/-- The rule that takes over all elements, as `.*` is read. -/
def ofAll : PatternRule where
  name := "all"
  text := ".*"
  pattern := .seq
    (.seq (.anchor .textStart) (.repeated (.set (.compl (.single '\n'))) 0 none true))
    (.anchor .textEnd)

theorem ofText_ofAll : AttributeRule.ofText "all" ".*" = .ok (.matching ofAll) := by
  have hkind : Text.dropStart? "#" ".*" = none ∧ AttributeRule.isPattern ".*" = true := by decide
  have hwhole : Pattern.whole? ".*" = some ofAll.pattern := by decide +kernel
  rw [AttributeRule.ofText, hkind.1]
  dsimp only
  rw [if_pos hkind.2, hwhole]
  rfl

def nested : Json :=
  .object [("data", .object [("cpu", .string "0.5")]), ("tags", .array []), ("up", .bool true)]

theorem nested_attribute : Ordered nested ∧ Dotless nested ∧
    ListedFor nested "data.cpu" (.string "0.5") ∧
    nested.element? "data.cpu" = some (.string "0.5") ∧
    ("data.cpu", "0.5") ∈ ofAll.attributes nested := by
  have hordered : Ordered nested := by
    refine .object (by decide) ?_
    simp only [List.forall_mem_cons]
    refine ⟨.object (by decide) ?_, .array (List.forall_mem_nil _), .bool true,
      List.forall_mem_nil _⟩
    exact List.forall_mem_singleton.mpr (.string "0.5")
  have hdotless : Dotless nested := by
    refine .object (by decide) ?_
    simp only [List.forall_mem_cons]
    refine ⟨.object (by decide) ?_, .leaf rfl, .leaf rfl, List.forall_mem_nil _⟩
    exact List.forall_mem_singleton.mpr (.leaf rfl)
  have hlisted : ListedFor nested "data.cpu" (.string "0.5") :=
    ⟨rfl, ["data", "cpu"], way_iff.mpr ⟨List.cons_ne_nil _ _, by decide, rfl⟩⟩
  obtain ⟨hfound, hgives⟩ :=
    (attribute_iff_not_hidden nested hordered).2.2.2 hdotless _ _ hlisted
  exact ⟨hordered, hdotless, hlisted, hfound, hgives ofAll "0.5" rfl (by decide +kernel)⟩

/-- A record with an object that hides a number. -/
def hidingNumber : Json :=
  .object [("a", .object [("b", .number (.int 1))]), ("a.b", .object [("c", .number (.int 2))])]

theorem paths_hidingNumber : hidingNumber.paths = ["a.b", "a.b.c"] := by
  have hleaves : hidingNumber.leafPaths none = ["a.b", "a.b.c"] := by decide
  rw [Json.paths, hleaves]
  exact List.mergeSort_of_pairwise (by decide)

/-- The path of the number leads to the object, which is no leaf, and the rule for all elements
has no attribute of it. -/
theorem hidden_number : "a.b" ∈ hidingNumber.paths ∧
    ListedFor hidingNumber "a.b" (.number (.int 1)) ∧
    hidingNumber.element? "a.b" = some (.object [("c", .number (.int 2))]) ∧
    (∀ found, hidingNumber.element? "a.b" = some found → ¬ListedFor hidingNumber "a.b" found) ∧
    AttributeRule.ofText "all" ".*" = .ok (.matching ofAll) ∧
    ofAll.pattern.matchesIn "a.b" = true ∧ ofAll.attributes hidingNumber = [("a.b.c", "2")] := by
  have hfound : hidingNumber.element? "a.b" = some (.object [("c", .number (.int 2))]) :=
    element_of_member? rfl
  refine ⟨by simp [paths_hidingNumber], ⟨rfl, ["a", "b"], way_iff.mpr ⟨by simp, by decide, rfl⟩⟩,
    hfound, fun found h hlisted => ?_, ofText_ofAll, by decide +kernel, ?_⟩
  · cases hfound.symm.trans h
    cases hlisted.isLeaf
  · rewrite [attributes, paths_hidingNumber]
    decide +kernel

end PatternRule

end Telemetry
