import Mathlib.Data.List.Basic
import Mathlib.Data.List.Induction
import Telemetry.Proofs.Configuration.Checked

/-!
# Configured definitions

What a definition makes of its properties, section by section in terms of the properties as they are
given: no section depends on what another one takes. A configuration without faults is taken over,
and any other leaves its error and no equation (`Definition.configure_cases`).

Variables stand under their own names after every history of configurations
(`Definition.namesVars_configured`).
-/

namespace Telemetry

variable {p : Properties} {name : String} {maxSeries : Nat}

theorem Variable.name_of_ofProperties {v : Variable} (h : ofProperties name p maxSeries = .ok v) :
    v.name = name := by
  unfold ofProperties at h
  obtain ⟨-, -, h⟩ := bind_eq_ok_iff.mp h
  obtain ⟨bound, -, h⟩ := bind_eq_ok_iff.mp h
  obtain ⟨aggregation, -, h⟩ := bind_eq_ok_iff.mp h
  obtain ⟨filter, -, h⟩ := bind_eq_ok_iff.mp h
  obtain ⟨expire, -, h⟩ := bind_eq_ok_iff.mp h
  obtain ⟨type, -, h⟩ := bind_eq_ok_iff.mp h
  cases h
  cases aggregation <;> rfl

namespace Definition

/-! ## Sections -/

def declared (p : Properties) : List String := (p.subset "variables").ids

def readVar (p : Properties) (maxSeries : Nat) (name : String) :
    Except ConfigurationError Variable :=
  Variable.ofProperties name ((p.subset "variables").subset name) maxSeries

def readVars (p : Properties) (maxSeries : Nat) : NameMap Variable :=
  byName (Sections.ofProperties p maxSeries).vars

/-- A property outside of all blocks is not touched by the blocks that are taken before it. -/
theorem get?_left {key : String} (hgrouping : key ≠ "metrics.groupby")
    (hfilter : Properties.isUnder "metrics.filter" key = false)
    (hvars : Properties.isUnder "variables" key = false) :
    (((p.take "metrics.groupby").2.takeSubset "metrics.filter").2.takeSubset "variables").2.get? key
      = p.get? key := by
  rw [Properties.get?_takeSubset_of_not_under hvars,
    Properties.get?_takeSubset_of_not_under hfilter, Properties.take, NameMap.get?_erase,
    if_neg hgrouping]

theorem vars_ofProperties (p : Properties) (maxSeries : Nat) :
    (Sections.ofProperties p maxSeries).vars = (declared p).map fun name =>
      inBlock ("variables." ++ name) (readVar p maxSeries name) := by
  have hblock := subset_variables_left p
  simp only [Sections.ofProperties, Properties.takeSubset, declared, readVar] at hblock ⊢
  rw [hblock]

theorem trigger_ofProperties (p : Properties) (maxSeries : Nat) :
    (Sections.ofProperties p maxSeries).trigger = (readTrigger (declared p) (p.get? "when")).1 ∧
    (Sections.ofProperties p maxSeries).triggerKnown =
      (readTrigger (declared p) (p.get? "when")).2 := by
  have hblock := subset_variables_left p
  have hwhen := @get?_left p "when" (by decide) (by decide) (by decide)
  rw [declared, ← hblock, ← hwhen]
  exact ⟨rfl, rfl⟩

theorem equation_ofProperties (p : Properties) (maxSeries : Nat) :
    (Sections.ofProperties p maxSeries).equation =
      readEquation (declared p) (readVars p maxSeries) (p.get? "value") := by
  have hblock := subset_variables_left p
  have hvalue := @get?_left p "value" (by decide) (by decide) (by decide)
  have herase : ∀ q : Properties, (q.erase "when").get? "value" = q.get? "value" := by
    intro q
    rw [NameMap.get?_erase, if_neg (by decide)]
  rw [declared, ← hblock, ← hvalue, ← herase]
  rfl

theorem anyVars_ofProperties (p : Properties) (maxSeries : Nat) :
    (Sections.ofProperties p maxSeries).anyVars =
      if (declared p).isEmpty then .error (.missing "variables") else .ok () := by
  rw [declared, ← subset_variables_left p]
  rfl

/-! ## Variables by name -/

/-- A variable that can be read is there under its name, and nothing else is. -/
theorem get?_readVars (p : Properties) (maxSeries : Nat) (name : String) :
    (readVars p maxSeries).get? name =
      if name ∈ declared p then (readVar p maxSeries name).toOption else none := by
  have hread : ((Sections.ofProperties p maxSeries).vars.filterMap Except.toOption).map
        (fun v => (v.name, v)) =
      (declared p).filterMap fun name => (readVar p maxSeries name).toOption.map (name, ·) := by
    rw [vars_ofProperties, List.filterMap_map, List.map_filterMap]
    refine List.filterMap_congr fun name _ => ?_
    rw [Function.comp_apply, toOption_inBlock]
    cases hvar : readVar p maxSeries name with
    | error e => rfl
    | ok v => simp [Except.toOption, Variable.name_of_ofProperties hvar]
  have hnames : (((declared p).filterMap fun name =>
      (readVar p maxSeries name).toOption.map (name, ·)).map Prod.fst).Nodup := by
    refine List.pairwise_map.mpr ((NameMap.sortedNames_pairwise _).filterMap _ ?_)
    intro x x' hlt e he e' he' hsame
    obtain ⟨v, -, rfl⟩ := Option.map_eq_some_iff.mp he
    obtain ⟨v', -, rfl⟩ := Option.map_eq_some_iff.mp he'
    obtain rfl : x = x' := hsame
    exact String.lt_irrefl _ hlt
  refine Option.ext fun v => ?_
  rw [readVars, byName, hread, NameMap.get?_ofList_of_nodup hnames]
  simp

def NamesVars (d : Definition) : Prop := ∀ name v, d.vars.get? name = some v → v.name = name

theorem name_of_get?_byName {read : List (Except ConfigurationError Variable)} {v : Variable}
    (h : (byName read).get? name = some v) : v.name = name := by
  have hmem := NameMap.mem_entries_ofList (NameMap.get?_eq_some_iff.mp h)
  obtain ⟨v', -, heq⟩ := List.mem_map.mp hmem
  cases heq
  rfl

/-! ## Configurations -/

/-- A configuration without faults is taken over. One with faults leaves an error and no equation,
and the variables as they were. -/
theorem configure_cases (d : Definition) (p : Properties) (maxSeries : Nat) :
    (Sections.ofProperties p maxSeries).errors = [] ∧
        (d.configure p maxSeries).1 = .ok () ∧ (d.configure p maxSeries).2.error = none ∧
        (d.configure p maxSeries).2.equation =
          (Sections.ofProperties p maxSeries).equation.toOption.join ∧
        (d.configure p maxSeries).2.vars = readVars p maxSeries ∨
      ∃ e, (d.configure p maxSeries).1 = .error e ∧ (d.configure p maxSeries).2.error = some e ∧
        (d.configure p maxSeries).2.equation = none ∧
        (d.configure p maxSeries).2.vars = d.vars := by
  cases hcollect : ConfigurationError.collect (Sections.ofProperties p maxSeries).errors with
  | ok _ =>
      refine .inl ⟨ConfigurationError.eq_nil_of_collect (isFlat_of_mem_errors p maxSeries) hcollect,
        ?_⟩
      simp [configure, hcollect, readVars]
  | error e =>
      refine .inr ⟨e, ?_⟩
      simp [configure, hcollect]

theorem trigger_configure (d : Definition) (p : Properties) (maxSeries : Nat) :
    (d.configure p maxSeries).2.trigger = (readTrigger (declared p) (p.get? "when")).1 := by
  rw [← (trigger_ofProperties p maxSeries).1]
  unfold configure
  dsimp only
  split <;> rfl

theorem name_configure (d : Definition) (p : Properties) (maxSeries : Nat) :
    (d.configure p maxSeries).2.name = d.name := by
  unfold configure
  dsimp only
  split <;> rfl

/-- The definition after configurations, one after the other. Any of them may be in error. -/
def configured (name : String) (history : List (Properties × Nat)) : Definition :=
  history.foldl (fun d c => (d.configure c.1 c.2).2) (unconfigured name)

theorem configured_concat (name : String) (history : List (Properties × Nat)) (p : Properties)
    (maxSeries : Nat) : configured name (history ++ [(p, maxSeries)]) =
      ((configured name history).configure p maxSeries).2 := by
  rw [configured, List.foldl_append]
  rfl

theorem name_configured (name : String) (history : List (Properties × Nat)) :
    (configured name history).name = name := by
  induction history using List.reverseRecOn with
  | nil => rfl
  | append_singleton history c ih => rw [configured_concat, name_configure, ih]

theorem namesVars_configured (name : String) (history : List (Properties × Nat)) :
    (configured name history).NamesVars := by
  induction history using List.reverseRecOn with
  | nil => exact fun _ _ h => by cases h
  | append_singleton history c ih =>
      rw [configured_concat]
      intro x v hv
      rcases configure_cases (configured name history) c.1 c.2 with ⟨-, -, -, -, hvars⟩ |
        ⟨e, -, -, -, hvars⟩
      · exact name_of_get?_byName (hvars ▸ hv)
      · exact ih x v (hvars ▸ hv)

end Definition

end Telemetry
