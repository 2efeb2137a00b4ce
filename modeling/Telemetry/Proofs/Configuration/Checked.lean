import Telemetry.Definition.Basic
import Telemetry.Proofs.Configuration.Blocks
import Telemetry.Proofs.Configuration.Faults
import Telemetry.Schema.Basic

/-!
# Blocks that are checked

Every block of a schema or a definition reports flat errors, and none of its properties goes
unseen: if a block is accepted, it knows all of them. What a schema or a definition reports are the
errors of its blocks and a few of its own (`Schema.forall_mem_errors`,
`Definition.isFlat_of_mem_errors`).
-/

namespace Telemetry

open ConfigurationError (qualified IsFlat isFlat_missing isFlat_invalid isFlat_unused)

variable {p : Properties} {key id name : String}

/-! ## Steps that fail flat -/

section Steps

variable {α : Type} {r : Except ConfigurationError α} {read? : String → Except Reason α}

theorem failsFlat_inBlock {block : String} (h : FailsWith IsFlat r) :
    FailsWith IsFlat (inBlock block r) :=
  h.inBlock fun _ => IsFlat.within

theorem Properties.failsFlat_takeRequired : FailsWith IsFlat (p.takeRequired key).1 :=
  failsWith_takeRequired (isFlat_missing key)

theorem Properties.failsFlat_confirmAllUsed : FailsWith IsFlat p.confirmAllUsed :=
  failsWith_confirmAllUsed isFlat_unused

/-- A reading fails flat, and takes the name away. -/
theorem Properties.exists_takeRead (read? : String → Except Reason α) (p : Properties)
    (key : String) :
    ∃ r, FailsWith IsFlat r ∧ p.takeRead read? key = (r, p.erase key) :=
  ⟨_, failsWith_takeRead (isFlat_invalid key), Prod.ext rfl (takeRead_snd read? p key)⟩

end Steps

/-! ## Filters -/

theorem Rule.failsFlat_ofText (key text : String) : FailsWith IsFlat (ofText key text) := by
  unfold ofText
  dsimp only
  split
  · exact failsWith_ok _
  · exact failsWith_error (isFlat_invalid _ _ _)

namespace Filter

/-- A filter fails flat. If it does not fail, nothing is left. -/
theorem ofProperties_checked (p : Properties) : FailsWith IsFlat (ofProperties p) ∧
    ∀ f, ofProperties p = .ok f → (p.takeSubset "attribute").2.confirmAllUsed = .ok () := by
  have hflat : ∀ e ∈
      ((p.takeSubset "attribute").1.entries.map fun e => Rule.ofText e.1 e.2).flatMap faults ++
        faults (p.takeSubset "attribute").2.confirmAllUsed, e.IsFlat := by
    refine List.forall_mem_append.mpr ⟨?_, Properties.failsFlat_confirmAllUsed.faults⟩
    refine forall_mem_flatMap_faults (List.forall_mem_map.mpr ?_)
    exact fun rule _ => Rule.failsFlat_ofText rule.1 rule.2
  constructor
  · exact (failsWith_collect hflat).bind fun _ => failsWith_ok _
  · intro f h
    obtain ⟨⟨⟩, hcollect, -⟩ := bind_eq_ok_iff.mp h
    have hfaults := ConfigurationError.eq_nil_of_collect hflat hcollect
    obtain ⟨⟨⟩, hleft⟩ := exists_ok_of_faults (List.append_eq_nil_iff.mp hfaults).2
    exact hleft

/-- All properties of a filter are rules for attributes. -/
theorem exists_attribute_of_ofProperties {f : Filter} (h : ofProperties p = .ok f)
    (hkey : key ∈ p.keys) : ∃ name, key = qualified "attribute" name := by
  have hleft := (ofProperties_checked p).2 f h
  rcases Properties.mem_subset_or_mem_left "attribute" hkey with ⟨param, -, rfl⟩ | hkey
  · exact ⟨param, rfl⟩
  · exact absurd hkey (Properties.not_mem_keys_of_confirmAllUsed hleft)

end Filter

/-! ## Times and values of a record -/

namespace TimestampSource

def parameters : List String := ["key", "format"]

theorem ofProperties_checked (p : Properties) : FailsWith IsFlat (ofProperties p) ∧
    ∀ source, ofProperties p = .ok source →
      Properties.confirmAllUsed (parameters.foldl NameMap.erase p) = .ok () := by
  unfold ofProperties Properties.take
  dsimp only
  obtain ⟨format, hformat, heq⟩ := Properties.exists_takeRead TimestampFormat.ofText _ "format"
  rw [heq]
  constructor
  · exact hformat.bind fun _ => Properties.failsFlat_confirmAllUsed.bind fun _ => failsWith_ok _
  · intro source h
    obtain ⟨format, -, h⟩ := bind_eq_ok_iff.mp h
    obtain ⟨⟨⟩, hleft, -⟩ := bind_eq_ok_iff.mp h
    exact hleft

theorem mem_of_ofProperties {source : TimestampSource} (h : ofProperties p = .ok source)
    (hkey : key ∈ p.keys) : key ∈ parameters := by
  refine (Properties.mem_or_mem_foldl_erase _ hkey).resolve_right ?_
  exact Properties.not_mem_keys_of_confirmAllUsed ((ofProperties_checked p).2 source h)

end TimestampSource

namespace ValueSource

def parameters : List String := ["key", "type", "regex"]

/-- A value fails flat. If it does not fail, it has a key, and nothing is left. -/
theorem ofProperties_checked (id : String) (p : Properties) :
    FailsWith IsFlat (ofProperties id p) ∧ ∀ v, ofProperties id p = .ok v →
      "key" ∈ p.keys ∧ Properties.confirmAllUsed (parameters.foldl NameMap.erase p) = .ok () := by
  have hkey : FailsWith IsFlat (p.takeRequired "key").1 := Properties.failsFlat_takeRequired
  -- Each reading is replaced by a result that fails flat and by the set without its name.
  unfold ofProperties
  have heq : p.takeRequired "key" = ((p.takeRequired "key").1, p.erase "key") :=
    Prod.ext rfl (Properties.takeRequired_snd p "key")
  rw [heq]
  dsimp only
  obtain ⟨kind, hkind, heq⟩ := Properties.exists_takeRead ValueKind.ofText _ "type"
  rw [heq]
  dsimp only
  obtain ⟨pattern, hpattern, heq⟩ := Properties.exists_takeRead readPattern _ "regex"
  rw [heq]
  dsimp only
  have hflat (q : Properties) : ∀ e ∈ faults (p.takeRequired "key").1 ++ faults kind ++
      faults pattern ++ faults q.confirmAllUsed, e.IsFlat := by
    simp only [List.forall_mem_append]
    exact ⟨⟨⟨hkey.faults, hkind.faults⟩, hpattern.faults⟩,
      Properties.failsFlat_confirmAllUsed.faults⟩
  constructor
  · exact (failsWith_collect (hflat _)).bind fun _ => hkey.bind fun _ => hkind.bind fun _ =>
      hpattern.bind fun _ => failsWith_ok _
  · intro v h
    obtain ⟨⟨⟩, hcollect, h⟩ := bind_eq_ok_iff.mp h
    obtain ⟨raw, hraw, -⟩ := bind_eq_ok_iff.mp h
    have hfaults := ConfigurationError.eq_nil_of_collect (hflat _) hcollect
    obtain ⟨⟨⟩, hleft⟩ := exists_ok_of_faults (List.append_eq_nil_iff.mp hfaults).2
    exact ⟨Properties.mem_keys_of_takeRequired hraw, hleft⟩

theorem mem_of_ofProperties {v : ValueSource} (h : ofProperties id p = .ok v)
    (hkey : key ∈ p.keys) : key ∈ parameters := by
  refine (Properties.mem_or_mem_foldl_erase _ hkey).resolve_right ?_
  exact Properties.not_mem_keys_of_confirmAllUsed ((ofProperties_checked id p).2 v h).2

end ValueSource

/-! ## Variables -/

namespace Variable

/-- The properties of a variable, but for its filter. -/
def parameters : List String := ["aggregate", "expire", "type", "max-series"]

/-- A variable fails flat. If it does not fail, its filter does not, and nothing is left. -/
theorem ofProperties_checked (name : String) (p : Properties) (maxSeries : Nat) :
    FailsWith IsFlat (ofProperties name p maxSeries) ∧
      ∀ v, ofProperties name p maxSeries = .ok v →
        (∃ f, Filter.ofProperties (p.subset "filter") = .ok f) ∧
          Properties.confirmAllUsed
            (parameters.foldl NameMap.erase (p.takeSubset "filter").2) = .ok () := by
  have hfilter : FailsWith IsFlat (inBlock "filter" (Filter.ofProperties (p.subset "filter"))) :=
    failsFlat_inBlock (Filter.ofProperties_checked _).1
  unfold ofProperties Properties.takeDuration Properties.takeCount Properties.takeSubset
  dsimp only
  obtain ⟨aggregation, haggregation, heq⟩ :=
    Properties.exists_takeRead Aggregation.ofText _ "aggregate"
  rw [heq]
  dsimp only
  obtain ⟨expire, hexpire, heq⟩ := Properties.exists_takeRead _ _ "expire"
  rw [heq]
  dsimp only
  obtain ⟨type, htype, heq⟩ := Properties.exists_takeRead _ _ "type"
  rw [heq]
  dsimp only
  obtain ⟨bound, hbound, heq⟩ := Properties.exists_takeRead _ _ "max-series"
  rw [heq]
  dsimp only
  have hflat (q : Properties) :
      ∀ e ∈ faults (inBlock "filter" (Filter.ofProperties (p.subset "filter"))) ++
        faults aggregation ++ faults expire ++ faults type ++ faults bound ++
        faults q.confirmAllUsed, e.IsFlat := by
    simp only [List.forall_mem_append]
    exact ⟨⟨⟨⟨⟨hfilter.faults, haggregation.faults⟩, hexpire.faults⟩, htype.faults⟩,
      hbound.faults⟩, Properties.failsFlat_confirmAllUsed.faults⟩
  constructor
  · exact (failsWith_collect (hflat _)).bind fun _ => hbound.bind fun _ =>
      haggregation.bind fun _ => hfilter.bind fun _ => hexpire.bind fun _ =>
        htype.bind fun _ => failsWith_ok _
  · intro v h
    obtain ⟨⟨⟩, hcollect, -⟩ := bind_eq_ok_iff.mp h
    have hfaults := ConfigurationError.eq_nil_of_collect (hflat _) hcollect
    simp only [List.append_eq_nil_iff] at hfaults
    obtain ⟨⟨⟨⟨⟨hnone, -⟩, -⟩, -⟩, -⟩, hleft⟩ := hfaults
    obtain ⟨⟨⟩, hleft⟩ := exists_ok_of_faults hleft
    exact ⟨exists_ok_of_inBlock hnone, hleft⟩

theorem mem_of_ofProperties {v : Variable} {maxSeries : Nat}
    (h : ofProperties name p maxSeries = .ok v) (hkey : key ∈ p.keys) :
    key ∈ parameters ∨ ∃ label, key = qualified "filter" (qualified "attribute" label) := by
  obtain ⟨⟨f, hf⟩, hleft⟩ := (ofProperties_checked name p maxSeries).2 v h
  rcases Properties.mem_subset_or_mem_left "filter" hkey with ⟨param, hparam, rfl⟩ | hkey
  · obtain ⟨label, rfl⟩ := Filter.exists_attribute_of_ofProperties hf hparam
    exact .inr ⟨label, rfl⟩
  · left
    refine (Properties.mem_or_mem_foldl_erase _ hkey).resolve_right ?_
    exact Properties.not_mem_keys_of_confirmAllUsed hleft

end Variable

/-! ## Schemas -/

variable {P : ConfigurationError → Prop}

theorem AttributeRule.failsWith_ofText (name rule : String)
    (h : ∀ complaint, P (.invalid ("attributes." ++ name) rule (.badPattern complaint))) :
    FailsWith P (ofText name rule) := by
  unfold ofText
  split
  · exact failsWith_ok _
  · split
    · split
      · exact failsWith_ok _
      · exact failsWith_error (h _)
    · exact failsWith_ok _

namespace Schema

/-- All that can be wrong with the properties of a schema. -/
theorem forall_mem_errors (hsources : P (.missing "sources"))
    (htimestamp : ∀ q, FailsWith P (inBlock "timestamp" (TimestampSource.ofProperties q)))
    (hvalue : ∀ id q, FailsWith P (inBlock ("value." ++ id) (ValueSource.ofProperties id q)))
    (hnone : P (.missing "value"))
    (hlabel : ∀ name rule complaint,
      P (.invalid ("attributes." ++ name) rule (.badPattern complaint)))
    (hfilter : ∀ q, FailsWith P (inBlock "filter" (Filter.ofProperties q)))
    (hleft : ∀ params, P (.unused params)) (p : Properties) :
    ∀ e ∈ (Sections.ofProperties p).errors, P e := by
  simp only [Sections.errors, Sections.ofProperties, List.forall_mem_append]
  refine ⟨⟨⟨⟨⟨⟨?sources, (htimestamp _).faults⟩, ?values⟩, ?anyValues⟩, ?attributes⟩,
    (hfilter _).faults⟩, (Properties.failsWith_confirmAllUsed hleft).faults⟩
  case sources => exact ((Properties.failsWith_takeRequired hsources).map _).faults
  case values =>
    exact forall_mem_flatMap_faults (List.forall_mem_map.mpr fun id _ => hvalue id _)
  case anyValues =>
    refine FailsWith.faults ?_
    split
    · exact failsWith_error hnone
    · exact failsWith_ok _
  case attributes =>
    refine forall_mem_flatMap_faults (List.forall_mem_map.mpr fun rule _ => ?_)
    exact AttributeRule.failsWith_ofText rule.1 rule.2 (hlabel rule.1 rule.2)

theorem isFlat_of_mem_errors (p : Properties) : ∀ e ∈ (Sections.ofProperties p).errors, e.IsFlat :=
  forall_mem_errors (isFlat_missing _)
    (fun q => failsFlat_inBlock (TimestampSource.ofProperties_checked q).1)
    (fun id q => failsFlat_inBlock (ValueSource.ofProperties_checked id q).1) (isFlat_missing _)
    (fun _ _ _ => isFlat_invalid _ _ _)
    (fun q => failsFlat_inBlock (Filter.ofProperties_checked q).1) isFlat_unused p

theorem errors_eq_nil {s : Schema} (h : (s.configure p).1.isOk = true) :
    (Sections.ofProperties p).errors = [] := by
  refine ConfigurationError.eq_nil_of_collect (isFlat_of_mem_errors p) ?_
  exact eq_ok_of_isOk h

end Schema

/-! ## Definitions -/

namespace Definition

/-- The block of the variables is not touched by what is taken before it. -/
theorem subset_variables_left (p : Properties) :
    Properties.subset ((p.take "metrics.groupby").2.takeSubset "metrics.filter").2 "variables" =
      p.subset "variables" :=
  (Properties.subset_takeSubset fun _ => Properties.not_isUnder_qualified (by decide)).trans
    (Properties.subset_erase (by decide))

theorem failsWith_readTrigger {declared : List String} {raw : Option String}
    (h : ∀ raw reason, P (.invalid "when" raw reason)) :
    FailsWith P (readTrigger declared raw).2 := by
  unfold readTrigger
  split
  · exact failsWith_ok _
  · split
    · exact failsWith_ok _
    · dsimp only
      split
      · exact failsWith_error (h _ _)
      · exact failsWith_ok _

theorem failsFlat_readEquation (declared : List String) (vars : NameMap Variable)
    (raw : Option String) : FailsWith IsFlat (readEquation declared vars raw) := by
  unfold readEquation
  split
  · split
    · exact failsWith_ok _
    · exact failsWith_error (ConfigurationError.isFlat_equation _ _)
  · split
    · exact failsWith_ok _
    · exact failsWith_ok _
    · exact failsWith_error (isFlat_missing _)

/-- All that can be wrong with the properties of a definition. -/
theorem forall_mem_errors {maxSeries : Nat}
    (hfilter : ∀ q, FailsWith P (inBlock "metrics.filter" (Filter.ofProperties q)))
    (hvar : ∀ name q, FailsWith P
      (inBlock ("variables." ++ name) (Variable.ofProperties name q maxSeries)))
    (hnone : P (.missing "variables")) (htrigger : ∀ raw reason, P (.invalid "when" raw reason))
    (hequation : FailsWith P (Sections.ofProperties p maxSeries).equation)
    (hleft : ∀ params, P (.unused params)) :
    ∀ e ∈ (Sections.ofProperties p maxSeries).errors, P e := by
  simp only [Sections.errors, Sections.ofProperties, List.forall_mem_append]
  refine ⟨⟨⟨⟨⟨(hfilter _).faults, ?vars⟩, ?anyVars⟩, (failsWith_readTrigger htrigger).faults⟩,
    hequation.faults⟩, (Properties.failsWith_confirmAllUsed hleft).faults⟩
  case vars =>
    exact forall_mem_flatMap_faults (List.forall_mem_map.mpr fun name _ => hvar name _)
  case anyVars =>
    refine FailsWith.faults ?_
    split
    · exact failsWith_error hnone
    · exact failsWith_ok _

theorem isFlat_of_mem_errors (p : Properties) (maxSeries : Nat) :
    ∀ e ∈ (Sections.ofProperties p maxSeries).errors, e.IsFlat :=
  forall_mem_errors (fun q => failsFlat_inBlock (Filter.ofProperties_checked q).1)
    (fun name q => failsFlat_inBlock (Variable.ofProperties_checked name q maxSeries).1)
    (isFlat_missing _) (fun _ _ => isFlat_invalid _ _ _) (failsFlat_readEquation _ _ _)
    isFlat_unused

theorem errors_eq_nil {d : Definition} {maxSeries : Nat}
    (h : (d.configure p maxSeries).1.isOk = true) :
    (Sections.ofProperties p maxSeries).errors = [] := by
  refine ConfigurationError.eq_nil_of_collect (isFlat_of_mem_errors p maxSeries) ?_
  unfold configure at h
  dsimp only at h
  cases hcollect : ConfigurationError.collect (Sections.ofProperties p maxSeries).errors with
  | ok => rfl
  | error e =>
      rw [hcollect] at h
      cases h

end Definition

end Telemetry
