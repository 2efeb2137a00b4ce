import Telemetry.Definition.Basic
import Telemetry.Proofs.Schema.Set
import Telemetry.Proofs.Schema.Values

/-!
# What a metric says of its producer

Two attributes have names of their own and say who made a metric. A definition sets both at last, so
that nothing overrides them (`ofDefinition_withProducer`). A schema sets its own at first, and its
rules for attributes come after that. Its metrics name it as long as no rule gives the record an
attribute of such a name (`Schema.ofSchema_of_mem_extract`).
-/

namespace Telemetry

variable {id name : String} {attributes : Attributes}

structure OfSchema (id : String) (attributes : Attributes) : Prop where
  schema : attributes.get? Metric.schemaAttribute = some id
  definition : attributes.get? Metric.definitionAttribute = none

structure OfDefinition (name : String) (attributes : Attributes) : Prop where
  schema : attributes.get? Metric.schemaAttribute = some name
  definition : attributes.get? Metric.definitionAttribute = some name

/-- An attribute that says that something else than the schema made the metric. -/
def Misnames (id : String) (e : String × String) : Prop :=
  e.1 = Metric.definitionAttribute ∨ e.1 = Metric.schemaAttribute ∧ e.2 ≠ id

theorem ofDefinition_withProducer (name : String) (attributes : Attributes) :
    OfDefinition name (Definition.withProducer name attributes) := by
  have hne : Metric.definitionAttribute ≠ Metric.schemaAttribute := by decide
  constructor
  · exact NameMap.get?_insert_self _ _ _
  · rw [Definition.withProducer, NameMap.get?_insert, if_neg hne]
    exact NameMap.get?_insert_self _ _ _

theorem ofSchema_ownAttributes (id : String) : OfSchema id (Schema.ownAttributes id) := by
  have hne : Metric.definitionAttribute ≠ Metric.schemaAttribute := by decide
  constructor
  · exact NameMap.get?_insert_self _ _ _
  · rw [Schema.ownAttributes, NameMap.get?_insert, if_neg hne]
    exact NameMap.get?_empty _

/-- Another attribute leaves the schema named. -/
theorem OfSchema.insert (h : OfSchema id attributes) {e : String × String} (he : ¬Misnames id e) :
    OfSchema id (attributes.insert e.1 e.2) := by
  constructor
  · rw [NameMap.get?_insert]
    split
    · rename_i hschema
      by_cases hid : e.2 = id
      · rw [hid]
      · exact absurd (.inr ⟨hschema.symm, hid⟩) he
    · exact h.schema
  · rw [NameMap.get?_insert, if_neg fun hdefinition => he (.inl hdefinition.symm)]
    exact h.definition

theorem OfSchema.foldl_insert (h : OfSchema id attributes) {l : List (String × String)}
    (hl : ∀ e ∈ l, ¬Misnames id e) :
    OfSchema id (l.foldl (fun m e => m.insert e.1 e.2) attributes) := by
  induction l generalizing attributes with
  | nil => exact h
  | cons e rest ih =>
      obtain ⟨he, hrest⟩ := List.forall_mem_cons.mp hl
      exact ih (h.insert he) hrest

theorem OfSchema.withValue (h : OfSchema id attributes) (v : ValueSource) :
    OfSchema id (Schema.withValue attributes v) := by
  have hvalue : ¬Misnames id (Metric.valueAttribute, v.id) := by
    have hne : Metric.valueAttribute ≠ Metric.definitionAttribute ∧
        Metric.valueAttribute ≠ Metric.schemaAttribute := by decide
    rintro (hdefinition | ⟨hschema, -⟩)
    · exact hne.1 hdefinition
    · exact hne.2 hschema
  exact h.insert hvalue

/-! ## Rules -/

def AttributeRule.gives (record : Json) : AttributeRule → List (String × String)
  | .fixed name text => [(name, text)]
  | .keyed name path => ((record.scalarAt? path).map fun text => (name, text)).toList
  | .matching rule => rule.attributes record

namespace Schema

variable {p : Properties} {record : Json} {now : Instant} {e : Exceptions} {m : Metric}

def rules (p : Properties) : List AttributeRule := (Sections.ofProperties p).rules

/-- Whether the rules of a schema without error give a record an attribute that says that something
else made its metrics. -/
def MisnamesItself (id : String) (p : Properties) (record : Json) : Prop :=
  (build id p).error = none ∧ ∃ r ∈ rules p, ∃ e ∈ r.gives record, Misnames id e

theorem keyed_build : (build id p).keyed = (rules p).filterMap fun
    | .keyed name path => some (name, path)
    | _ => none := rfl

theorem patterned_build : (build id p).patterned = (rules p).filterMap fun
    | .matching rule => some rule
    | _ => none := rfl

/-- The fixed attributes of a schema in error are its own. -/
theorem fixed_build_of_error (h : (build id p).error ≠ none) :
    (build id p).fixed = ownAttributes id := by
  unfold build configure at *
  dsimp only at *
  cases hresult : ConfigurationError.collect (Sections.ofProperties p).errors with
  | ok _ =>
      rw [hresult] at h
      exact absurd rfl h
  | error error => rfl

theorem fixed_build (h : (build id p).error = none) :
    (build id p).fixed = (rules p).foldl (fun (m : Attributes) r => match r with
      | .fixed name text => m.insert name text
      | _ => m) (ownAttributes id) := by
  unfold build configure at *
  dsimp only at *
  cases hresult : ConfigurationError.collect (Sections.ofProperties p).errors with
  | ok _ => rfl
  | error error =>
      rw [hresult] at h
      cases h

theorem not_misnames_of_gives (h : ¬MisnamesItself id p record) (herror : (build id p).error = none)
    {r : AttributeRule} (hr : r ∈ rules p) {e : String × String} (he : e ∈ r.gives record) :
    ¬Misnames id e :=
  fun hnames => h ⟨herror, r, hr, e, he, hnames⟩

theorem ofSchema_foldl_fixed {l : List AttributeRule} (h : OfSchema id attributes)
    (hl : ∀ name text, .fixed name text ∈ l → ¬Misnames id (name, text)) :
    OfSchema id (l.foldl (fun (m : Attributes) r => match r with
      | .fixed name text => m.insert name text
      | _ => m) attributes) := by
  induction l generalizing attributes with
  | nil => exact h
  | cons r rest ih =>
      refine ih ?_ fun name text hr => hl name text (List.mem_cons_of_mem _ hr)
      cases r with
      | fixed name text => exact h.insert (hl name text List.mem_cons_self)
      | keyed name path => exact h
      | matching rule => exact h

theorem ofSchema_fixed (h : ¬MisnamesItself id p record) : OfSchema id (build id p).fixed := by
  by_cases herror : (build id p).error = none
  · rw [fixed_build herror]
    refine ofSchema_foldl_fixed (ofSchema_ownAttributes id) fun name text hr => ?_
    exact not_misnames_of_gives h herror hr List.mem_cons_self
  · rw [fixed_build_of_error herror]
    exact ofSchema_ownAttributes id

theorem ofSchema_attributes (herror : (build id p).error = none)
    (h : ¬MisnamesItself id p record) : OfSchema id ((build id p).attributes record) := by
  refine (ofSchema_fixed h).foldl_insert fun e he => ?_
  -- an attribute comes from a rule, through the list of the rules of its kind
  rcases List.mem_append.mp he with he | he
  · rw [keyed_build, List.mem_filterMap] at he
    obtain ⟨⟨name, path⟩, hkeyed, hscalar⟩ := he
    obtain ⟨r, hr, hrule⟩ := List.mem_filterMap.mp hkeyed
    cases r with
    | keyed name' path' =>
        cases hrule
        exact not_misnames_of_gives h herror hr (Option.mem_toList.mpr hscalar)
    | fixed name' text => cases hrule
    | matching rule => cases hrule
  · rw [patterned_build, List.mem_flatMap] at he
    obtain ⟨rule, hpatterned, he⟩ := he
    obtain ⟨r, hr, hrule⟩ := List.mem_filterMap.mp hpatterned
    cases r with
    | matching rule' =>
        cases hrule
        exact not_misnames_of_gives h herror hr he
    | fixed name text => cases hrule
    | keyed name path => cases hrule

/-! ## The metrics of a record -/

/-- A metric of a record has the attributes of the record and the name of a value; a failure of the
schema itself has the fixed attributes. -/
theorem attributes_of_mem_extract {s : Schema} (h : m ∈ (s.extract now record e).1) :
    m.attributes = s.fixed ∨
      s.error = none ∧ ∃ v, m.attributes = withValue (s.attributes record) v := by
  cases gives_of_mem_extract h with
  | misconfigured _ => exact .inl rfl
  | unreadable _ error => exact .inl rfl
  | timeless herror source error => exact .inr ⟨herror, source, rfl⟩
  | measured herror hm => exact .inr ⟨herror, _, hm.attributes⟩

/-- A schema whose rules do not misname it is named by its metrics. -/
theorem ofSchema_of_mem_extract (h : ¬MisnamesItself id p record)
    (hm : m ∈ ((build id p).extract now record e).1) : OfSchema id m.attributes := by
  rcases attributes_of_mem_extract hm with hfixed | ⟨herror, v, hvalue⟩
  · rw [hfixed]
    exact ofSchema_fixed h
  · rw [hvalue]
    exact (ofSchema_attributes herror h).withValue v

end Schema

end Telemetry
