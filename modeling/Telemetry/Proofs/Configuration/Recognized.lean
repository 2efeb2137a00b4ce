import Telemetry.Proofs.Configuration.Checked

/-!
# Recognized properties

A schema and a definition are accepted only if every property is one that they know, with one
exception (`Properties.accepted_known`): the id of a value or the name of a variable counts as a
block also if nothing stands behind it, and such a property is neither read nor reported.
-/

namespace Telemetry

open ConfigurationError (qualified)

variable {p : Properties} {key id name : String}

/-! ## Schemas -/

namespace Schema

/-- The properties that a schema knows. An id has no dot. -/
inductive Knows : String → Prop
  | sources : Knows "sources"
  | timestamp (param : String) (h : param ∈ TimestampSource.parameters) :
    Knows (qualified "timestamp" param)
  | value (id param : String) (hid : '.' ∉ id.toList) (h : param ∈ ValueSource.parameters) :
    Knows (qualified "value" (qualified id param))
  | label (name : String) : Knows (qualified "attributes" name)
  | filter (label : String) : Knows (qualified "filter" (qualified "attribute" label))

/-- A schema that is accepted knows its properties, but for ids of values that are there. -/
theorem knows_of_configure {s : Schema} (h : (s.configure p).1.isOk = true) (hkey : key ∈ p.keys) :
    Knows key ∨ ∃ id, '.' ∉ id.toList ∧ key = qualified "value" id ∧
      qualified key "key" ∈ p.keys := by
  have herrors := errors_eq_nil h
  simp only [Sections.errors, Sections.ofProperties, List.append_eq_nil_iff] at herrors
  obtain ⟨⟨⟨⟨⟨⟨-, htimestamp⟩, hvalues⟩, -⟩, -⟩, hfilter⟩, hleft⟩ := herrors
  rw [Properties.takeRequired_snd] at htimestamp hvalues hfilter hleft
  rcases Properties.eq_or_mem_erase "sources" hkey with rfl | hin
  · exact .inl .sources
  rcases Properties.mem_subset_or_mem_left "timestamp" hin with ⟨param, hparam, rfl⟩ | hin
  · obtain ⟨timestamp, htimestamp⟩ := exists_ok_of_inBlock htimestamp
    exact .inl (.timestamp param (TimestampSource.mem_of_ofProperties htimestamp hparam))
  rcases Properties.mem_subset_or_mem_left "value" hin with ⟨param, hparam, rfl⟩ | hin
  · -- The values are those of the ids, and a property is an id or in the block of one.
    have hvalue := List.forall_mem_map.mp (List.flatMap_eq_nil_iff.mp hvalues)
    rcases Properties.mem_ids_or_mem_subset hparam with hid | ⟨id, hid, rest, hrest, rfl⟩
    · obtain ⟨v, hv⟩ := exists_ok_of_inBlock (hvalue param hid)
      refine .inr ⟨param, Properties.not_mem_of_mem_ids hid, rfl, ?_⟩
      have hneeded := Properties.mem_keys_subset.mp (Properties.mem_keys_subset.mp
        ((ValueSource.ofProperties_checked param _).2 v hv).1)
      rw [Properties.qualified_qualified]
      exact (NameMap.mem_keys_erase.mp (Properties.mem_keys_of_takeSubset hneeded)).2
    · obtain ⟨v, hv⟩ := exists_ok_of_inBlock (hvalue id hid)
      exact .inl (.value id rest (Properties.not_mem_of_mem_ids hid)
        (ValueSource.mem_of_ofProperties hv hrest))
  rcases Properties.mem_subset_or_mem_left "attributes" hin with ⟨label, -, rfl⟩ | hin
  · exact .inl (.label label)
  rcases Properties.mem_subset_or_mem_left "filter" hin with ⟨param, hparam, rfl⟩ | hin
  · obtain ⟨filter, hfilter⟩ := exists_ok_of_inBlock hfilter
    obtain ⟨label, rfl⟩ := Filter.exists_attribute_of_ofProperties hfilter hparam
    exact .inl (.filter label)
  · obtain ⟨⟨⟩, hleft⟩ := exists_ok_of_faults hleft
    exact absurd hin (Properties.not_mem_keys_of_confirmAllUsed hleft)

/-- The id of a value that is there makes no difference to any section. -/
theorem Sections.ofProperties_insert_id (hid : id ∈ (p.subset "value").ids) (text : String) :
    Sections.ofProperties (p.insert (qualified "value" id) text) = Sections.ofProperties p := by
  have hsources : qualified "value" id ≠ "sources" := Properties.qualified_ne (by decide)
  have htimestamp (param : String) :
      Properties.isUnder "timestamp" (qualified "value" param) = false :=
    Properties.not_isUnder_qualified (by decide)
  have hvalues :
      (((p.takeRequired "sources").2.takeSubset "timestamp").2.takeSubset "value").1 =
        p.subset "value" := by
    rw [Properties.takeRequired_snd]
    exact (Properties.subset_takeSubset htimestamp).trans (Properties.subset_erase (by decide))
  have hthere : (p.subset "value").isEmpty = false := by
    obtain ⟨key, hkey, -⟩ := Properties.mem_ids.mp hid
    exact NameMap.isEmpty_of_mem_keys hkey
  have hstays : ((p.subset "value").insert id text).isEmpty = false :=
    NameMap.isEmpty_of_mem_keys (NameMap.mem_keys_insert.mpr (.inl rfl))
  simp only [Sections.ofProperties, Properties.takeRequired_insert_of_ne hsources,
    Properties.takeSubset_insert_of_not_under (htimestamp id),
    Properties.takeSubset_insert_qualified, hvalues, Properties.ids_insert_of_mem hid,
    Properties.subset_insert_of_not_under (Properties.not_isUnder_of_mem_ids hid _), hthere, hstays]

theorem not_knows_id (hid : '.' ∉ id.toList) : ¬Knows (qualified "value" id) := by
  intro h
  generalize hkey : qualified "value" id = key at h
  cases h with
  | sources => exact Properties.qualified_ne (by decide) hkey
  | timestamp => exact Properties.qualified_ne_qualified (by decide) hkey
  | value =>
      exact Properties.ne_qualified_of_not_mem hid (Properties.qualified_inj.mp hkey)
  | label => exact Properties.qualified_ne_qualified (by decide) hkey
  | filter => exact Properties.qualified_ne_qualified (by decide) hkey

theorem configure_insert_id (s : Schema) (hid : id ∈ (p.subset "value").ids) (text : String) :
    s.configure (p.insert (qualified "value" id) text) = s.configure p := by
  unfold configure
  rw [Sections.ofProperties_insert_id hid]

end Schema

/-! ## Definitions -/

namespace Definition

/-- The properties that a definition knows. The name of a variable has no dot. -/
inductive Knows : String → Prop
  | value : Knows "value"
  | trigger : Knows "when"
  | grouping : Knows "metrics.groupby"
  | filter (label : String) : Knows (qualified "metrics.filter" (qualified "attribute" label))
  | var (name param : String) (hname : '.' ∉ name.toList) (h : param ∈ Variable.parameters) :
    Knows (qualified "variables" (qualified name param))
  | varFilter (name label : String) (hname : '.' ∉ name.toList) :
    Knows (qualified "variables"
      (qualified name (qualified "filter" (qualified "attribute" label))))

/-- A definition that is accepted knows its properties, but for names of variables. -/
theorem knows_of_configure {d : Definition} {maxSeries : Nat}
    (h : (d.configure p maxSeries).1.isOk = true) (hkey : key ∈ p.keys) :
    Knows key ∨ ∃ name, '.' ∉ name.toList ∧ key = qualified "variables" name := by
  have herrors := errors_eq_nil h
  simp only [Sections.errors, Sections.ofProperties, List.append_eq_nil_iff] at herrors
  obtain ⟨⟨⟨⟨⟨hfilter, hvars⟩, -⟩, -⟩, -⟩, hleft⟩ := herrors
  rcases Properties.eq_or_mem_erase "metrics.groupby" hkey with rfl | hin
  · exact .inl .grouping
  rcases Properties.mem_subset_or_mem_left "metrics.filter" hin with ⟨param, hparam, rfl⟩ | hin
  · obtain ⟨filter, hfilter⟩ := exists_ok_of_inBlock hfilter
    obtain ⟨label, rfl⟩ := Filter.exists_attribute_of_ofProperties hfilter hparam
    exact .inl (.filter label)
  rcases Properties.mem_subset_or_mem_left "variables" hin with ⟨param, hparam, rfl⟩ | hin
  · -- The variables are those of the ids, and a property is an id or in the block of one.
    have hvar := List.forall_mem_map.mp (List.flatMap_eq_nil_iff.mp hvars)
    rcases Properties.mem_ids_or_mem_subset hparam with hname | ⟨name, hname, rest, hrest, rfl⟩
    · exact .inr ⟨param, Properties.not_mem_of_mem_ids hname, rfl⟩
    · have hdot := Properties.not_mem_of_mem_ids hname
      obtain ⟨v, hv⟩ := exists_ok_of_inBlock (hvar name hname)
      rcases Variable.mem_of_ofProperties hv hrest with hparameter | ⟨label, rfl⟩
      · exact .inl (.var name rest hdot hparameter)
      · exact .inl (.varFilter name label hdot)
  rcases Properties.eq_or_mem_erase "when" hin with rfl | hin
  · exact .inl .trigger
  rcases Properties.eq_or_mem_erase "value" hin with rfl | hin
  · exact .inl .value
  · obtain ⟨⟨⟩, hleft⟩ := exists_ok_of_faults hleft
    exact absurd hin (Properties.not_mem_keys_of_confirmAllUsed hleft)

/-- The name of a variable that is there makes no difference to any section. -/
theorem Sections.ofProperties_insert_name (hname : name ∈ (p.subset "variables").ids)
    (text : String) (maxSeries : Nat) :
    Sections.ofProperties (p.insert (qualified "variables" name) text) maxSeries =
      Sections.ofProperties p maxSeries := by
  have hgrouping : qualified "variables" name ≠ "metrics.groupby" :=
    Properties.qualified_ne (by decide)
  have hfilter (param : String) :
      Properties.isUnder "metrics.filter" (qualified "variables" param) = false :=
    Properties.not_isUnder_qualified (by decide)
  have hvars :
      (((p.take "metrics.groupby").2.takeSubset "metrics.filter").2.takeSubset "variables").1 =
        p.subset "variables" := subset_variables_left p
  simp only [Sections.ofProperties, Properties.take_insert_of_ne hgrouping,
    Properties.takeSubset_insert_of_not_under (hfilter name),
    Properties.takeSubset_insert_qualified, hvars, Properties.ids_insert_of_mem hname,
    Properties.subset_insert_of_not_under (Properties.not_isUnder_of_mem_ids hname _)]

theorem not_knows_name (hname : '.' ∉ name.toList) : ¬Knows (qualified "variables" name) := by
  intro h
  generalize hkey : qualified "variables" name = key at h
  cases h with
  | value => exact Properties.qualified_ne (by decide) hkey
  | trigger => exact Properties.qualified_ne (by decide) hkey
  | grouping => exact Properties.qualified_ne (by decide) hkey
  | filter => exact Properties.qualified_ne_qualified (by decide) hkey
  | var =>
      exact Properties.ne_qualified_of_not_mem hname (Properties.qualified_inj.mp hkey)
  | varFilter =>
      exact Properties.ne_qualified_of_not_mem hname (Properties.qualified_inj.mp hkey)

theorem configure_insert_name (d : Definition) (hname : name ∈ (p.subset "variables").ids)
    (text : String) (maxSeries : Nat) :
    d.configure (p.insert (qualified "variables" name) text) maxSeries =
      d.configure p maxSeries := by
  unfold configure
  rw [Sections.ofProperties_insert_name hname]

end Definition

/-! ## Accepted properties -/

namespace Properties

/-- **What is not known is reported, but for a name that stands for its block.** If a schema is
accepted, it knows every property, unless this is the id of a value that is there; if a definition
is accepted, it knows every property, unless this is the name of a variable. Such a property is not
known, and nothing comes of it: where there is the id or the name already, the outcome is the same
with it and without it, and whatever its text is. -/
theorem accepted_known (p : Properties) :
    (∀ s : Schema, (s.configure p).1.isOk = true → ∀ key ∈ p.keys,
      Schema.Knows key ∨ ∃ id, '.' ∉ id.toList ∧ key = qualified "value" id ∧
        qualified key "key" ∈ p.keys) ∧
    (∀ id ∈ (p.subset "value").ids, ¬Schema.Knows (qualified "value" id) ∧
      ∀ (s : Schema) (text : String),
        s.configure (p.insert (qualified "value" id) text) = s.configure p) ∧
    (∀ (d : Definition) (maxSeries : Nat), (d.configure p maxSeries).1.isOk = true →
      ∀ key ∈ p.keys,
        Definition.Knows key ∨ ∃ name, '.' ∉ name.toList ∧ key = qualified "variables" name) ∧
    (∀ name ∈ (p.subset "variables").ids, ¬Definition.Knows (qualified "variables" name) ∧
      ∀ (d : Definition) (maxSeries : Nat) (text : String),
        d.configure (p.insert (qualified "variables" name) text) maxSeries =
          d.configure p maxSeries) := by
  refine ⟨?_, ?_, ?_, ?_⟩
  · exact fun s h key hkey => Schema.knows_of_configure h hkey
  · intro id hid
    exact ⟨Schema.not_knows_id (not_mem_of_mem_ids hid),
      fun s text => s.configure_insert_id hid text⟩
  · exact fun d maxSeries h key hkey => Definition.knows_of_configure h hkey
  · intro name hname
    exact ⟨Definition.not_knows_name (not_mem_of_mem_ids hname),
      fun d maxSeries text => d.configure_insert_name hname text maxSeries⟩

def strayId : Properties :=
  .ofList [("sources", "events"), ("value.cpu", "percent"), ("value.cpu.key", "cpu")]

def strayName : Properties := .ofList [("variables.v", "sum")]

/-- The schema is accepted, and so each of its properties is known or the id of a value. -/
theorem strayId_known : ((Schema.unconfigured "s").configure strayId).1.isOk = true ∧
    ∀ key ∈ strayId.keys, Schema.Knows key ∨ ∃ id, '.' ∉ id.toList ∧
      key = qualified "value" id ∧ qualified key "key" ∈ strayId.keys := by
  have haccepted : ((Schema.unconfigured "s").configure strayId).1.isOk = true := by
    decide +kernel
  exact ⟨haccepted, (accepted_known strayId).1 _ haccepted⟩

/-- Both are accepted with a property that they do not know. -/
theorem stray_accepted :
    (((Schema.unconfigured "s").configure strayId).1.isOk = true ∧
      "value.cpu" ∈ strayId.keys ∧ ¬Schema.Knows "value.cpu") ∧
    ((Definition.unconfigured "d").configure strayName 10000).1.isOk = true ∧
      "variables.v" ∈ strayName.keys ∧ ¬Definition.Knows "variables.v" := by
  have hid : ¬Schema.Knows (qualified "value" "cpu") := Schema.not_knows_id (by decide)
  have hname : ¬Definition.Knows (qualified "variables" "v") :=
    Definition.not_knows_name (by decide)
  exact ⟨⟨by decide +kernel, by decide +kernel, hid⟩, by decide +kernel, by decide +kernel, hname⟩

end Properties

end Telemetry
