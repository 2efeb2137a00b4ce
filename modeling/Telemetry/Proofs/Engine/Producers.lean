import Telemetry.Proofs.Engine.Orphan
import Telemetry.Proofs.Schema.Attributes

/-!
# Who made a metric

Every metric that an engine returns was made by a schema or a definition of its configuration
(`Engine.Made`). A metric that a definition derived, or that reports its error, names the
definition, whatever the record. A metric of a schema names the schema, unless the rules of the
schema give it an attribute that says otherwise (`Engine.run_names_producers`). A rule that takes
over all that a record holds may do so (`Engine.renamed_by_record`).
-/

namespace Telemetry

inductive Producer
  | schema (id : String)
  | definition (name : String)
  deriving DecidableEq

/-! ## The metrics of several producers -/

section Origins

variable {now : Instant} {record : Json} {m m' : Metric} {e : Exceptions} {s : Store}
  {definitions : Definitions}

/-- What a metric derives is derived by a definition that derives metrics. -/
theorem Store.mem_applyTo {keys : List StateKey}
    (h : m ∈ (applyTo definitions now m' s keys).1) :
    ∃ name d, definitions.valid? name = some d ∧
      ∃ stores group updated, d.derive? stores m' group updated = some m := by
  induction keys generalizing s with
  | nil => cases h
  | cons key rest ih =>
      rcases List.mem_append.mp h with hfirst | hmore
      · have hderived := Option.mem_toList.mp hfirst
        cases hd : definitions.valid? key.definition with
        | none =>
            rw [hd] at hderived
            cases hderived
        | some d =>
            rw [hd] at hderived
            exact ⟨key.definition, d, hd, _, _, _, hderived⟩
      · exact ih hmore

theorem Store.mem_processAll {ms : List Metric} (h : m ∈ (processAll definitions now s ms).1) :
    ∃ name d, definitions.valid? name = some d ∧
      ∃ stores m' group updated, d.derive? stores m' group updated = some m := by
  induction ms generalizing s with
  | nil => cases h
  | cons first rest ih =>
      rcases List.mem_append.mp h with hfirst | hmore
      · obtain ⟨name, d, hd, stores, group, updated, hm⟩ := mem_applyTo hfirst
        exact ⟨name, d, hd, stores, first, group, updated, hm⟩
      · exact ih hmore

theorem Definitions.mem_raiseErrors {l : List Definition} {time : Instant}
    (h : m ∈ (raiseErrors now time l e).1) :
    ∃ d ∈ l, ∃ e', m ∈ (raiseErrors now time [d] e').1 := by
  induction l generalizing e with
  | nil => cases h
  | cons d rest ih =>
      rw [raiseErrors] at h
      cases herror : d.error with
      | none =>
          rw [herror] at h
          obtain ⟨other, hother, e', hm⟩ := ih h
          exact ⟨other, List.mem_cons_of_mem _ hother, e', hm⟩
      | some error =>
          rw [herror] at h
          rcases List.mem_append.mp h with hfirst | hmore
          · refine ⟨d, List.mem_cons_self, e, ?_⟩
            rw [raiseErrors, herror]
            exact List.mem_append_left _ hfirst
          · obtain ⟨other, hother, e', hm⟩ := ih hmore
            exact ⟨other, List.mem_cons_of_mem _ hother, e', hm⟩

end Origins

namespace Engine

variable {g : Engine} {now : Instant} {source : String} {record : Json} {m : Metric}
  {p : Properties} {requests : List Request}

/-- A producer of the configuration made a metric of a record, in whatever state. -/
inductive Made (g : Engine) (now : Instant) (source : String) (record : Json) :
    Producer → Metric → Prop
  | extracted {id : String} {s : Schema} {e : Exceptions} {m : Metric}
      (hs : g.schemas.get? id = some s) (hsource : s.hasSource source = true)
      (hm : m ∈ (s.extract now record e).1) : Made g now source record (.schema id) m
  | derived {name : String} {d : Definition} {stores : Stores} {m' m : Metric}
      {group : Attributes} {updated : List String} (hd : g.definitions.get? name = some d)
      (hm : d.derive? stores m' group updated = some m) :
      Made g now source record (.definition name) m
  | reported {name : String} {d : Definition} {e : Exceptions} {m : Metric}
      (hd : g.definitions.get? name = some d) (hm : m ∈ (Definitions.raiseErrors now now [d] e).1) :
      Made g now source record (.definition name) m

/-- Every metric that is returned for a record was made by a schema or a definition. -/
theorem made_of_mem_process (h : m ∈ (g.process now source record).1) :
    ∃ producer, g.Made now source record producer m := by
  rcases List.mem_append.mp h with h | hreported
  · rcases List.mem_append.mp h with hextracted | hderived
    · obtain ⟨s, hs, e, hm⟩ := Schemas.mem_extractAll hextracted
      obtain ⟨hs, hsource⟩ := List.mem_filter.mp hs
      obtain ⟨id, hget⟩ := NameMap.mem_values.mp hs
      exact ⟨.schema id, .extracted hget hsource hm⟩
    · obtain ⟨name, d, hd, stores, m', group, updated, hm⟩ := Store.mem_processAll hderived
      have hget := (Option.filter_eq_some_iff.mp hd).1
      exact ⟨.definition name, .derived hget hm⟩
  · obtain ⟨d, hd, e, hm⟩ := Definitions.mem_raiseErrors hreported
    obtain ⟨name, hget⟩ := NameMap.mem_values.mp hd
    exact ⟨.definition name, .reported hget hm⟩

/-! ## The names -/

theorem ofDefinition_of_made {name : String} (hs : g.definitions.Named)
    (h : g.Made now source record (.definition name) m) : OfDefinition name m.attributes := by
  cases h with
  | derived hd hm =>
      rename_i d stores m' group updated
      unfold Definition.derive? at hm
      split at hm
      · obtain ⟨v, -, rfl⟩ := Option.map_eq_some_iff.mp hm
        rw [← hs name d hd]
        exact ofDefinition_withProducer d.name group
      · cases hm
  | reported hd hm =>
      rename_i d e
      rw [Definitions.raiseErrors] at hm
      cases herror : d.error with
      | none =>
          rw [herror] at hm
          cases hm
      | some error =>
          rw [herror] at hm
          rcases List.mem_append.mp hm with hm | hm
          · rw [Schema.mem_raise hm, ← hs name d hd]
            exact ofDefinition_withProducer d.name .empty
          · cases hm

theorem ofSchema_of_made {id : String} (hs : g.schemas = Schemas.ofProperties p)
    (hnames : ¬Schema.MisnamesItself id (Schemas.block p id) record)
    (h : g.Made now source record (.schema id) m) : OfSchema id m.attributes := by
  cases h with
  | extracted hget hsource hm =>
      rw [hs, Schemas.get?_ofProperties] at hget
      split at hget
      · obtain rfl := Option.some.inj hget
        exact Schema.ofSchema_of_mem_extract hnames hm
      · cases hget

/-! ## Runs -/

/-- The properties that an engine has taken over last. -/
def loaded (p : Properties) (requests : List Request) : Properties :=
  requests.foldl (fun p r => match r with
    | .reload q => q
    | .process _ _ _ | .expire _ => p) p

theorem named_run (requests : List Request) (h : g.definitions.Named) :
    (g.run requests).definitions.Named := by
  induction requests generalizing g with
  | nil => exact h
  | cons r rest ih => exact ih (named_handle r h)

theorem schemas_run (requests : List Request) (h : g.schemas = Schemas.ofProperties p) :
    (g.run requests).schemas = Schemas.ofProperties (loaded p requests) := by
  induction requests generalizing g p with
  | nil => exact h
  | cons r rest ih =>
      cases r with
      | reload q => exact ih rfl
      | process now source record => exact ih h
      | expire now => exact ih h

/-- **Every metric names its producer.** After any requests, each metric that is returned for a
record was made by a schema or a definition. Whatever the record, what a definition made names the
definition, and what a schema made names the schema, if no rule of the schema gives the record an
attribute that says otherwise. -/
theorem run_names_producers (settings : Settings) (p : Properties) (requests : List Request)
    (now : Instant) (source : String) (record : Json) :
    let g := (ofProperties settings p).run requests
    (∀ m ∈ (g.process now source record).1, ∃ producer, g.Made now source record producer m) ∧
    (∀ name m, g.Made now source record (.definition name) m → OfDefinition name m.attributes) ∧
    ∀ id m, g.Made now source record (.schema id) m →
      ¬Schema.MisnamesItself id (Schemas.block (loaded p requests) id) record →
      OfSchema id m.attributes := by
  intro g
  have hdefinitions : g.definitions.Named := named_run requests (named_ofProperties settings p)
  have hschemas : g.schemas = Schemas.ofProperties (loaded p requests) := schemas_run requests rfl
  refine ⟨fun m hm => made_of_mem_process hm, ?_, ?_⟩
  · intro name m hmade
    exact ofDefinition_of_made hdefinitions hmade
  · intro id m hmade hnames
    exact ofSchema_of_made hschemas hnames hmade

/-! ## A rule for attributes -/

theorem made_of_configured {settings : Settings} {id : String} {e : Exceptions}
    (hid : id ∈ (p.subset "metrics.schema").ids)
    (hsource : (Schema.build id (Schemas.block p id)).hasSource source = true)
    (hm : m ∈ ((Schema.build id (Schemas.block p id)).extract now record e).1) :
    (ofProperties settings p).Made now source record (.schema id) m :=
  .extracted ((Schemas.get?_ofProperties p id).trans (if_pos hid)) hsource hm

theorem mem_process_of_mem_extract
    (h : m ∈ (g.schemas.extract now source record g.exceptions).1) :
    m ∈ (g.process now source record).1 :=
  List.mem_append_left _ (List.mem_append_left _ h)

/-- What the only schema of a configuration extracts is returned. -/
theorem mem_process_of_configured {settings : Settings} {id : String}
    (hids : (p.subset "metrics.schema").ids = [id])
    (hsource : (Schema.build id (Schemas.block p id)).hasSource source = true)
    (hm : m ∈ ((Schema.build id (Schemas.block p id)).extract now record
      (.ofWindow settings.window)).1) :
    m ∈ ((ofProperties settings p).process now source record).1 := by
  have hvalues : (ofProperties settings p).schemas.values.filter (·.hasSource source) =
      [Schema.build id (Schemas.block p id)] := by
    have hall : (Schemas.ofProperties p).values = [Schema.build id (Schemas.block p id)] :=
      Schemas.values_ofProperties_of_single hids
    exact (congrArg (List.filter _) hall).trans (List.filter_cons_of_pos hsource)
  refine mem_process_of_mem_extract ?_
  rw [Schemas.extract, hvalues]
  exact Schemas.mem_extractAll_cons hm

theorem run_nil (g : Engine) : g.run [] = g := rfl

theorem loaded_nil (p : Properties) : loaded p [] = p := rfl

def readingCpu (name rule : String) : Properties :=
  .ofList [("metrics.schema.s.sources", "events"), ("metrics.schema.s.value.cpu.key", "cpu"),
    ("metrics.schema.s.attributes." ++ name, rule)]

def hostRecord : Json :=
  .object [("cpu", .bool true), ("host", .string "h1"), ("timestamp", .number (.int 1000))]

def hostMetric : Metric :=
  ⟨⟨1, 0⟩, .boolean true, .ofList [("$schema", "s"), ("$value", "cpu"), ("node", "h1")]⟩

/-- An attribute of another name leaves the metric of a schema under the name of the schema. -/
theorem host_names_producer :
    (ofProperties {} (readingCpu "node" "host")).Made .epoch "events" hostRecord (.schema "s")
        hostMetric ∧
      ¬Schema.MisnamesItself "s" (Schemas.block (readingCpu "node" "host") "s") hostRecord ∧
      OfSchema "s" hostMetric.attributes := by
  obtain ⟨hids, hsource, hm⟩ : "s" ∈ ((readingCpu "node" "host").subset "metrics.schema").ids ∧
      (Schema.build "s" (Schemas.block (readingCpu "node" "host") "s")).hasSource "events" ∧
      hostMetric ∈ ((Schema.build "s" (Schemas.block (readingCpu "node" "host") "s")).extract .epoch
        hostRecord (.ofWindow ({} : Settings).window)).1 := by
    decide +kernel
  have hgives : (Schema.rules (Schemas.block (readingCpu "node" "host") "s")).flatMap
      (·.gives hostRecord) = [("node", "h1")] := by
    decide +kernel
  have hmade : (ofProperties {} (readingCpu "node" "host")).Made .epoch "events" hostRecord
      (.schema "s") hostMetric :=
    made_of_configured hids hsource hm
  have hnames :
      ¬Schema.MisnamesItself "s" (Schemas.block (readingCpu "node" "host") "s") hostRecord := by
    rintro ⟨-, r, hr, e, he, hother⟩
    have hmem := List.mem_flatMap.mpr ⟨r, hr, he⟩
    rw [hgives] at hmem
    cases List.mem_singleton.mp hmem
    rcases hother with hdefinition | ⟨hschema, -⟩
    · exact absurd hdefinition (by decide)
    · exact absurd hschema (by decide)
  have hrun := (run_names_producers {} (readingCpu "node" "host") [] .epoch "events" hostRecord).2.2
    "s" hostMetric
  rw [run_nil, loaded_nil] at hrun
  exact ⟨hmade, hnames, hrun hmade hnames⟩

/-! ## A record that names another schema -/

/-- A record with an element of the name that schemas have for themselves. -/
def namingRecord : Json :=
  .object [("$schema", .string "other"), ("cpu", .bool true), ("timestamp", .number (.int 1000))]

def renamedMetric : Metric :=
  ⟨⟨1, 0⟩, .boolean true, .ofList [("$schema", "other"), ("$value", "cpu"), ("cpu", "true"),
    ("timestamp", "1000")]⟩

def takingAll : Schema := .build "s" (Schemas.block (readingCpu "all" ".*") "s")

theorem paths_namingRecord : namingRecord.paths = ["$schema", "cpu", "timestamp"] := by
  have hleaves : namingRecord.leafPaths none = ["$schema", "cpu", "timestamp"] := by decide
  rw [Json.paths, hleaves]
  exact List.mergeSort_of_pairwise (by decide)

theorem takingAll_attributes : takingAll.attributes namingRecord =
    .ofList [("$schema", "other"), ("cpu", "true"), ("timestamp", "1000")] := by
  unfold Schema.attributes PatternRule.attributes
  rewrite [paths_namingRecord]
  decide +kernel

theorem takingAll_extract :
    (takingAll.extract .epoch namingRecord (.ofWindow ({} : Settings).window)).1 =
      [renamedMetric] := by
  unfold Schema.extract
  rewrite [takingAll_attributes]
  decide +kernel

/-- The engine returns a metric of the schema `s` that says it is of another schema. -/
theorem renamed_by_record :
    renamedMetric ∈ ((ofProperties {} (readingCpu "all" ".*")).process .epoch "events"
        namingRecord).1 ∧
      (ofProperties {} (readingCpu "all" ".*")).Made .epoch "events" namingRecord (.schema "s")
        renamedMetric ∧
      ¬OfSchema "s" renamedMetric.attributes := by
  obtain ⟨hids, hsource⟩ : ((readingCpu "all" ".*").subset "metrics.schema").ids = ["s"] ∧
      takingAll.hasSource "events" := by
    decide +kernel
  have hm : renamedMetric ∈
      (takingAll.extract .epoch namingRecord (.ofWindow ({} : Settings).window)).1 := by
    rw [takingAll_extract]
    exact List.mem_singleton_self _
  have hid : "s" ∈ ((readingCpu "all" ".*").subset "metrics.schema").ids := by
    rw [hids]
    exact List.mem_singleton_self _
  refine ⟨mem_process_of_configured hids hsource hm, made_of_configured hid hsource hm, ?_⟩
  intro h
  exact absurd h.schema (by decide)

end Engine

end Telemetry
