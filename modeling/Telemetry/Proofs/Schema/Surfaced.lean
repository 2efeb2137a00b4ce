import Telemetry.Proofs.Schema.Output

/-!
# Failures that were let through and are shown

A schema asks before it reports a failure, and what was let through is remembered as shown. Which
failures those are can be read off an extraction that keeps a log of what it was answered
(`Schema.admitted`). The failures among the metrics of a record are those let through, in their
order, without the ones that the filter drops (`Schema.filter_isException_extract`). So all are
shown unless a rule of the filter is about the name of a value: then a failure can be dropped after
it was let through (`Schema.dropped_unseen`).
-/

namespace Telemetry.Schema

variable {s : Schema} {now : Instant} {record : Json} {e : Exceptions} {cause : String}
  {attributes : Attributes} {values : List ValueSource}

/-! ## Extractions that ask somebody else -/

section AskedBy

variable {σ : Type} (ask : σ → Reporter → String → Bool × σ)

def raiseBy (state : σ) (r : Reporter) (cause : String) (now : Instant) (attributes : Attributes) :
    List Metric × σ :=
  let (admitted, state) := ask state r cause
  (if admitted then [⟨now, .exception cause, attributes⟩] else [], state)

def raiseForValuesBy (s : Schema) (now : Instant) (cause : String) (attributes : Attributes) :
    List ValueSource → σ → List Metric × σ
  | [], state => ([], state)
  | v :: rest, state =>
    let (first, state) :=
      raiseBy ask state (.value s.id v.id) cause now (withValue attributes v)
    let (more, state) := raiseForValuesBy s now cause attributes rest state
    (first ++ more, state)

/-- The metrics of a record, where `ask` says whether a failure may pass. -/
def extractBy (s : Schema) (now : Instant) (record : Json) (state : σ) : List Metric × σ :=
  match s.error with
  | some error => raiseBy ask state (.schema s.id) error.message now s.fixed
  | none =>
    let attributes := s.attributes record
    if s.filter.test attributes then
      let passing (ms : List Metric) := ms.filter fun m => s.filter.test m.attributes
      match s.timestamp.extract record with
      | .ok timestamp =>
        match readValues record timestamp attributes s.values with
        | .ok metrics => (passing metrics, state)
        | .error error => raiseBy ask state (.schema s.id) error.message now s.fixed
      | .error error =>
        let (metrics, state) := s.raiseForValuesBy ask now error.message attributes s.values state
        (passing metrics, state)
    else ([], state)

theorem raiseForValuesBy_snd (cause : String) (attributes : Attributes)
    (values : List ValueSource) (state : σ) :
    (s.raiseForValuesBy ask now cause attributes values state).2 =
      (values.map fun v => (Reporter.value s.id v.id, cause)).foldl
        (fun state report => (ask state report.1 report.2).2) state := by
  induction values generalizing state with
  | nil => rfl
  | cons v rest ih => exact ih (ask state (.value s.id v.id) cause).2

/-- Each failure of a record is asked about once, in order. -/
theorem extractBy_snd (s : Schema) (now : Instant) (record : Json) (state : σ) :
    (s.extractBy ask now record state).2 =
      (s.reported record).foldl (fun state report => (ask state report.1 report.2).2) state := by
  unfold extractBy reported
  cases s.error with
  | some error => rfl
  | none =>
      dsimp only
      split
      · cases s.timestamp.extract record with
        | ok timestamp =>
            dsimp only
            cases readValues record timestamp (s.attributes record) s.values with
            | ok metrics => rfl
            | error error => rfl
        | error error =>
            exact raiseForValuesBy_snd ask error.message (s.attributes record) s.values state
      · rfl

end AskedBy

def askMemory (now : Instant) (e : Exceptions) (r : Reporter) (cause : String) :
    Bool × Exceptions :=
  e.tryRaise now r.key cause

/-- The same, with a log of the failures that were let through. -/
def askLogged (now : Instant) (state : Exceptions × List (Reporter × String)) (r : Reporter)
    (cause : String) : Bool × Exceptions × List (Reporter × String) :=
  let (admitted, e) := askMemory now state.1 r cause
  (admitted, e, if admitted then state.2 ++ [(r, cause)] else state.2)

/-! ## The log of an extraction -/

/-- The failures that are let through when a record is extracted, in their order. -/
def admitted (s : Schema) (now : Instant) (record : Json) (e : Exceptions) :
    List (Reporter × String) :=
  (s.extractBy (askLogged now) now record (e, [])).2.2

def logged (now : Instant) (e : Exceptions) (r : Reporter) (cause : String) :
    List (Reporter × String) :=
  if (askMemory now e r cause).1 then [(r, cause)] else []

theorem raiseBy_logged (e : Exceptions) (log : List (Reporter × String)) (r : Reporter)
    (cause : String) (attributes : Attributes) :
    raiseBy (askLogged now) (e, log) r cause now attributes =
      ((e.raise now r.key cause now attributes).1, (e.raise now r.key cause now attributes).2,
        log ++ logged now e r cause) := by
  unfold raiseBy askLogged logged Exceptions.raise askMemory
  dsimp only
  split <;> simp

/-- The attributes under which a failure is shown. -/
def attributesOf (s : Schema) (record : Json) : Reporter → Attributes
  | .schema _ => s.fixed
  | .value _ id => (s.attributes record).insert Metric.valueAttribute id

def shownAs (s : Schema) (now : Instant) (record : Json) (report : Reporter × String) : Metric :=
  ⟨now, .exception report.2, s.attributesOf record report.1⟩

theorem mem_logged {report : Reporter × String} {r : Reporter}
    (h : report ∈ logged now e r cause) : report = (r, cause) := by
  unfold logged at h
  split at h
  · exact List.mem_singleton.mp h
  · cases h

theorem raise_eq_logged (r : Reporter) (cause : String) (e : Exceptions)
    (h : s.attributesOf record r = attributes) :
    (e.raise now r.key cause now attributes).1 =
      (logged now e r cause).map (s.shownAs now record) := by
  subst h
  unfold logged Exceptions.raise askMemory
  dsimp only
  split <;> rfl

/-- The failures of the values become the metrics of those that were let through. -/
theorem raiseForValuesBy_logged (s : Schema) (now : Instant) (record : Json) (cause : String)
    (values : List ValueSource) (e : Exceptions) (log : List (Reporter × String)) :
    ∃ new, s.raiseForValuesBy (askLogged now) now cause (s.attributes record) values (e, log) =
        ((s.raiseForValues now cause (s.attributes record) values e).1,
          (s.raiseForValues now cause (s.attributes record) values e).2, log ++ new) ∧
      (s.raiseForValues now cause (s.attributes record) values e).1 =
        new.map (s.shownAs now record) ∧
      ∀ report ∈ new, ∃ id, report.1 = .value s.id id := by
  induction values generalizing e log with
  | nil => exact ⟨[], by simp [raiseForValuesBy, raiseForValues], rfl, by simp⟩
  | cons v rest ih =>
      let r := Reporter.value s.id v.id
      obtain ⟨new, hrun, hmetrics, hnew⟩ :=
        ih (e.raise now r.key cause now (withValue (s.attributes record) v)).2
          (log ++ logged now e r cause)
      refine ⟨logged now e r cause ++ new, ?_, ?_, ?_⟩
      · rw [raiseForValuesBy, raiseBy_logged]
        dsimp only
        rw [hrun, List.append_assoc]
        rfl
      · have hfirst : (e.raise now r.key cause now (withValue (s.attributes record) v)).1 =
            (logged now e r cause).map (s.shownAs now record) :=
          raise_eq_logged r cause e rfl
        rw [List.map_append, ← hfirst, ← hmetrics]
        rfl
      · intro report hreport
        rcases List.mem_append.mp hreport with hmem | hmem
        · exact ⟨v.id, by rw [mem_logged hmem]⟩
        · exact hnew report hmem

/-- How the metrics of a record come about: from failures of the schema that were let through, from
values, or, if the record passes the filter, from those failures of values that were let through and
pass it too. -/
inductive Shows (s : Schema) (now : Instant) (record : Json) :
    List (Reporter × String) → List Metric → Prop
  | own {log} (h : ∀ report ∈ log, report.1 = .schema s.id) :
    Shows s now record log (log.map (s.shownAs now record))
  | measured {metrics} (h : ∀ m ∈ metrics, m.value.isException = false) :
    Shows s now record [] metrics
  | timeless {log} (hfilter : s.filter.test (s.attributes record) = true)
    (h : ∀ report ∈ log, ∃ id, report.1 = .value s.id id) :
    Shows s now record log
      ((log.map (s.shownAs now record)).filter fun m => s.filter.test m.attributes)

/-- **An extraction with a log is the extraction**, and the log tells which metrics are failures. -/
theorem extractBy_logged (s : Schema) (now : Instant) (record : Json) (e : Exceptions) :
    s.extractBy (askLogged now) now record (e, []) =
        ((s.extract now record e).1, (s.extract now record e).2, s.admitted now record e) ∧
      s.Shows now record (s.admitted now record e) (s.extract now record e).1 := by
  have hown (cause : String) :
      raiseBy (askLogged now) (e, []) (.schema s.id) cause now s.fixed =
        ((s.raiseOwn now cause e).1, (s.raiseOwn now cause e).2,
          logged now e (.schema s.id) cause) ∧
      s.Shows now record (logged now e (.schema s.id) cause) (s.raiseOwn now cause e).1 := by
    have hmetrics : (s.raiseOwn now cause e).1 =
        (logged now e (.schema s.id) cause).map (s.shownAs now record) :=
      raise_eq_logged (.schema s.id) cause e rfl
    refine ⟨raiseBy_logged e [] (.schema s.id) cause s.fixed, hmetrics ▸ .own ?_⟩
    intro report hreport
    rw [mem_logged hreport]
  unfold admitted extract extractBy
  cases s.error with
  | some error =>
      dsimp only
      rw [(hown error.message).1]
      exact ⟨rfl, (hown error.message).2⟩
  | none =>
      dsimp only
      split
      · rename_i htest
        cases htime : s.timestamp.extract record with
        | ok timestamp =>
            dsimp only
            cases hvalues : readValues record timestamp (s.attributes record) s.values with
            | ok metrics =>
                refine ⟨rfl, .measured fun m hm => ?_⟩
                obtain ⟨source, hmeasures⟩ :=
                  measures_of_mem_readValues htime hvalues (List.mem_filter.mp hm).1
                exact hmeasures.isMeasured.isException
            | error error =>
                dsimp only
                rw [(hown error.message).1]
                exact ⟨rfl, (hown error.message).2⟩
        | error error =>
            obtain ⟨log, hrun, hmetrics, hlog⟩ :=
              raiseForValuesBy_logged s now record error.message s.values e []
            dsimp only
            rw [hrun, hmetrics]
            exact ⟨rfl, .timeless htest hlog⟩
      · exact ⟨rfl, .measured fun m hm => by cases hm⟩

/-! ## What is shown of what was let through -/

/-- Whether a failure is shown once it was let through: failures of values have to pass the filter
with the name of the value. -/
def isShown (s : Schema) (record : Json) : Reporter → Bool
  | .schema _ => true
  | .value source id => s.filter.test (s.attributesOf record (.value source id))

/-- The failures among the metrics of a record are those that were let through and are shown, in
their order. -/
theorem filter_isException_extract (s : Schema) (now : Instant) (record : Json) (e : Exceptions) :
    (s.extract now record e).1.filter (·.value.isException) =
      ((s.admitted now record e).filter fun report => s.isShown record report.1).map
        (s.shownAs now record) := by
  have hexception (log : List (Reporter × String)) :
      (log.map (s.shownAs now record)).filter (·.value.isException) =
        log.map (s.shownAs now record) :=
    List.filter_eq_self.mpr fun m hm => by
      obtain ⟨report, -, rfl⟩ := List.mem_map.mp hm
      rfl
  have hshows := (s.extractBy_logged now record e).2
  generalize (s.extract now record e).1 = metrics at hshows ⊢
  generalize s.admitted now record e = log at hshows ⊢
  cases hshows with
  | own hown =>
      rw [hexception, List.filter_eq_self.mpr]
      intro report hreport
      rw [hown report hreport]
      rfl
  | measured hmeasured => simpa [List.filter_eq_nil_iff] using hmeasured
  | timeless hfilter hvalues =>
      rw [List.filter_comm, hexception, List.filter_map]
      congr 1
      refine List.filter_congr fun report hreport => ?_
      obtain ⟨id, hid⟩ := hvalues report hreport
      simp only [Function.comp_apply, shownAs, hid, isShown]

/-- What was let through is shown, unless a rule of the filter is about the name of a value. -/
theorem isShown_of_mem_admitted (hrules : ∀ rule ∈ s.filter.rules, rule.key ≠ Metric.valueAttribute)
    {report : Reporter × String} (hreport : report ∈ s.admitted now record e) :
    s.isShown record report.1 = true := by
  have hshows := (s.extractBy_logged now record e).2
  generalize (s.extract now record e).1 = metrics at hshows
  generalize s.admitted now record e = log at hshows hreport
  cases hshows with
  | own hown =>
      rw [hown report hreport]
      rfl
  | measured => cases hreport
  | timeless hfilter hvalues =>
      obtain ⟨id, hid⟩ := hvalues report hreport
      rw [hid]
      refine List.all_eq_true.mpr fun rule hrule => ?_
      have hrecord := List.all_eq_true.mp hfilter rule hrule
      rwa [Rule.test, attributesOf, NameMap.get?_insert, if_neg (hrules rule hrule)]

/-- **The failures that are shown are those that were let through and pass the filter.** Extracting
with a log of what is let through changes neither the metrics nor what is remembered. The failures
among the metrics are those of the log that the filter does not drop, in their order. So they are as
many if and only if it drops none of them, and that is so for every record, clock and memory if no
rule of the filter is about the name of a value. -/
theorem surfaced_iff_shown (s : Schema) (now : Instant) (record : Json) (e : Exceptions) :
    s.extractBy (askLogged now) now record (e, []) =
        ((s.extract now record e).1, (s.extract now record e).2, s.admitted now record e) ∧
      (s.extract now record e).1.filter (·.value.isException) =
        ((s.admitted now record e).filter fun report => s.isShown record report.1).map
          (s.shownAs now record) ∧
      ((s.extract now record e).1.countP (·.value.isException) = (s.admitted now record e).length ↔
        ∀ report ∈ s.admitted now record e, s.isShown record report.1 = true) ∧
      ((∀ rule ∈ s.filter.rules, rule.key ≠ Metric.valueAttribute) →
        (s.extract now record e).1.countP (·.value.isException) =
          (s.admitted now record e).length) := by
  have hshown := s.filter_isException_extract now record e
  have hcount : (s.extract now record e).1.countP (·.value.isException) =
        (s.admitted now record e).length ↔
      ∀ report ∈ s.admitted now record e, s.isShown record report.1 = true := by
    rw [List.countP_eq_length_filter, hshown, List.length_map, List.length_filter_eq_length_iff]
  exact ⟨(s.extractBy_logged now record e).1, hshown, hcount,
    fun hrules => hcount.mpr fun report => isShown_of_mem_admitted hrules⟩

/-! ## Dropped after it was let through -/

/-- A schema with one value, that its filter does not want. -/
def unwanted : Properties :=
  .ofList [("sources", "events"), ("value.cpu.key", "cpu"), ("filter.attribute.$value", "!cpu")]

/-- The schema is in no error. A record without a time lets one failure through, that is remembered
from then on, and gives no metric. -/
theorem dropped_unseen :
    let s := Schema.build "s" unwanted
    let extraction := s.extract .epoch timeless (.ofWindow (.ofMilliseconds 600000))
    s.error.isNone = true ∧
      s.admitted .epoch timeless (.ofWindow (.ofMilliseconds 600000)) =
        [(.value "s" "cpu", "no element found for key timestamp")] ∧
      extraction.1 = [] ∧
      extraction.2.wasRaised .epoch (Reporter.value "s" "cpu").key
        "no element found for key timestamp" = true := by
  intro s extraction
  let r := Reporter.value "s" "cpu"
  have hschema : s.error.isNone = true ∧
      s.reported timeless = [(r, "no element found for key timestamp")] ∧
      s.isShown timeless r = false := by
    decide +kernel
  obtain ⟨herror, hreported, hhidden⟩ := hschema
  let e := Exceptions.ofWindow (.ofMilliseconds 600000)
  have hpasses : (e.tryRaise .epoch r.key "no element found for key timestamp").1 = true :=
    Exceptions.tryRaise_of_not_wasRaised (Exceptions.wasRaised_ofWindow _)
  have hadmitted : s.admitted .epoch timeless e = [(r, "no element found for key timestamp")] := by
    rw [admitted, extractBy_snd, hreported]
    simp [askLogged, askMemory, hpasses]
  have hnone : extraction.1 = [] := by
    have hexception (m) (hm : m ∈ extraction.1) : m.value.isException = true :=
      isException_of_reported (by simp [hreported]) hm
    rw [← List.filter_eq_self.mpr hexception, s.filter_isException_extract .epoch timeless e,
      hadmitted]
    simp [hhidden]
  refine ⟨herror, hadmitted, hnone, ?_⟩
  have hafter : extraction.2 =
      (e.tryRaise .epoch r.key "no element found for key timestamp").2 := by
    change (s.extract .epoch timeless e).2 = _
    rw [extract_snd, hreported]
    rfl
  rw [hafter, Exceptions.limits_tryRaise.wasRaised _ _ _ _
    (Exceptions.plain_ofWindow (.ofMilliseconds 600000)) rfl rfl rfl, Exceptions.wasRaised_ofWindow]
  rfl

end Telemetry.Schema
