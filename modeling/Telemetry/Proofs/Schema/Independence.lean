import Telemetry.Proofs.Exceptions.Window
import Telemetry.Proofs.Schema.Set

/-!
# Failures of different schemas

All schemas share one memory of the failures that were let through. What a schema reports does not
depend on what another one reported before, as long as the two have no owner in common
(`Schema.extract_independent`). An owner is written as a schema and a value with a colon between, so
schemas have one in common if the id of one goes on from that of the other with a colon
(`separate_iff`), and then one holds back failures of the other (`Schema.held_back_by_namesake`).
-/

namespace Telemetry

/-! ## Owners -/

/-- Who reports a failure: a schema, or one of its values. -/
inductive Reporter
  | schema (id : String)
  | value (id valueId : String)
  deriving DecidableEq

namespace Reporter

def id : Reporter → String
  | .schema id => id
  | .value id _ => id

def text : Reporter → String
  | .schema id => id
  | .value id valueId => id ++ ":" ++ valueId

def key (r : Reporter) : String := Owner.schema.key r.text

end Reporter

/-- Two schema ids of which neither goes on from the other with a colon. -/
structure Separate (a b : String) : Prop where
  ne : a ≠ b
  right_ne : ∀ rest, b ≠ a ++ ":" ++ rest
  left_ne : ∀ rest, a ≠ b ++ ":" ++ rest

variable {a b : String} {r r' : Reporter}

theorem Separate.symm (h : Separate a b) : Separate b a := ⟨h.ne.symm, h.left_ne, h.right_ne⟩

theorem Reporter.key_eq_iff : r.key = r'.key ↔ r.text = r'.text :=
  String.append_right_inj _

/-- What stands behind the shorter of two first parts begins with the colon behind it. -/
theorem exists_goes_on {s t : String} {c : Char} {cs u u' : List Char}
    (ht : t.toList = s.toList ++ c :: cs) (hcolon : ':' :: u = (c :: cs) ++ ':' :: u') :
    ∃ rest, t = s ++ ":" ++ rest := by
  obtain ⟨rfl, -⟩ := List.cons.inj hcolon
  exact ⟨String.ofList cs, String.toList_injective (by simpa using ht)⟩

/-- Of two ways to split a text at a colon, one first part goes on from the other with a colon. -/
theorem splits_at_colon {v v' : String} (h : a ++ ":" ++ v = b ++ ":" ++ v') :
    a = b ∨ (∃ rest, b = a ++ ":" ++ rest) ∨ ∃ rest, a = b ++ ":" ++ rest := by
  have hlists : a.toList ++ ':' :: v.toList = b.toList ++ ':' :: v'.toList := by
    simpa using congrArg String.toList h
  rcases List.append_eq_append_iff.mp hlists with ⟨as, hb, hv⟩ | ⟨as, ha, hv⟩
  · cases as with
    | nil => exact .inl (String.toList_injective (by simpa using hb.symm))
    | cons c cs => exact .inr (.inl (exists_goes_on hb hv))
  · cases as with
    | nil => exact .inl (String.toList_injective (by simpa using ha))
    | cons c cs => exact .inr (.inr (exists_goes_on ha hv))

theorem Separate.text_ne (h : Separate a b) (hr : r.id = a) (hr' : r'.id = b) :
    r.text ≠ r'.text := by
  subst hr hr'
  intro heq
  cases r with
  | schema id =>
      cases r' with
      | schema id' => exact h.ne heq
      | value id' v' => exact h.left_ne v' heq
  | value id v =>
      cases r' with
      | schema id' => exact h.right_ne v heq.symm
      | value id' v' =>
          rcases splits_at_colon heq with hsame | ⟨rest, hrest⟩ | ⟨rest, hrest⟩
          · exact h.ne hsame
          · exact h.right_ne rest hrest
          · exact h.left_ne rest hrest

/-- Two schemas have no owner in common, whatever values they have, if and only if their ids are
separate. -/
theorem separate_iff :
    Separate a b ↔ ∀ r r' : Reporter, r.id = a → r'.id = b → r.key ≠ r'.key := by
  constructor
  · intro h r r' hr hr' hkey
    exact h.text_ne hr hr' (Reporter.key_eq_iff.mp hkey)
  · intro h
    refine ⟨?_, ?_, ?_⟩
    · rintro rfl
      exact h (.schema a) (.schema a) rfl rfl rfl
    · rintro rest rfl
      exact h (.value a rest) (.schema (a ++ ":" ++ rest)) rfl rfl rfl
    · rintro rest rfl
      exact h (.schema (b ++ ":" ++ rest)) (.value b rest) rfl rfl rfl

theorem append_colon_ne (s t : String) : s ≠ s ++ ":" ++ t := by
  intro h
  have hlength := congrArg String.length h
  simp only [String.length_append] at hlength
  have hcolon : ":".length = 1 := rfl
  omega

/-- The reporters of one schema all have owners of their own. -/
theorem Reporter.eq_of_key_eq (hid : r.id = r'.id) (hkey : r.key = r'.key) : r = r' := by
  have htext := key_eq_iff.mp hkey
  cases r with
  | schema id =>
      cases r' with
      | schema id' => exact congrArg schema hid
      | value id' v' =>
          cases hid
          exact absurd htext (append_colon_ne _ v')
  | value id v =>
      cases r' with
      | schema id' =>
          cases hid
          exact absurd htext.symm (append_colon_ne _ v)
      | value id' v' =>
          cases hid
          exact congrArg (value _) ((String.append_right_inj _).mp htext)

/-- Ids without a colon are separate. -/
theorem separate_of_not_mem (ha : ':' ∉ a.toList) (hb : ':' ∉ b.toList) (hne : a ≠ b) :
    Separate a b := by
  refine ⟨hne, ?_, ?_⟩
  · rintro rest rfl
    exact hb (by simp)
  · rintro rest rfl
    exact ha (by simp)

/-! ## What a schema reports -/

namespace Exceptions

def tryAll (now : Instant) (reports : List (Reporter × String)) (e : Exceptions) : Exceptions :=
  reports.foldl (fun e report => (e.tryRaise now report.1.key report.2).2) e

/-- A failure becomes a metric unless it is held back. -/
theorem raise_fst {e : Exceptions} {now : Instant} (h : e.Plain) (hnow : now.isLeap = false)
    (owner cause : String) (timestamp : Instant) (attributes : Attributes) :
    (e.raise now owner cause timestamp attributes).1 =
      if e.wasRaised now owner cause then [] else [⟨timestamp, .exception cause, attributes⟩] := by
  have hadmitted := limits_tryRaise.admitted owner cause h hnow
  simp only [raise, hadmitted]
  cases e.wasRaised now owner cause <;> rfl

end Exceptions

namespace Schema

variable {s : Schema} {now : Instant} {record : Json} {e : Exceptions}

/-- The failures of a record, with those who report them. -/
def reported (s : Schema) (record : Json) : List (Reporter × String) :=
  match s.error with
  | some error => [(.schema s.id, error.message)]
  | none =>
    if s.filter.test (s.attributes record) then
      match s.timestamp.extract record with
      | .ok timestamp =>
        match readValues record timestamp (s.attributes record) s.values with
        | .ok _ => []
        | .error error => [(.schema s.id, error.message)]
      | .error error => s.values.map fun v => (.value s.id v.id, error.message)
    else []

theorem id_of_mem_reported {report : Reporter × String} (h : report ∈ s.reported record) :
    report.1.id = s.id := by
  unfold reported at h
  split at h
  · cases List.mem_singleton.mp h
    rfl
  · split at h
    · split at h
      · split at h
        · cases h
        · cases List.mem_singleton.mp h
          rfl
      · obtain ⟨v, -, rfl⟩ := List.mem_map.mp h
        rfl
    · cases h

theorem raiseForValues_snd (cause : String) (attributes : Attributes) (values : List ValueSource) :
    (s.raiseForValues now cause attributes values e).2 =
      e.tryAll now (values.map fun v => (.value s.id v.id, cause)) := by
  induction values generalizing e with
  | nil => rfl
  | cons v rest ih => exact ih

/-- What is remembered of an extraction are the failures of the record, whatever of them was let
through. -/
theorem extract_snd (s : Schema) (now : Instant) (record : Json) (e : Exceptions) :
    (s.extract now record e).2 = e.tryAll now (s.reported record) := by
  unfold extract reported
  cases s.error with
  | some error => rfl
  | none =>
      dsimp only
      split
      · cases s.timestamp.extract record with
        | ok timestamp =>
            dsimp only
            cases readValues record timestamp (s.attributes record) s.values with
            | ok metrics => rfl
            | error error => rfl
        | error error => exact raiseForValues_snd error.message (s.attributes record) s.values
      · rfl

end Schema

/-! ## What is known of the failures of a schema -/

namespace Exceptions

variable {id : String} {now later : Instant} {e e' : Exceptions}

/-- Two states hold back the same failures of a schema, from a time on. -/
structure AgreeFor (id : String) (now : Instant) (e e' : Exceptions) : Prop where
  window : e.window = e'.window
  plain : e.Plain
  plain' : e'.Plain
  wasRaised : ∀ later : Instant, later.isLeap = false → later.before now = false →
    ∀ r : Reporter, r.id = id → ∀ cause,
      e.wasRaised later r.key cause = e'.wasRaised later r.key cause

theorem agreeFor_refl (id : String) (now : Instant) (h : e.Plain) : AgreeFor id now e e :=
  ⟨rfl, h, h, fun _ _ _ _ _ _ => rfl⟩

theorem AgreeFor.symm (h : AgreeFor id now e e') : AgreeFor id now e' e where
  window := h.window.symm
  plain := h.plain'
  plain' := h.plain
  wasRaised later hlater hle r hr cause := (h.wasRaised later hlater hle r hr cause).symm

theorem AgreeFor.trans {e'' : Exceptions} (h : AgreeFor id now e e') (h' : AgreeFor id now e' e'') :
    AgreeFor id now e e'' where
  window := h.window.trans h'.window
  plain := h.plain
  plain' := h'.plain'
  wasRaised later hlater hle r hr cause :=
    (h.wasRaised later hlater hle r hr cause).trans (h'.wasRaised later hlater hle r hr cause)

theorem AgreeFor.mono (h : AgreeFor id now e e') (hle : later.before now = false) :
    AgreeFor id later e e' where
  window := h.window
  plain := h.plain
  plain' := h.plain'
  wasRaised t ht htle := h.wasRaised t ht (Instant.not_before_trans hle htle)

/-- A failure with an owner of another schema is not seen. -/
theorem AgreeFor.tryRaise_left {owner : String} (h : AgreeFor id now e e')
    (hnow : now.isLeap = false) (howner : ∀ r : Reporter, r.id = id → r.key ≠ owner)
    (cause : String) : AgreeFor id now (e.tryRaise now owner cause).2 e' where
  window := (limits_tryRaise.window e now owner cause).trans h.window
  plain := limits_tryRaise.plain owner cause h.plain hnow
  plain' := h.plain'
  wasRaised later hlater hle r hr cause' := by
    have hother : ¬((r.key, cause') = (owner, cause) ∧ e.wasRaised now owner cause = false) := by
      rintro ⟨heq, -⟩
      exact howner r hr (Prod.mk.inj heq).1
    rw [limits_tryRaise.wasRaised owner cause r.key cause' h.plain hnow hlater hle, if_neg hother]
    exact h.wasRaised later hlater hle r hr cause'

/-- The same failure in both states leaves them alike. -/
theorem AgreeFor.tryRaise (h : AgreeFor id now e e') (hnow : now.isLeap = false)
    (owner cause : String) :
    AgreeFor id now (e.tryRaise now owner cause).2 (e'.tryRaise now owner cause).2 where
  window := by rw [limits_tryRaise.window, limits_tryRaise.window, h.window]
  plain := limits_tryRaise.plain owner cause h.plain hnow
  plain' := limits_tryRaise.plain owner cause h.plain' hnow
  wasRaised later hlater hle r hr cause' := by
    have hrecent : e.isRecent later now = e'.isRecent later now := by
      rw [isRecent, isRecent, h.window]
    have hnowRaised := h.wasRaised now hnow (Instant.before_irrefl now) r hr cause'
    rw [limits_tryRaise.wasRaised owner cause r.key cause' h.plain hnow hlater hle,
      limits_tryRaise.wasRaised owner cause r.key cause' h.plain' hnow hlater hle, hrecent,
      h.wasRaised later hlater hle r hr cause']
    by_cases hpair : (r.key, cause') = (owner, cause)
    · obtain ⟨rfl, rfl⟩ := Prod.mk.inj hpair
      rw [hnowRaised]
    · rw [if_neg fun hboth => hpair hboth.1, if_neg fun hboth => hpair hboth.1]

theorem AgreeFor.tryAll_left {reports : List (Reporter × String)} (h : AgreeFor id now e e')
    (hnow : now.isLeap = false)
    (hother : ∀ report ∈ reports, ∀ r : Reporter, r.id = id → r.key ≠ report.1.key) :
    AgreeFor id now (e.tryAll now reports) e' := by
  induction reports generalizing e with
  | nil => exact h
  | cons report rest ih =>
      obtain ⟨hfirst, hrest⟩ := List.forall_mem_cons.mp hother
      exact ih (h.tryRaise_left hnow hfirst report.2) hrest

theorem AgreeFor.tryAll (h : AgreeFor id now e e') (hnow : now.isLeap = false)
    (reports : List (Reporter × String)) :
    AgreeFor id now (e.tryAll now reports) (e'.tryAll now reports) := by
  induction reports generalizing e e' with
  | nil => exact h
  | cons report rest ih => exact ih (h.tryRaise hnow report.1.key report.2)

/-- A failure of the schema passes in both states or in none. -/
theorem AgreeFor.raise_fst {r : Reporter} (h : AgreeFor id now e e') (hnow : now.isLeap = false)
    (hr : r.id = id) (cause : String) (timestamp : Instant) (attributes : Attributes) :
    (e.raise now r.key cause timestamp attributes).1 =
      (e'.raise now r.key cause timestamp attributes).1 := by
  have hraised := h.wasRaised now hnow (Instant.before_irrefl now) r hr cause
  rw [Exceptions.raise_fst h.plain hnow, Exceptions.raise_fst h.plain' hnow, hraised]

end Exceptions

/-! ## Extractions -/

namespace Schema

variable {s : Schema} {now : Instant} {e e' : Exceptions}

theorem raiseForValues_fst (h : Exceptions.AgreeFor s.id now e e') (hnow : now.isLeap = false)
    (cause : String) (attributes : Attributes) (values : List ValueSource) :
    (s.raiseForValues now cause attributes values e).1 =
      (s.raiseForValues now cause attributes values e').1 := by
  induction values generalizing e e' with
  | nil => rfl
  | cons v rest ih =>
      have hfirst := h.raise_fst (r := .value s.id v.id) hnow rfl cause now (withValue attributes v)
      have hmore := ih (h.tryRaise hnow (Reporter.value s.id v.id).key cause)
      exact congrArg₂ (· ++ ·) hfirst hmore

/-- What a schema makes of a record depends only on what is held back of its own failures. -/
theorem extract_fst (h : Exceptions.AgreeFor s.id now e e') (hnow : now.isLeap = false)
    (record : Json) : (s.extract now record e).1 = (s.extract now record e').1 := by
  have hown (cause : String) : (s.raiseOwn now cause e).1 = (s.raiseOwn now cause e').1 :=
    h.raise_fst (r := .schema s.id) hnow rfl cause now s.fixed
  unfold extract
  cases s.error with
  | some error => exact hown error.message
  | none =>
      dsimp only
      split
      · cases s.timestamp.extract record with
        | ok timestamp =>
            dsimp only
            cases readValues record timestamp (s.attributes record) s.values with
            | ok metrics => rfl
            | error error => exact hown error.message
        | error error =>
            have hvalues :=
              raiseForValues_fst h hnow error.message (s.attributes record) s.values
            exact congrArg (List.filter _) hvalues
      · rfl

end Schema

/-! ## Extractions one after the other -/

structure Extraction where
  schema : Schema
  now : Instant
  record : Json

namespace Extraction

def after (work : List Extraction) (e : Exceptions) : Exceptions :=
  work.foldl (fun e x => (x.schema.extract x.now x.record e).2) e

theorem after_nil (e : Exceptions) : after [] e = e := rfl

def without (id : String) (work : List Extraction) : List Extraction :=
  work.filter fun x => x.schema.id ≠ id

end Extraction

namespace Exceptions.AgreeFor

variable {id other : String} {now later : Instant} {e e' : Exceptions} {work : List Extraction}

/-- An extraction by another schema is not seen. -/
theorem extract_left {s : Schema} (h : AgreeFor id now e e') (hnow : now.isLeap = false)
    (hsep : Separate id s.id) (record : Json) :
    AgreeFor id now (s.extract now record e).2 e' := by
  rw [Schema.extract_snd]
  refine h.tryAll_left hnow fun report hreport r hr => ?_
  exact separate_iff.mp hsep r report.1 hr (Schema.id_of_mem_reported hreport)

theorem extract (h : AgreeFor id now e e') (hnow : now.isLeap = false) (s : Schema)
    (record : Json) :
    AgreeFor id now (s.extract now record e).2 (s.extract now record e').2 := by
  rw [Schema.extract_snd, Schema.extract_snd]
  exact h.tryAll hnow (s.reported record)

/-- To leave out what another schema extracted changes nothing for the schema. -/
theorem after_without (h : AgreeFor id now e e') (hsep : Separate id other)
    (hsteady : Instant.Steady (work.map Extraction.now ++ [later]))
    (hfrom : ∀ t ∈ work.map Extraction.now ++ [later], t.before now = false) :
    AgreeFor id later (Extraction.after work e)
      (Extraction.after (Extraction.without other work) e') := by
  induction work generalizing e e' now with
  | nil => exact h.mono (hfrom later (by simp))
  | cons x rest ih =>
      obtain ⟨hleap, hle, hrest⟩ := Instant.steady_cons.mp hsteady
      have hx := h.mono (hfrom x.now List.mem_cons_self)
      by_cases hid : x.schema.id = other
      · have hout : Extraction.without other (x :: rest) = Extraction.without other rest :=
          List.filter_cons_of_neg (by simpa using hid)
        rw [hout]
        subst hid
        exact ih (hx.extract_left hleap hsep x.record) hrest hle
      · have hin : Extraction.without other (x :: rest) = x :: Extraction.without other rest :=
          List.filter_cons_of_pos (by simpa using hid)
        rw [hin]
        exact ih (hx.extract hleap x.schema x.record) hrest hle

end Exceptions.AgreeFor

namespace Schema

/-- **Schemas with separate ids do not limit each other.** All owners of failures of the two are
different. And whatever was extracted before, by these and other schemas, with a steady clock: what
the one makes of a record is the same in two such histories that differ only in what the other
extracted. A clock that goes back would let the other one's failures push out what is recent. -/
theorem extract_independent (s s' : Schema) (hsep : Separate s.id s'.id) (window : Duration)
    (work work' : List Extraction) (now : Instant) (record : Json)
    (hsteady : Instant.Steady (work.map Extraction.now ++ [now]))
    (hsteady' : Instant.Steady (work'.map Extraction.now ++ [now]))
    (hsame : Extraction.without s'.id work = Extraction.without s'.id work') :
    (∀ r r' : Reporter, (r.id = s.id ∨ r.id = s'.id) → (r'.id = s.id ∨ r'.id = s'.id) →
      r.key = r'.key → r = r') ∧
    (s.extract now record (Extraction.after work (.ofWindow window))).1 =
      (s.extract now record (Extraction.after work' (.ofWindow window))).1 := by
  constructor
  · intro r r' hr hr' hkey
    by_cases hid : r.id = r'.id
    · exact Reporter.eq_of_key_eq hid hkey
    · rcases hr with hr | hr <;> rcases hr' with hr' | hr'
      · exact absurd (hr.trans hr'.symm) hid
      · exact absurd hkey (separate_iff.mp hsep r r' hr hr')
      · exact absurd hkey (separate_iff.mp hsep.symm r r' hr hr')
      · exact absurd (hr.trans hr'.symm) hid
  · have hplain := Exceptions.plain_ofWindow window
    obtain ⟨start, hstart⟩ := hsteady.exists_start
    obtain ⟨start', hstart'⟩ := hsteady'.exists_start
    have hleft := (Exceptions.agreeFor_refl s.id start hplain).after_without hsep hsteady hstart
    have hright := (Exceptions.agreeFor_refl s.id start' hplain).after_without hsep hsteady' hstart'
    rw [← hsame] at hright
    have hnow : now.isLeap = false := hsteady.not_leap now (by simp)
    exact extract_fst (hleft.trans hright.symm) hnow record

def timeless : Json := .object []

/-- Of a schema with one value, that takes the time where it is by default, a record without a time
gives nothing but a failure of the value. -/
theorem extract_timeless {s : Schema} {value : ValueSource} (herror : s.error.isNone)
    (hfilter : s.filter = .all) (htime : s.timestamp = .default) (hvalues : s.values = [value])
    (now : Instant) (e : Exceptions) : (s.extract now timeless e).1 =
      (e.raise now (Reporter.value s.id value.id).key
        (ExtractionError.missingKey "timestamp").message now
        (withValue (s.attributes timeless) value)).1 := by
  have htest (attributes : Attributes) : s.filter.test attributes = true := by
    rw [hfilter]
    rfl
  have hnoTime : s.timestamp.extract timeless = .error (.missingKey "timestamp") := by
    have habsent : timeless.element? TimestampSource.default.key = none := by decide +kernel
    rw [htime, TimestampSource.extract, habsent]
    rfl
  unfold extract
  rw [Option.isNone_iff_eq_none.mp herror]
  simp only [htest, hnoTime, hvalues, if_true, raiseForValues, List.append_nil]
  exact List.filter_eq_self.mpr fun _ _ => rfl

/-- The schemas `memory` and `cpu` read one source, each a value of its own. -/
def hostProperties : Properties :=
  .ofList [("metrics.schema.memory.sources", "host"),
    ("metrics.schema.memory.value.used.key", "used"), ("metrics.schema.cpu.sources", "host"),
    ("metrics.schema.cpu.value.load.key", "load")]

def memory : Schema := .build "memory" (Schemas.block hostProperties "memory")

def cpu : Schema := .build "cpu" (Schemas.block hostProperties "cpu")

theorem host_configured :
    (hostProperties.subset "metrics.schema").ids = ["cpu", "memory"] ∧
      cpu.reported timeless =
        [(.value "cpu" "load", (ExtractionError.missingKey "timestamp").message)] ∧
      memory.error.isNone ∧ memory.filter = .all ∧ memory.timestamp = .default ∧
      memory.values = [⟨"used", "used", .auto, none⟩] := by
  decide +kernel

/-- Both schemas are configured, and the ids are separate. A record without a time fails both for
one cause; after the one reported it, the other one does so too. -/
theorem extract_memory_of_cpu :
    (Schemas.ofProperties hostProperties).get? "memory" = some memory ∧
      (Schemas.ofProperties hostProperties).get? "cpu" = some cpu ∧
      Separate memory.id cpu.id ∧
      cpu.reported timeless =
        [(.value "cpu" "load", (ExtractionError.missingKey "timestamp").message)] ∧
      (memory.extract .epoch timeless
        (Extraction.after [] (.ofWindow (.ofMilliseconds 600000)))).1.length = 1 ∧
      (memory.extract .epoch timeless
        (Extraction.after [⟨cpu, .epoch, timeless⟩] (.ofWindow (.ofMilliseconds 600000)))).1 =
      (memory.extract .epoch timeless
        (Extraction.after [] (.ofWindow (.ofMilliseconds 600000)))).1 := by
  have hplain := Exceptions.plain_ofWindow (.ofMilliseconds 600000)
  have hepoch : Instant.epoch.isLeap = false := rfl
  obtain ⟨hids, hcpu, herror, hfilter, htime, hvalues⟩ := host_configured
  have hsep : Separate memory.id cpu.id :=
    separate_of_not_mem (by decide) (by decide) (by decide)
  have hsteady : Instant.Steady [.epoch, .epoch] := ⟨by decide, by decide⟩
  have hsteady' : Instant.Steady [.epoch] := ⟨by decide, by decide⟩
  refine ⟨?_, ?_, hsep, hcpu, ?_,
    (extract_independent memory cpu hsep (.ofMilliseconds 600000) [⟨cpu, .epoch, timeless⟩] []
      .epoch timeless hsteady hsteady' rfl).2⟩
  · rw [Schemas.get?_ofProperties, hids]
    rfl
  · rw [Schemas.get?_ofProperties, hids]
    rfl
  · rw [Extraction.after_nil, extract_timeless herror hfilter htime hvalues,
      Exceptions.raise_fst hplain hepoch, Exceptions.wasRaised_ofWindow]
    rfl

/-! ## Namesakes -/

/-- A schema `a` with a value `b:c`, and a schema `a:b` with a value `c`. Both have the owner
`schema:a:b:c`. -/
def namesakeProperties : Properties :=
  .ofList [("metrics.schema.a.sources", "s1"), ("metrics.schema.a.value.b:c.key", "v"),
    ("metrics.schema.a:b.sources", "s2"), ("metrics.schema.a:b.value.c.key", "v")]

def outer : Schema := .build "a" (Schemas.block namesakeProperties "a")

def inner : Schema := .build "a:b" (Schemas.block namesakeProperties "a:b")

/-- Both schemas are configured and without error. -/
theorem namesakes_configured :
    (namesakeProperties.subset "metrics.schema").ids = ["a", "a:b"] ∧
      outer.reported timeless =
        [(.value "a" "b:c", (ExtractionError.missingKey "timestamp").message)] ∧
      inner.error.isNone ∧ inner.filter = .all ∧ inner.timestamp = .default ∧
      inner.values = [⟨"c", "v", .auto, none⟩] := by
  decide +kernel

theorem inner_extract (now : Instant) (e : Exceptions) : (inner.extract now timeless e).1 =
    (e.raise now (Reporter.value "a:b" "c").key (ExtractionError.missingKey "timestamp").message now
      (withValue (inner.attributes timeless) ⟨"c", "v", .auto, none⟩)).1 := by
  obtain ⟨-, -, herror, hfilter, htime, hvalues⟩ := namesakes_configured
  exact extract_timeless herror hfilter htime hvalues now e

/-- Both schemas are configured, and the ids differ. Alone, the one reports a record without a time;
after the other did so, it keeps silent. -/
theorem held_back_by_namesake :
    (Schemas.ofProperties namesakeProperties).get? "a" = some outer ∧
      (Schemas.ofProperties namesakeProperties).get? "a:b" = some inner ∧
      inner.id ≠ outer.id ∧
      (inner.extract .epoch timeless
        (Extraction.after [] (.ofWindow (.ofMilliseconds 600000)))).1.length = 1 ∧
      (inner.extract .epoch timeless
        (Extraction.after [⟨outer, .epoch, timeless⟩]
          (.ofWindow (.ofMilliseconds 600000)))).1 = [] := by
  have hplain := Exceptions.plain_ofWindow (.ofMilliseconds 600000)
  have hepoch : Instant.epoch.isLeap = false := rfl
  obtain ⟨hids, houter, -⟩ := namesakes_configured
  refine ⟨?_, ?_, by decide, ?_, ?_⟩
  · rw [Schemas.get?_ofProperties, hids]
    rfl
  · rw [Schemas.get?_ofProperties, hids]
    rfl
  · rw [Extraction.after_nil, inner_extract, Exceptions.raise_fst hplain hepoch,
      Exceptions.wasRaised_ofWindow]
    rfl
  · have hafter :
        Extraction.after [⟨outer, .epoch, timeless⟩] (.ofWindow (.ofMilliseconds 600000)) =
          (Exceptions.tryRaise (.ofWindow (.ofMilliseconds 600000)) .epoch
            (Reporter.value "a" "b:c").key (ExtractionError.missingKey "timestamp").message).2 := by
      change (outer.extract .epoch timeless (.ofWindow (.ofMilliseconds 600000))).2 = _
      rw [extract_snd, houter]
      rfl
    have hkey : (Reporter.value "a:b" "c").key = (Reporter.value "a" "b:c").key := by decide
    have hplain' := Exceptions.limits_tryRaise.plain (Reporter.value "a" "b:c").key
      (ExtractionError.missingKey "timestamp").message hplain hepoch
    rw [hafter, inner_extract, Exceptions.raise_fst hplain' hepoch, hkey,
      Exceptions.limits_tryRaise.wasRaised _ _ _ _ hplain hepoch hepoch rfl,
      Exceptions.wasRaised_ofWindow]
    rfl

end Schema

end Telemetry
