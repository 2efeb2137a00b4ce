import Telemetry.Proofs.Configuration.Checked
import Telemetry.Proofs.Decimal.Digits

/-!
# Messages of schemas

A failure is remembered by its message. What is wrong with the configuration of a schema is told by
a message that begins with the name of a section, or with a number if it is more than one thing; no
record fails with such a message (`Schema.message_ne_of_configure`).
-/

namespace Telemetry

/-! ## How texts begin -/

def Text.Opens (starts : List String) (s : String) : Prop :=
  ∃ start ∈ starts, ∃ rest, s = start ++ rest

theorem Text.opens_of_mem {starts : List String} {start : String} (h : start ∈ starts) :
    Opens starts start :=
  ⟨start, h, "", String.append_empty.symm⟩

theorem Text.Opens.append {starts : List String} {s : String} (h : Opens starts s) (t : String) :
    Opens starts (s ++ t) := by
  obtain ⟨start, hstart, rest, rfl⟩ := h
  exact ⟨start, hstart, rest ++ t, String.append_assoc⟩

theorem Text.Opens.mono {starts starts' : List String} {s : String} (h : Opens starts s)
    (hsub : ∀ a ∈ starts, Opens starts' a) : Opens starts' s := by
  obtain ⟨start, hstart, rest, rfl⟩ := h
  exact (hsub start hstart).append rest

/-- If no start begins another one, then texts with such starts differ. -/
theorem Text.Opens.ne {starts starts' : List String} {s s' : String} (h : Opens starts s)
    (h' : Opens starts' s')
    (happart : ∀ a ∈ starts, ∀ b ∈ starts', ¬a.toList <+: b.toList ∧ ¬b.toList <+: a.toList) :
    s ≠ s' := by
  obtain ⟨a, ha, rest, rfl⟩ := h
  obtain ⟨b, hb, rest', rfl⟩ := h'
  intro heq
  have hlists : a.toList ++ rest.toList = b.toList ++ rest'.toList := by
    simpa using congrArg String.toList heq
  obtain ⟨hab, hba⟩ := happart a ha b hb
  rcases List.append_eq_append_iff.mp hlists with ⟨cs, hcs, -⟩ | ⟨cs, hcs, -⟩
  · exact hab ⟨cs, hcs.symm⟩
  · exact hba ⟨cs, hcs.symm⟩

/-! ## Records that fail -/

namespace ExtractionError

/-- What the message of a record that fails begins with. -/
def openings : List String := ["no element found for key ", "element ", "timestamp "]

theorem opens_message (x : ExtractionError) : Text.Opens openings x.message := by
  have hstart {start : String} (h : start ∈ openings) := Text.opens_of_mem h
  cases x with
  | missingKey key => exact (hstart (by decide)).append key
  | notScalar key => exact ((hstart (by decide)).append key).append _
  | invalidNumber key raw =>
      exact ((((hstart (by decide)).append key).append _).append raw).append _
  | invalidBoolean key raw =>
      exact ((((hstart (by decide)).append key).append _).append raw).append _
  | invalidTimestamp key raw format =>
      exact (((((hstart (by decide)).append key).append _).append raw).append _).append format

theorem not_isDigit_of_head_message (x : ExtractionError) :
    ∀ c ∈ x.message.toList.head?, c.isDigit = false := by
  obtain ⟨start, hstart, rest, heq⟩ := x.opens_message
  have hopenings : ∀ start ∈ openings, start.toList.head?.map Char.isDigit = some false := by
    decide
  obtain ⟨c, hc, hdigit⟩ := Option.map_eq_some_iff.mp (hopenings start hstart)
  rw [heq, String.toList_append, List.head?_append, hc]
  rintro _ ⟨⟩
  exact hdigit

end ExtractionError

/-! ## Configurations in error -/

namespace ConfigurationError

variable {e x : ConfigurationError} {block : String}

/-- A single fault of a block is told by the name of the block. -/
theorem opens_message_within (h : x.parts = [x]) :
    Text.Opens [block ++ ".", "unused parameters: "] (x.within block).message := by
  have hblock : Text.Opens [block ++ ".", "unused parameters: "] (block ++ ".") :=
    Text.opens_of_mem List.mem_cons_self
  cases x with
  | missing param =>
      rw [within]
      exact (hblock.append param).append " must be specified"
  | invalid param value reason =>
      rw [within]
      exact ((((hblock.append param).append ": invalid value \"").append value).append
        "\": ").append reason.message
  | equation param cause =>
      rw [within]
      exact ((hblock.append param).append ": ").append cause.message
  | unused params =>
      rw [within]
      exact (Text.opens_of_mem (List.mem_cons_of_mem _ List.mem_cons_self)).append _
  | multiple errors =>
      have hsize := congrArg sizeOf h
      simp [parts] at hsize
      omega

/-- The error of a block tells its faults by the name of the block. -/
theorem opens_of_mem_parts_within (h : e.IsFlat) : ∀ x ∈ (e.within block).parts,
    Text.Opens [block ++ ".", "unused parameters: "] x.message := by
  rw [parts_within]
  exact List.forall_mem_map.mpr fun part hpart => opens_message_within (h.single part hpart)

/-- The message of several faults begins with their number. -/
theorem head_message_multiple (errors : List ConfigurationError) :
    ∃ c ∈ (multiple errors).message.toList.head?, c.isDigit = true := by
  have hmessage : (multiple errors).message = toString errors.length ++ " configuration errors: " ++
    "; ".intercalate (messages errors) := rfl
  have hdigits : (toString errors.length).toList = Decimal.decimalDigits errors.length := by
    simp [Decimal.decimalDigits]
  cases hcs : Decimal.decimalDigits errors.length with
  | nil => exact absurd hcs (Decimal.decimalDigits_ne_nil _)
  | cons c cs =>
      refine ⟨c, ?_, Decimal.isDigit_of_mem_decimalDigits (hcs ▸ List.mem_cons_self)⟩
      rw [hmessage, String.toList_append, String.toList_append, hdigits, hcs]
      rfl

end ConfigurationError

namespace Schema

/-- What the message of a fault of a schema begins with. -/
def openings : List String :=
  ["sources", "timestamp.", "value", "value.", "attributes.", "filter.", "unused parameters: "]

theorem opens_of_inBlock {α : Type} {r : Except ConfigurationError α} {block : String}
    (h : FailsWith ConfigurationError.IsFlat r) (hblock : Text.Opens openings (block ++ ".")) :
    FailsWith (fun e => ∀ x ∈ e.parts, Text.Opens openings x.message) (inBlock block r) := by
  refine h.inBlock fun e hflat x hx => ?_
  refine (ConfigurationError.opens_of_mem_parts_within hflat x hx).mono ?_
  refine List.forall_mem_cons.mpr ⟨hblock, List.forall_mem_singleton.mpr ?_⟩
  exact Text.opens_of_mem (by decide)

/-- Every fault of a schema is told by the name of a section, or as a property that is left. -/
theorem opens_of_mem_errors (p : Properties) : ∀ e ∈ (Sections.ofProperties p).errors,
    ∀ x ∈ e.parts, Text.Opens openings x.message := by
  have hstart {start : String} (h : start ∈ openings) := Text.opens_of_mem h
  refine forall_mem_errors ?sources ?timestamp ?value ?none ?label ?filter ?left p
  case sources =>
    refine List.forall_mem_singleton.mpr ?_
    exact (hstart (by decide)).append " must be specified"
  case timestamp =>
    intro q
    exact opens_of_inBlock (TimestampSource.ofProperties_checked q).1 (hstart (by decide))
  case value =>
    intro id q
    exact opens_of_inBlock (ValueSource.ofProperties_checked id q).1
      (((hstart (by decide)).append id).append ".")
  case none =>
    refine List.forall_mem_singleton.mpr ?_
    exact (hstart (by decide)).append " must be specified"
  case label =>
    intro name rule complaint
    refine List.forall_mem_singleton.mpr ?_
    exact (((((hstart (by decide)).append name).append ": invalid value \"").append rule).append
      "\": ").append _
  case filter =>
    intro q
    exact opens_of_inBlock (Filter.ofProperties_checked q).1 (hstart (by decide))
  case left =>
    intro params
    refine List.forall_mem_singleton.mpr ?_
    exact (hstart (by decide)).append _

/-- No record fails with the message of an error of a configuration. -/
theorem message_ne_of_configure {s : Schema} {p : Properties} {e : ConfigurationError}
    (h : (s.configure p).1 = .error e) (x : ExtractionError) : e.message ≠ x.message := by
  have hparts := ConfigurationError.parts_of_collect (isFlat_of_mem_errors p) h
  have hopens : ∀ part ∈ e.parts, Text.Opens openings part.message := by
    intro part hpart
    rw [hparts] at hpart
    obtain ⟨error, herror, hpart⟩ := List.mem_flatMap.mp hpart
    exact opens_of_mem_errors p error herror part hpart
  have hsingle (hpart : e ∈ e.parts) : e.message ≠ x.message :=
    (hopens e hpart).ne x.opens_message (by decide)
  cases e with
  | multiple errors =>
      obtain ⟨c, hc, hdigit⟩ := ConfigurationError.head_message_multiple errors
      intro heq
      rw [heq] at hc
      rw [x.not_isDigit_of_head_message c hc] at hdigit
      cases hdigit
  | missing => exact hsingle List.mem_cons_self
  | invalid => exact hsingle List.mem_cons_self
  | equation => exact hsingle List.mem_cons_self
  | unused => exact hsingle List.mem_cons_self

end Schema

end Telemetry
