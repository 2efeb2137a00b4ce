import Telemetry.Configuration.Properties

/-!
# Faults and reports

The faults of independent parameters become one report. A report names at least one fault, and no
fault is itself a report of several (`ConfigurationError.IsFlat`). So nothing gets lost on the way:
a component is accepted only if there is no fault in it (`eq_nil_of_collect`).
-/

namespace Telemetry

variable {α β ε : Type}

/-! ## Steps one after the other -/

theorem bind_eq_ok_iff {r : Except ε α} {f : α → Except ε β} {b : β} :
    r >>= f = .ok b ↔ ∃ a, r = .ok a ∧ f a = .ok b := by
  constructor
  · intro h
    cases r with
    | error e => cases h
    | ok a => exact ⟨a, rfl, h⟩
  · rintro ⟨a, rfl, h⟩
    exact h

theorem eq_ok_of_isOk {r : Except ε Unit} (h : r.isOk = true) : r = .ok () := by
  cases r with
  | ok => rfl
  | error e => cases h

theorem bind_eq_error {r : Except ε α} {f : α → Except ε β} {e : ε} (h : r >>= f = .error e) :
    r = .error e ∨ ∃ a, r = .ok a ∧ f a = .error e := by
  cases r with
  | error e' =>
      cases h
      exact .inl rfl
  | ok a => exact .inr ⟨a, rfl, h⟩

/-! ## Reports -/

namespace ConfigurationError

variable {e : ConfigurationError} {errors : List ConfigurationError} {block : String}

structure IsFlat (e : ConfigurationError) : Prop where
  parts_ne_nil : e.parts ≠ []
  single : ∀ x ∈ e.parts, x.parts = [x]

theorem isFlat_of_parts (h : e.parts = [e]) : e.IsFlat := by
  refine ⟨by simp [h], ?_⟩
  rw [h]
  intro x hx
  rw [List.mem_singleton.mp hx, h]

theorem isFlat_missing (param : String) : (missing param).IsFlat := isFlat_of_parts rfl

theorem isFlat_invalid (param value : String) (reason : Reason) :
    (invalid param value reason).IsFlat := isFlat_of_parts rfl

theorem isFlat_equation (param : String) (cause : EquationError) :
    (equation param cause).IsFlat := isFlat_of_parts rfl

theorem isFlat_unused (params : List String) : (unused params).IsFlat := isFlat_of_parts rfl

theorem parts_within (e : ConfigurationError) :
    (e.within block).parts = e.parts.map (within block) := by
  cases e <;> simp [within, parts]

/-- An enclosing block renames the parameters and leaves the faults as they are. -/
theorem IsFlat.within (h : e.IsFlat) : (e.within block).IsFlat := by
  refine ⟨?_, ?_⟩
  · rw [parts_within, ne_eq, List.map_eq_nil_iff]
    exact h.parts_ne_nil
  · intro x hx
    rw [parts_within] at hx
    obtain ⟨part, hpart, rfl⟩ := List.mem_map.mp hx
    rw [parts_within, h.single part hpart]
    rfl

/-- The report of several errors has all of their faults. -/
theorem parts_of_collect (hflat : ∀ x ∈ errors, x.IsFlat) (h : collect errors = .error e) :
    e.parts = errors.flatMap parts := by
  unfold collect at h
  split at h
  · cases h
  · rename_i part hparts
    obtain ⟨error, herror, hpart⟩ := List.mem_flatMap.mp (hparts ▸ List.mem_singleton_self part)
    have hsingle := (hflat error herror).single part hpart
    cases h
    rw [hparts, hsingle]
  · cases h
    rfl

theorem isFlat_of_collect (hflat : ∀ x ∈ errors, x.IsFlat) (h : collect errors = .error e) :
    e.IsFlat := by
  have hparts := parts_of_collect hflat h
  refine ⟨?_, ?_⟩
  · intro hnil
    rw [collect, ← hparts, hnil] at h
    cases h
  · intro x hx
    rw [hparts] at hx
    obtain ⟨error, herror, hx⟩ := List.mem_flatMap.mp hx
    exact (hflat error herror).single x hx

/-- If nothing is reported, there is no fault. -/
theorem eq_nil_of_collect (hflat : ∀ x ∈ errors, x.IsFlat) (h : collect errors = .ok ()) :
    errors = [] := by
  have hparts : errors.flatMap parts = [] := by
    unfold collect at h
    split at h
    · assumption
    · cases h
    · cases h
  refine List.eq_nil_iff_forall_not_mem.mpr fun x hx => ?_
  exact (hflat x hx).parts_ne_nil (List.flatMap_eq_nil_iff.mp hparts x hx)

end ConfigurationError

/-! ## Faults of steps -/

variable {P Q : ConfigurationError → Prop} {r : Except ConfigurationError α} {block : String}

def FailsWith (P : ConfigurationError → Prop) (r : Except ConfigurationError α) : Prop :=
  ∀ e, r = .error e → P e

theorem failsWith_ok (a : α) : FailsWith P (.ok a) := nofun

theorem failsWith_error {e : ConfigurationError} (h : P e) :
    FailsWith P (.error e : Except ConfigurationError α) := by
  rintro _ ⟨⟩
  exact h

theorem failsWith_collect {errors : List ConfigurationError} (h : ∀ x ∈ errors, x.IsFlat) :
    FailsWith ConfigurationError.IsFlat (ConfigurationError.collect errors) :=
  fun _ => ConfigurationError.isFlat_of_collect h

theorem FailsWith.bind {f : α → Except ConfigurationError β} (h : FailsWith P r)
    (hf : ∀ a, FailsWith P (f a)) : FailsWith P (r >>= f) := by
  intro e he
  rcases bind_eq_error he with he | ⟨a, -, he⟩
  · exact h e he
  · exact hf a e he

theorem FailsWith.map (h : FailsWith P r) (f : α → β) : FailsWith P (r.map f) := by
  cases r with
  | ok a => exact failsWith_ok _
  | error e => exact failsWith_error (h e rfl)

/-- An enclosing block reports the error as its own. -/
theorem FailsWith.inBlock (h : FailsWith P r) (hwithin : ∀ e, P e → Q (e.within block)) :
    FailsWith Q (inBlock block r) := by
  cases r with
  | ok a => exact failsWith_ok a
  | error e => exact failsWith_error (hwithin e (h e rfl))

theorem FailsWith.faults (h : FailsWith P r) : ∀ e ∈ faults r, P e := by
  intro e he
  cases r with
  | ok a => cases he
  | error e' =>
      rw [List.mem_singleton.mp he]
      exact h e' rfl

theorem forall_mem_flatMap_faults {steps : List (Except ConfigurationError α)}
    (h : ∀ r ∈ steps, FailsWith P r) : ∀ e ∈ steps.flatMap faults, P e :=
  List.forall_mem_flatMap.mpr fun r hr => (h r hr).faults

theorem toOption_inBlock (block : String) (r : Except ConfigurationError α) :
    (inBlock block r).toOption = r.toOption := by
  cases r <;> rfl

theorem exists_ok_of_faults (h : faults r = []) : ∃ a, r = .ok a := by
  cases r with
  | ok a => exact ⟨a, rfl⟩
  | error e => cases h

theorem exists_ok_of_inBlock (h : faults (inBlock block r) = []) : ∃ a, r = .ok a := by
  cases r with
  | ok a => exact ⟨a, rfl⟩
  | error e => cases h

/-! ## Properties that are taken -/

namespace Properties

variable {p : Properties} {key : String}

theorem failsWith_takeRequired (h : P (.missing key)) : FailsWith P (p.takeRequired key).1 := by
  unfold takeRequired
  split
  · exact failsWith_ok _
  · exact failsWith_error h

theorem failsWith_takeRead {read? : String → Except Reason α}
    (h : ∀ raw reason, P (.invalid key raw reason)) : FailsWith P (takeRead read? p key).1 := by
  unfold takeRead
  split
  · exact failsWith_ok _
  · split
    · exact failsWith_ok _
    · exact failsWith_error (h _ _)

theorem failsWith_confirmAllUsed (h : ∀ params, P (.unused params)) :
    FailsWith P p.confirmAllUsed := by
  unfold confirmAllUsed
  split
  · exact failsWith_ok _
  · exact failsWith_error (h _)

end Properties

end Telemetry
