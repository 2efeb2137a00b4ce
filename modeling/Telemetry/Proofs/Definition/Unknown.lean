import Telemetry.Proofs.Definition.Closed
import Telemetry.Proofs.Definition.Reconfigured
import Telemetry.Proofs.Equation.Declarations

/-!
# Variables that a definition reports as unknown

The equation of a definition is read over the variables that could be read. One that is declared,
but in error, is unknown to it, and is reported as such besides its own error if the equation asks
for it (`Definition.unknown_reported_iff`).
-/

namespace Telemetry

variable {d : Definition} {p : Properties} {maxSeries : Nat} {fault : ConfigurationError}
  {cause : EquationError}

open ConfigurationError (qualified)

/-- A block reports no equation that stands outside of it. -/
theorem ConfigurationError.equation_not_mem_parts_within {block param : String}
    (h : Properties.isUnder block param = false) (e : ConfigurationError) :
    .equation param cause ∉ (e.within block).parts := by
  rw [parts_within]
  intro hmem
  obtain ⟨part, -, hpart⟩ := List.mem_map.mp hmem
  cases part with
  | equation param' cause' =>
      rw [within, equation.injEq] at hpart
      exact Properties.qualified_ne h hpart.1
  | missing | invalid | unused | multiple => simp [within] at hpart

namespace Definition

/-! ## What a configuration reports -/

/-- A configuration is in error, and this is one of its faults. -/
def Reports (d : Definition) (p : Properties) (maxSeries : Nat) (fault : ConfigurationError) :
    Prop :=
  ∃ e, (d.configure p maxSeries).1 = .error e ∧ fault ∈ e.parts

/-- All faults of the sections are reported. -/
theorem reports_iff : d.Reports p maxSeries fault ↔
    ∃ e ∈ (Sections.ofProperties p maxSeries).errors, fault ∈ e.parts := by
  have hflat := isFlat_of_mem_errors p maxSeries
  rw [Reports, configure_fst]
  constructor
  · rintro ⟨e, he, hfault⟩
    rw [ConfigurationError.parts_of_collect hflat he] at hfault
    exact List.mem_flatMap.mp hfault
  · intro hfault
    cases hcollect : ConfigurationError.collect (Sections.ofProperties p maxSeries).errors with
    | ok =>
        rw [ConfigurationError.eq_nil_of_collect hflat hcollect] at hfault
        obtain ⟨e, he, -⟩ := hfault
        cases he
    | error e =>
        refine ⟨e, rfl, ?_⟩
        rw [ConfigurationError.parts_of_collect hflat hcollect]
        exact List.mem_flatMap.mpr hfault

/-- Only the section of the equation is at fault with the equation. -/
theorem mem_faults_equation : ∀ e ∈ (Sections.ofProperties p maxSeries).errors,
    .equation "value" cause ∈ e.parts →
      e ∈ faults (Sections.ofProperties p maxSeries).equation := by
  have hblock {α : Type} {block : String} (hunder : Properties.isUnder block "value" = false)
      (r : Except ConfigurationError α) :
      FailsWith (fun e => .equation "value" cause ∈ e.parts →
        e ∈ faults (Sections.ofProperties p maxSeries).equation) (inBlock block r) :=
    FailsWith.inBlock (P := fun _ => True) (fun _ _ => trivial) fun e _ hcause =>
      absurd hcause (ConfigurationError.equation_not_mem_parts_within hunder e)
  refine forall_mem_errors (fun q => hblock (by decide) _) (fun name q => hblock ?_ _) ?_ ?_ ?_ ?_
  · refine Bool.eq_false_iff.mpr fun hunder => ?_
    obtain ⟨param, hvalue⟩ := Properties.isUnder_iff.mp hunder
    have hne : qualified "variables" (qualified name param) ≠ "value" :=
      Properties.qualified_ne (by decide)
    exact hne ((Properties.qualified_qualified _ _ _).symm.trans hvalue.symm)
  · simp [ConfigurationError.parts]
  · simp [ConfigurationError.parts]
  · intro e he _
    rw [he]
    exact List.mem_singleton_self e
  · simp [ConfigurationError.parts]

theorem mem_faults_readEquation_iff {declared : List String} {vars : NameMap Variable}
    {raw : Option String} :
    (∃ e ∈ faults (readEquation declared vars raw), .equation "value" cause ∈ e.parts) ↔
      ∃ text, raw = some text ∧ Node.parse text (typeIn vars) = .error cause := by
  unfold readEquation
  cases raw with
  | some text =>
      have htypes : (fun name => (vars.get? name).map Variable.type) = typeIn vars := rfl
      rw [htypes]
      cases hparse : Node.parse text (typeIn vars) with
      | ok tree => simp [hparse, faults]
      | error cause' => simp [hparse, faults, ConfigurationError.parts, eq_comm]
  | none =>
      rcases declared with _ | ⟨first, _ | ⟨second, rest⟩⟩ <;>
        simp [faults, ConfigurationError.parts]

/-- What is wrong with the equation is reported as it is read over the variables that could be
read. -/
theorem reports_equation_iff : d.Reports p maxSeries (.equation "value" cause) ↔
    ∃ text, p.get? "value" = some text ∧
      Node.parse text (typeIn (readVars p maxSeries)) = .error cause := by
  rw [reports_iff, ← mem_faults_readEquation_iff, ← equation_ofProperties]
  constructor
  · rintro ⟨e, he, hcause⟩
    exact ⟨e, mem_faults_equation e he hcause, hcause⟩
  · rintro ⟨e, he, hcause⟩
    refine ⟨e, ?_, hcause⟩
    simp only [Sections.errors, List.mem_append]
    exact .inl (.inr he)

/-- A variable in error is reported as the enclosing block knows it. -/
theorem reports_of_readVar {name : String} {e : ConfigurationError} (hname : name ∈ declared p)
    (he : readVar p maxSeries name = .error e) (hfault : fault ∈ e.parts) :
    d.Reports p maxSeries (fault.within ("variables." ++ name)) := by
  refine reports_iff.mpr ⟨e.within ("variables." ++ name), ?_, ?_⟩
  · simp only [Sections.errors, List.mem_append]
    refine .inl (.inl (.inl (.inl (.inr ?_))))
    rw [vars_ofProperties]
    refine List.mem_flatMap.mpr ⟨_, List.mem_map_of_mem hname, ?_⟩
    rw [he]
    exact List.mem_singleton_self _
  · rw [ConfigurationError.parts_within]
    exact List.mem_map_of_mem hfault

/-- **Which variables a definition reports as unknown.** Take any definition and any properties. The
configuration reports that the equation reads an unknown variable if and only if the equation asks
for the variable, over those that could be read, and it is not declared, or declared but in error.
In the second case the faults of the variable itself are reported as well. -/
theorem unknown_reported_iff (d : Definition) (p : Properties) (maxSeries : Nat)
    (name : String) :
    (d.Reports p maxSeries (.equation "value" (.unknownVariable name)) ↔
      (name ∉ declared p ∨ ∃ e, readVar p maxSeries name = .error e) ∧
        ∃ text, p.get? "value" = some text ∧
          Node.AsksFor text (typeIn (readVars p maxSeries)) name) ∧
    (name ∈ declared p → ∀ e, readVar p maxSeries name = .error e →
      e.parts ≠ [] ∧ ∀ fault ∈ e.parts,
        d.Reports p maxSeries (fault.within ("variables." ++ name))) := by
  constructor
  · have hmissing : typeIn (readVars p maxSeries) name = none ↔
        name ∉ declared p ∨ ∃ e, readVar p maxSeries name = .error e := by
      rw [typeIn, Option.map_eq_none_iff, get?_readVars]
      by_cases hname : name ∈ declared p
      · rw [if_pos hname]
        cases readVar p maxSeries name with
        | ok v => simp [Except.toOption, hname]
        | error e => simp [Except.toOption]
      · simp [hname]
    rw [reports_equation_iff, ← hmissing]
    simp only [Node.parse_eq_unknown_iff]
    constructor
    · rintro ⟨text, htext, hnone, hasks⟩
      exact ⟨hnone, text, htext, hasks⟩
    · rintro ⟨hnone, text, htext, hasks⟩
      exact ⟨text, htext, hnone, hasks⟩
  · intro hname e he
    refine ⟨?_, fun fault => reports_of_readVar hname he⟩
    exact ((Variable.ofProperties_checked name _ maxSeries).1 e he).parts_ne_nil

/-- A variable with an aggregation that there is not, and an equation that reads it. -/
def unreadable : Properties :=
  .ofList [("value", "load / 2"), ("variables.load.aggregate", "median")]

/-- The faults of the variable are reported. -/
theorem unknown_reported_load :
    "load" ∈ declared unreadable ∧ ∃ e, readVar unreadable 10 "load" = .error e ∧
      e.message = "aggregate: invalid value \"median\": unknown aggregation median, " ++
        "expected sum, avg, count, min, max or last" ∧
      ∀ fault ∈ e.parts,
        (unconfigured "half").Reports unreadable 10 (fault.within "variables.load") := by
  have hdeclared : "load" ∈ declared unreadable := by decide +kernel
  have hvar : (faults (readVar unreadable 10 "load")).map ConfigurationError.message =
      ["aggregate: invalid value \"median\": unknown aggregation median, " ++
        "expected sum, avg, count, min, max or last"] := by decide +kernel
  cases he : readVar unreadable 10 "load" with
  | ok v =>
      rw [he] at hvar
      cases hvar
  | error e =>
      rw [he] at hvar
      exact ⟨hdeclared, e, rfl, (List.cons.inj hvar).1,
        ((unknown_reported_iff (unconfigured "half") unreadable 10 "load").2 hdeclared e he).2⟩

/-- The variable is declared, and is reported as unknown. -/
theorem declared_reported_unknown :
    "load" ∈ declared unreadable ∧
      (unconfigured "half").Reports unreadable Variable.defaultMaxSeries
        (.equation "value" (.unknownVariable "load")) := by
  have hdeclared : "load" ∈ declared unreadable := by decide +kernel
  have htext : unreadable.get? "value" = some "load / 2" := by decide +kernel
  have hcause : Except.casesOn (motive := fun _ => Option EquationError)
      (Node.parse "load / 2" (typeIn (readVars unreadable Variable.defaultMaxSeries)))
      some (fun _ => none) = some (.unknownVariable "load") := by decide +kernel
  refine ⟨hdeclared, reports_equation_iff.mpr ⟨_, htext, ?_⟩⟩
  cases hparse : Node.parse "load / 2"
      (typeIn (readVars unreadable Variable.defaultMaxSeries)) with
  | ok tree =>
      rw [hparse] at hcause
      cases hcause
  | error cause =>
      rw [hparse] at hcause
      rw [Option.some.inj hcause]

end Definition

end Telemetry
