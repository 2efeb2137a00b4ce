import Mathlib.Data.List.Basic
import Telemetry.Proofs.Configuration.Blocks
import Telemetry.Proofs.Configuration.Faults

/-!
# Parameters of errors

What an error names as its parameters, when it is reported by enclosing blocks and when it is
collected with others. A block goes in front of every name (`params_within`), and a block within a
block is one block (`within_within`). Collecting loses no name and changes none, and it makes no
difference whether errors are collected inside of a block or outside (`collect_map_within`).
-/

namespace Telemetry.ConfigurationError

open Properties (qualified_qualified)

variable {e : ConfigurationError} {errors : List ConfigurationError}

def IsSingle (e : ConfigurationError) : Prop := ∀ inner, e ≠ .multiple inner

theorem isSingle_iff : e.IsSingle ↔ e.parts = [e] := by
  constructor
  · intro h
    cases e with
    | multiple inner => exact absurd rfl (h inner)
    | _ => rfl
  · rintro h inner rfl
    -- no report is its own only part
    have hsize := congrArg sizeOf (show inner = [.multiple inner] from h)
    simp at hsize
    omega

/-- A report is flat if it is one of single errors, of at least one. -/
theorem isFlat_iff :
    e.IsFlat ↔ ∀ inner, e = .multiple inner → inner ≠ [] ∧ ∀ x ∈ inner, x.IsSingle := by
  constructor
  · rintro h inner rfl
    exact ⟨h.parts_ne_nil, fun x hx => isSingle_iff.mpr (h.single x hx)⟩
  · intro h
    cases e with
    | multiple inner =>
        obtain ⟨hinner, hsingle⟩ := h inner rfl
        exact ⟨hinner, fun x hx => isSingle_iff.mp (hsingle x hx)⟩
    | _ => exact isFlat_of_parts rfl

/-! ## Names -/

theorem flatMap_params_parts (e : ConfigurationError) : e.parts.flatMap params = e.params := by
  cases e with
  | multiple inner => rw [parts, params]
  | _ => rw [parts, List.flatMap_singleton]; simp

/-- The report of several errors has the names of all, in their order. -/
theorem params_of_collect (h : collect errors = .error e) : e.params = errors.flatMap params := by
  have hparams : errors.flatMap params = (errors.flatMap parts).flatMap params := by
    rw [List.flatMap_assoc]
    exact List.flatMap_congr fun x _ => (flatMap_params_parts x).symm
  rw [hparams]
  unfold collect at h
  split at h
  · cases h
  · rename_i part hparts
    cases h
    rw [hparts, List.flatMap_singleton]
  · cases h
    rw [params]

/-- An enclosing block goes in front of every name. -/
theorem params_within (block : String) (e : ConfigurationError) :
    (e.within block).params = e.params.map (qualified block) := by
  induction e using within.induct with
  | case5 inner ih =>
      rw [within, params, params, List.flatMap_map, List.map_flatMap]
      exact List.flatMap_congr ih
  | _ => simp [within, params]

/-- A block within a block. -/
theorem within_within (inner outer : String) (e : ConfigurationError) :
    (e.within inner).within outer = e.within (qualified outer inner) := by
  induction e using within.induct with
  | case5 errors ih =>
      rw [within, within, within, List.map_map]
      exact congrArg _ (List.map_congr_left ih)
  | _ => simp [within, qualified_qualified]

theorem collect_map_within (block : String) (errors : List ConfigurationError) :
    collect (errors.map (within block)) = (collect errors).mapError (within block) := by
  have hparts : (errors.map (within block)).flatMap parts =
      (errors.flatMap parts).map (within block) := by
    rw [List.flatMap_map, List.map_flatMap]
    exact List.flatMap_congr fun x _ => parts_within x
  rw [collect, collect, hparts]
  rcases errors.flatMap parts with _ | ⟨first, _ | ⟨second, rest⟩⟩
  · rfl
  · rfl
  · show Except.error _ = Except.error (within block (.multiple _))
    rw [within]
    rfl

/-- **No error is lost, and no parameter goes by another name.** If every report among some errors
is one of single errors, of at least one, then there is nothing to report if and only if there is
no error. Otherwise what is reported has all of the errors, and so the names of all parameters, in
their order, and it holds no report.

An enclosing block goes in front of every name, whether its errors are collected before or after,
and a block within a block is one block with the longer name. -/
theorem collect_keeps_parameters :
    (∀ errors, (∀ inner, .multiple inner ∈ errors → inner ≠ [] ∧ ∀ x ∈ inner, IsSingle x) →
      (collect errors = .ok () ↔ errors = []) ∧
      ∀ e, collect errors = .error e →
        e.params = errors.flatMap params ∧ e.parts = errors.flatMap parts ∧
        ∀ inner, e = .multiple inner → ∀ x ∈ inner, IsSingle x) ∧
    (∀ (e : ConfigurationError) (block : String),
      (e.within block).params = e.params.map fun param => block ++ "." ++ param) ∧
    (∀ (errors : List ConfigurationError) (block : String),
      collect (errors.map (within block)) = (collect errors).mapError (within block)) ∧
    ∀ (e : ConfigurationError) (inner outer : String),
      (e.within inner).within outer = e.within (outer ++ "." ++ inner) := by
  refine ⟨fun errors hinner => ?_, fun e block => params_within block e,
    fun errors block => collect_map_within block errors,
    fun e inner outer => within_within inner outer e⟩
  have hflat : ∀ x ∈ errors, x.IsFlat := by
    intro x hx
    refine isFlat_iff.mpr ?_
    rintro inner rfl
    exact hinner inner hx
  refine ⟨⟨eq_nil_of_collect hflat, fun h => h ▸ rfl⟩, fun e he => ?_⟩
  refine ⟨params_of_collect he, parts_of_collect hflat he, fun inner heq => ?_⟩
  exact (isFlat_iff.mp (isFlat_of_collect hflat he) inner heq).2

/-- A schema without sources, and with two faults in a value. -/
def faultySchema : List ConfigurationError :=
  [.missing "sources", (multiple [.missing "key", .unused ["kye", "tpye"]]).within "value.cpu"]

/-- All faults are reported together, by the names that the schema has for their parameters. -/
theorem faultySchema_params :
    (∀ inner, .multiple inner ∈ faultySchema → inner ≠ [] ∧ ∀ x ∈ inner, IsSingle x) ∧
    ∃ e, collect faultySchema = .error e ∧
      e.params = ["sources", "value.cpu.key", "value.cpu.kye", "value.cpu.tpye"] := by
  have hvalue : (multiple [.missing "key", .unused ["kye", "tpye"]]).within "value.cpu" =
      .multiple [.missing "value.cpu.key", .unused ["value.cpu.kye", "value.cpu.tpye"]] := by
    simp only [within, List.map_cons, List.map_nil]
    rfl
  have hinner : ∀ inner, .multiple inner ∈ faultySchema →
      inner ≠ [] ∧ ∀ x ∈ inner, IsSingle x := by
    intro inner hmem
    rw [faultySchema, hvalue] at hmem
    obtain rfl : inner = _ := by simpa using hmem
    simp [IsSingle]
  refine ⟨hinner, ?_⟩
  obtain ⟨hok, herror⟩ := collect_keeps_parameters.1 faultySchema hinner
  cases hcollect : collect faultySchema with
  | ok => exact absurd (hok.mp hcollect) (List.cons_ne_nil _ _)
  | error e =>
      refine ⟨e, rfl, ?_⟩
      rw [(herror e hcollect).1, faultySchema, hvalue]
      simp [params]

end Telemetry.ConfigurationError
