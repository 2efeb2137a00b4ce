import Telemetry.Proofs.Definition.Configured

/-!
# Definitions that are configured again

A configuration in error keeps the variables, and the filter if it cannot read its own
(`Definition.configure_eq_build`). While a definition is in error it applies to no metric and has no
value, so nobody sees what it keeps, and a configuration without error reads all of it. So a
definition does not tell what it was before (`Definition.configured_like_new`).
-/

namespace Telemetry.Definition

variable {d d' : Definition} {p : Properties} {maxSeries : Nat}

/-! ## One configuration -/

/-- The outcome of a configuration does not hang on the former ones. -/
theorem configure_fst (d : Definition) (p : Properties) (maxSeries : Nat) :
    (d.configure p maxSeries).1 =
      ConfigurationError.collect (Sections.ofProperties p maxSeries).errors := by
  unfold configure
  generalize Sections.ofProperties p maxSeries = sections
  dsimp only
  cases ConfigurationError.collect sections.errors <;> rfl

/-- What a configuration in error keeps of the former ones. -/
theorem configure_of_error {e : ConfigurationError} (h : (d.configure p maxSeries).1 = .error e) :
    (d.configure p maxSeries).2 = { build d.name p maxSeries with
      filter := (Sections.ofProperties p maxSeries).filter.toOption.getD d.filter
      vars := d.vars } := by
  rw [configure_fst] at h
  unfold build configure
  generalize Sections.ofProperties p maxSeries = sections at h ⊢
  dsimp only
  rw [h]
  rfl

theorem equation_of_error {e : ConfigurationError} (h : (d.configure p maxSeries).1 = .error e) :
    (d.configure p maxSeries).2.equation = none := by
  rw [configure_fst] at h
  unfold configure
  generalize Sections.ofProperties p maxSeries = sections at h ⊢
  dsimp only
  rw [h]

/-- A configuration without error keeps nothing. -/
theorem configure_of_ok (h : (d.configure p maxSeries).1 = .ok ()) :
    (d.configure p maxSeries).2 = build d.name p maxSeries := by
  rw [configure_fst] at h
  have herrors := ConfigurationError.eq_nil_of_collect (isFlat_of_mem_errors p maxSeries) h
  simp only [Sections.errors, List.append_eq_nil_iff] at herrors
  obtain ⟨⟨⟨⟨⟨hfilter, -⟩, -⟩, -⟩, -⟩, -⟩ := herrors
  obtain ⟨filter, hfilter⟩ := exists_ok_of_faults hfilter
  unfold build configure
  generalize Sections.ofProperties p maxSeries = sections at h hfilter ⊢
  dsimp only
  rw [h, hfilter]
  rfl

/-! ## What can be seen of a definition -/

/-- Two definitions that nobody tells apart by their errors, by the metrics and states to which they
apply, or by what they derive. -/
structure SeenAlike (d d' : Definition) : Prop where
  error : d.error = d'.error
  isValid : d.isValid = d'.isValid
  appliesTo : ∀ m, d.appliesTo m = d'.appliesTo m
  key? : ∀ m, d.key? m = d'.key? m
  evaluate : ∀ stores time, d.evaluate stores time = d'.evaluate stores time
  derive? : ∀ stores m group updated,
    d.derive? stores m group updated = d'.derive? stores m group updated

theorem SeenAlike.refl (d : Definition) : SeenAlike d d :=
  ⟨rfl, rfl, fun _ => rfl, fun _ => rfl, fun _ _ => rfl, fun _ _ _ _ => rfl⟩

theorem appliesTo_of_isValid_eq_false (h : d.isValid = false) (m : Metric) :
    d.appliesTo m = false := by
  rw [appliesTo, h, Bool.false_and, Bool.false_and]

theorem key?_of_isValid_eq_false (h : d.isValid = false) (m : Metric) : d.key? m = none := by
  rw [key?, appliesTo_of_isValid_eq_false h, if_neg Bool.false_ne_true]

theorem evaluate_of_equation_eq_none (h : d.equation = none) (stores : Stores) (time : Instant) :
    d.evaluate stores time = none := by
  rw [evaluate, h]

theorem derive?_of_equation_eq_none (h : d.equation = none) (stores : Stores) (m : Metric)
    (group : Attributes) (updated : List String) : d.derive? stores m group updated = none := by
  rw [derive?, evaluate_of_equation_eq_none h, Option.map_none, ite_self]

/-- Of definitions without an equation only the error is seen. -/
theorem SeenAlike.of_equation_eq_none (h : d.equation = none) (h' : d'.equation = none)
    (herror : d.error = d'.error) : SeenAlike d d' := by
  have hinvalid : d.isValid = false := by
    rw [Definition.isValid, h, Option.isSome_none, Bool.and_false]
  have hinvalid' : d'.isValid = false := by
    rw [Definition.isValid, h', Option.isSome_none, Bool.and_false]
  refine ⟨herror, by rw [hinvalid, hinvalid'], fun m => ?_, fun m => ?_, fun stores time => ?_,
    fun stores m group updated => ?_⟩
  · rw [appliesTo_of_isValid_eq_false hinvalid, appliesTo_of_isValid_eq_false hinvalid']
  · rw [key?_of_isValid_eq_false hinvalid, key?_of_isValid_eq_false hinvalid']
  · rw [evaluate_of_equation_eq_none h, evaluate_of_equation_eq_none h']
  · rw [derive?_of_equation_eq_none h, derive?_of_equation_eq_none h']

theorem seenAlike_configure (d : Definition) (p : Properties) (maxSeries : Nat) :
    SeenAlike (d.configure p maxSeries).2 (build d.name p maxSeries) := by
  cases hresult : (d.configure p maxSeries).1 with
  | ok =>
      rw [configure_of_ok hresult]
      exact .refl _
  | error e =>
      have hfresh : ((unconfigured d.name).configure p maxSeries).1 = .error e := by
        rw [← hresult, configure_fst, configure_fst]
      have hbuild : (build d.name p maxSeries).equation = none := by
        rw [build]
        exact equation_of_error hfresh
      rw [configure_of_error hresult]
      generalize build d.name p maxSeries = fresh at hbuild ⊢
      exact .of_equation_eq_none hbuild hbuild rfl

/-- **A definition does not tell what it was before.** Take a definition that was configured any
number of times, with or without error, and last with some properties and some default bound. The
outcome of the last configuration, the error that it leaves, the metrics and states to which the
definition applies, its values and what it derives are those of a definition that has these
properties from the start. If the last configuration was without error, so is what the definition
records of any metric in any stores, and all else. -/
theorem configured_like_new (name : String) (history : List (Properties × Nat)) (p : Properties)
    (maxSeries : Nat) :
    let d := configured name (history ++ [(p, maxSeries)])
    let result := ((configured name history).configure p maxSeries).1
    result = ((unconfigured name).configure p maxSeries).1 ∧
      SeenAlike d (build name p maxSeries) ∧
      (result = .ok () →
        (∀ stores m groupBy, d.update stores m groupBy =
          (build name p maxSeries).update stores m groupBy) ∧
        d = build name p maxSeries) := by
  dsimp only
  rw [configured_concat]
  have hname := name_configured name history
  generalize configured name history = d at hname ⊢
  subst hname
  refine ⟨?_, seenAlike_configure d p maxSeries, fun hok => ?_⟩
  · rw [configure_fst, configure_fst]
  · rw [configure_of_ok hok]
    exact ⟨fun _ _ _ => rfl, rfl⟩

def clusterSum : Properties :=
  .ofList [("metrics.filter.attribute.cluster", "a"), ("metrics.groupby", "host"),
    ("variables.load.aggregate", "sum")]

/-- A trigger that is not declared, with other variables and another grouping. -/
def untriggered : Properties :=
  .ofList [("metrics.groupby", "ALL"), ("variables.cores.type", "numeric"), ("when", "load")]

def anyCount : Properties := .ofList [("variables.requests.aggregate", "count")]

/-- A definition in error has the variables that it had before, which nobody sees, and tells nothing
of them when it is given others. -/
theorem configured_like_new_count :
    (configured "total" [(clusterSum, 10), (untriggered, 10)]).error.isSome = true ∧
      (configured "total" [(clusterSum, 10), (untriggered, 10)]).vars.keys = ["load"] ∧
      (build "total" untriggered 10).vars.keys = [] ∧
      (∀ m, (configured "total" [(clusterSum, 10), (untriggered, 10)]).key? m =
        (build "total" untriggered 10).key? m) ∧
      (configured "total" [(clusterSum, 10), (untriggered, 10), (anyCount, 5)]).vars.keys =
        ["requests"] ∧
      configured "total" [(clusterSum, 10), (untriggered, 10), (anyCount, 5)] =
        build "total" anyCount 5 := by
  have herror : (configured "total" [(clusterSum, 10), (untriggered, 10)]).error.isSome = true ∧
      (configured "total" [(clusterSum, 10), (untriggered, 10)]).vars.keys = ["load"] ∧
      (build "total" untriggered 10).vars.keys = [] := by decide +kernel
  have hok : ((configured "total" [(clusterSum, 10), (untriggered, 10)]).configure
      anyCount 5).1.isOk = true := by decide +kernel
  have hkeys : (build "total" anyCount 5).vars.keys = ["requests"] := by decide +kernel
  obtain ⟨-, halike, -⟩ := configured_like_new "total" [(clusterSum, 10)] untriggered 10
  obtain ⟨-, -, hlast⟩ :=
    configured_like_new "total" [(clusterSum, 10), (untriggered, 10)] anyCount 5
  obtain ⟨-, hsame⟩ := hlast (eq_ok_of_isOk hok)
  refine ⟨herror.1, herror.2.1, herror.2.2, halike.key?, ?_, hsame⟩
  rw [← hkeys, ← hsame]
  rfl

end Telemetry.Definition
