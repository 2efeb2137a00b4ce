import Telemetry.Definition.Set
import Telemetry.Proofs.Definition.Configured
import Telemetry.Proofs.Definition.Routing
import Telemetry.Proofs.Equation.Leaves
import Telemetry.Proofs.Exceptions.Window

/-!
# Definitions refer to what they have

A configuration leaves a definition with either an error or an equation. The equation reads the
variables of the definition, each by its type, and the variables that trigger the definition are
among them as well (`Definition.closed_of_equation`). A definition that metrics do not see has an
error, which is reported unless it was a moment ago (`Definitions.mem_errors_of_hidden`).
-/

namespace Telemetry

variable {p : Properties} {maxSeries : Nat} {name : String}

def Trigger.IsAmong (names : List String) : Trigger → Prop
  | .any => True
  | .named triggers => triggers ≠ [] ∧ ∀ name ∈ triggers, name ∈ names

theorem Trigger.IsAmong.mono {trigger : Trigger} {names names' : List String}
    (h : trigger.IsAmong names) (hsub : ∀ name ∈ names, name ∈ names') :
    trigger.IsAmong names' := by
  cases trigger with
  | any => exact trivial
  | named triggers => exact ⟨h.1, fun name hname => hsub name (h.2 name hname)⟩

namespace Definition

def typeIn (vars : NameMap Variable) (name : String) : Option ValueType :=
  (vars.get? name).map Variable.type

/-! ## Sections without faults -/

theorem isAmong_of_readTrigger {declared : List String} {raw : Option String}
    (h : faults (readTrigger declared raw).2 = []) :
    (readTrigger declared raw).1.IsAmong declared := by
  unfold readTrigger at h ⊢
  cases raw with
  | none => exact trivial
  | some raw =>
      dsimp only at h ⊢
      split
      · exact trivial
      · rename_i hany
        rw [if_neg hany] at h
        dsimp only at h
        split at h
        · cases h
        · rename_i hfault
          rw [not_or, not_not] at hfault
          refine ⟨by simpa using hfault.1, fun name hname => ?_⟩
          simpa using List.filter_eq_nil_iff.mp hfault.2 name hname

/-- An equation that can be read is closed over the variables, if all that are declared could be
read and there is one. -/
theorem closed_of_readEquation {declared : List String} {vars : NameMap Variable}
    {raw : Option String} (h : faults (readEquation declared vars raw) = [])
    (hsome : declared ≠ []) (hread : ∀ name ∈ declared, name ∈ vars.keys)
    (hnames : ∀ name v, vars.get? name = some v → v.name = name) :
    ∃ tree, readEquation declared vars raw = .ok (some tree) ∧ tree.Closed (typeIn vars) := by
  unfold readEquation at h ⊢
  cases raw with
  | some text =>
      dsimp only at h ⊢
      split
      · rename_i tree htree
        exact ⟨tree, rfl, Node.closed_of_parse htree⟩
      · rename_i cause hcause
        rw [hcause] at h
        cases h
  | none =>
      match declared, hsome, hread with
      | [single], _, hread =>
          -- the variable stands for the equation
          obtain ⟨w, hw⟩ := NameMap.mem_keys.mp (hread single (List.mem_singleton_self single))
          have hvalue : w ∈ vars.values := NameMap.mem_values.mpr ⟨single, hw⟩
          obtain ⟨v, hv⟩ : ∃ v, vars.values.head? = some v :=
            ⟨_, List.head?_eq_some_head (List.ne_nil_of_mem hvalue)⟩
          obtain ⟨x, hx⟩ := NameMap.mem_values.mp (List.mem_of_head? hv)
          refine ⟨.variable v.name v.type, by simp [hv], Node.closed_variable ?_⟩
          rw [hnames x v hx, typeIn, hx]
          rfl
      | _ :: _ :: _, _, _ => cases h

theorem mem_keys_readVars (h : (Sections.ofProperties p maxSeries).errors = [])
    (hname : name ∈ declared p) : name ∈ (readVars p maxSeries).keys := by
  simp only [Sections.errors, List.append_eq_nil_iff] at h
  have hfaults : faults (inBlock ("variables." ++ name) (readVar p maxSeries name)) = [] := by
    refine List.flatMap_eq_nil_iff.mp h.1.1.1.1.2 _ ?_
    rw [vars_ofProperties]
    exact List.mem_map_of_mem hname
  obtain ⟨v, hv⟩ := exists_ok_of_inBlock hfaults
  refine NameMap.mem_keys.mpr ⟨v, ?_⟩
  rw [get?_readVars, if_pos hname, hv]
  rfl

/-- Without faults there is an equation, closed over the variables, and the trigger knows them. -/
theorem exists_equation (h : (Sections.ofProperties p maxSeries).errors = []) :
    ∃ tree, (Sections.ofProperties p maxSeries).equation = .ok (some tree) ∧
      tree.Closed (typeIn (readVars p maxSeries)) ∧
      (readTrigger (declared p) (p.get? "when")).1.IsAmong (readVars p maxSeries).keys := by
  have hread : ∀ name ∈ declared p, name ∈ (readVars p maxSeries).keys :=
    fun name => mem_keys_readVars h
  simp only [Sections.errors, List.append_eq_nil_iff] at h
  obtain ⟨⟨⟨⟨⟨-, -⟩, hany⟩, htrigger⟩, hequation⟩, -⟩ := h
  have hsome : declared p ≠ [] := by
    intro hnone
    rw [anyVars_ofProperties, hnone] at hany
    cases hany
  rw [equation_ofProperties] at hequation
  obtain ⟨tree, htree, hclosed⟩ := closed_of_readEquation hequation hsome hread
    fun name v hv => name_of_get?_byName hv
  refine ⟨tree, by rw [equation_ofProperties, htree], hclosed, ?_⟩
  rw [(trigger_ofProperties p maxSeries).2] at htrigger
  exact (isAmong_of_readTrigger htrigger).mono hread

/-! ## Configurations -/

/-- A configuration leaves an error or an equation, and not both. -/
theorem isNone_error_configure (d : Definition) (p : Properties) (maxSeries : Nat) :
    (d.configure p maxSeries).2.error.isNone = (d.configure p maxSeries).2.equation.isSome := by
  rcases configure_cases d p maxSeries with ⟨herrors, -, herror, hequation, -⟩ |
    ⟨e, -, herror, hequation, -⟩
  · obtain ⟨tree, htree, -⟩ := exists_equation herrors
    rw [herror, hequation, htree]
    rfl
  · rw [herror, hequation]
    rfl

/-- The equation that a configuration leaves is closed over the variables, and so is the trigger. -/
theorem closed_of_equation {d : Definition} {tree : Node}
    (h : (d.configure p maxSeries).2.equation = some tree) :
    tree.Closed (typeIn (d.configure p maxSeries).2.vars) ∧
      (d.configure p maxSeries).2.trigger.IsAmong (d.configure p maxSeries).2.vars.keys := by
  rcases configure_cases d p maxSeries with ⟨herrors, -, -, hequation, hvars⟩ |
    ⟨e, -, -, hequation, -⟩
  · obtain ⟨tree', htree', hclosed, htrigger⟩ := exists_equation herrors
    rw [hequation, htree'] at h
    obtain rfl : tree' = tree := Option.some.inj h
    rw [hvars, trigger_configure]
    exact ⟨hclosed, htrigger⟩
  · rw [hequation] at h
    cases h

/-- The value of a closed equation is settled by what the variables of the definition hold. -/
theorem evaluate_source_congr {d : Definition} {tree : Node}
    (h : tree.Closed (typeIn d.vars)) {stores : Stores} {time : Instant} {source : Node.Source}
    (hsource : ∀ name v, d.vars.get? name = some v → source name = v.valueAt stores time) :
    tree.evaluate (d.source stores time) = tree.evaluate source := by
  refine Node.evaluate_congr fun name type hleaf => ?_
  obtain ⟨v, hv, -⟩ := Option.map_eq_some_iff.mp (h.declared name type hleaf)
  rw [hsource name v hv, Definition.source, hv]

end Definition

/-! ## Reports -/

namespace Definitions

variable {s : Definitions} {l : List Definition} {d : Definition} {now time : Instant}
  {e : Exceptions} {error : ConfigurationError}

/-- Different definitions own different failures. -/
theorem key_ne {name' cause cause' : String} (h : name ≠ name') :
    (Owner.definition.key name, cause) ≠ (Owner.definition.key name', cause') := by
  intro heq
  exact h ((String.append_right_inj _).mp (Prod.mk.inj heq).1)

/-- Among definitions of different names, one in error reports its error unless it is held back. -/
theorem mem_raiseErrors_of_error (hnames : l.Pairwise fun d d' => d.name ≠ d'.name) (hd : d ∈ l)
    (herror : d.error = some error)
    (hraised : e.wasRaised now (Owner.definition.key d.name) error.message = false) :
    ⟨time, .exception error.message, Definition.withProducer d.name .empty⟩ ∈
      (raiseErrors now time l e).1 := by
  induction l generalizing e with
  | nil => cases hd
  | cons first rest ih =>
      obtain ⟨hfirst, hrest⟩ := List.pairwise_cons.mp hnames
      rw [raiseErrors]
      rcases List.mem_cons.mp hd with rfl | hd
      · rw [herror]
        dsimp only
        rw [Exceptions.raise_of_not_wasRaised hraised]
        exact List.mem_append_left _ (List.mem_singleton_self _)
      · split
        · exact ih hrest hd hraised
        · refine List.mem_append_right _ (ih hrest hd ?_)
          rw [← hraised]
          exact Exceptions.wasRaised_tryRaise_of_ne (key_ne (hfirst d hd).symm)

/-- A definition that metrics do not see reports its error. -/
theorem mem_errors_of_hidden (hs : s.Named) (hget : s.get? name = some d)
    (hconfigured : d.error.isNone = d.equation.isSome) (hhidden : s.valid? name = none) :
    ∃ error, d.error = some error ∧ ∀ now time e,
      e.wasRaised now (Owner.definition.key name) error.message = false →
      ⟨time, .exception error.message, Definition.withProducer name .empty⟩ ∈
        (s.errors now time e).1 := by
  have hinvalid : d.isValid = false := by
    rw [valid?, hget, Option.filter_eq_none_iff] at hhidden
    simpa using hhidden d rfl
  obtain ⟨error, herror⟩ : ∃ error, d.error = some error := by
    rw [Definition.isValid, ← hconfigured, Bool.and_self, Option.isNone_eq_false_iff] at hinvalid
    exact Option.isSome_iff_exists.mp hinvalid
  obtain rfl := hs name d hget
  refine ⟨error, herror, fun now time e hraised => ?_⟩
  exact mem_raiseErrors_of_error (NameMap.pairwise_values hs) ((mem_values_iff hs).mpr hget) herror
    hraised

end Definitions

namespace Definition

/-- **Configured definitions refer to what they have.** Take any definition after any configuration.
It has an error or an equation, and not both. All variables that the equation reads are variables of
the definition, read by their types; if the trigger names variables, it names at least one, and only
variables of the definition; the tree is not deeper than 64; and so the value of the equation is
settled by what the variables hold. In every set where metrics do not see the definition, it has an
error, and this is reported at every time at which it is not held back. -/
theorem configure_closed (d : Definition) (p : Properties) (maxSeries : Nat) :
    let d' := (d.configure p maxSeries).2
    d'.error.isNone = d'.equation.isSome ∧
      (∀ tree, d'.equation = some tree →
        (∀ name type, .variable name type ∈ tree.postorder →
          ∃ v, d'.vars.get? name = some v ∧ v.type = type) ∧
        d'.trigger.IsAmong d'.vars.keys ∧
        tree.depth ≤ 64 ∧
        ∀ stores time source,
          (∀ name v, d'.vars.get? name = some v → source name = v.valueAt stores time) →
          tree.evaluate (d'.source stores time) = tree.evaluate source) ∧
      ∀ l name, (Definitions.ofDefinitions l).get? name = some d' →
        (Definitions.ofDefinitions l).valid? name = none →
        ∃ error, d'.error = some error ∧ ∀ now time e,
          e.wasRaised now (Owner.definition.key name) error.message = false →
          ⟨time, .exception error.message, withProducer name .empty⟩ ∈
            ((Definitions.ofDefinitions l).errors now time e).1 := by
  have hone := isNone_error_configure d p maxSeries
  have hclosed := @closed_of_equation p maxSeries d
  -- from here on only these two facts of the configuration matter
  dsimp only
  generalize (d.configure p maxSeries).2 = d' at hone hclosed ⊢
  refine ⟨hone, fun tree htree => ?_, fun l name hget hhidden => ?_⟩
  · obtain ⟨hleaves, htrigger⟩ := hclosed htree
    refine ⟨fun name type hleaf => ?_, htrigger, hleaves.depth_le, fun stores time source hsource =>
      evaluate_source_congr hleaves hsource⟩
    exact Option.map_eq_some_iff.mp (hleaves.declared name type hleaf)
  · exact Definitions.mem_errors_of_hidden (Definitions.named_ofDefinitions l) hget hone hhidden

/-- A ratio of two variables, which only one of them triggers. -/
def ratio : Properties :=
  .ofList [("value", "used / total"), ("variables.total.type", "numeric"),
    ("variables.used.aggregate", "sum"), ("when", "used")]

def ratioOfUnknown : Properties := ratio.erase "variables.total.type"

/-- The ratio reads its two variables. Without one of them it is not seen, and its error is
reported. -/
theorem ratio_closed :
    (∃ tree, (build "ratio" ratio 10).equation = some tree ∧
      (∀ name type, .variable name type ∈ tree.postorder →
        ∃ v, (build "ratio" ratio 10).vars.get? name = some v ∧ v.type = type) ∧
      (build "ratio" ratio 10).trigger = .named ["used"] ∧
      (build "ratio" ratio 10).trigger.IsAmong (build "ratio" ratio 10).vars.keys) ∧
    ∃ error, (build "ratio" ratioOfUnknown 10).error = some error ∧
      error.message = "value: unknown variable: total" ∧
      ⟨.epoch, .exception error.message, withProducer "ratio" .empty⟩ ∈
        ((Definitions.ofDefinitions [build "ratio" ratioOfUnknown 10]).errors .epoch .epoch
          (.ofWindow (.ofMilliseconds 600000))).1 := by
  constructor
  · have hread : (build "ratio" ratio 10).equation.isSome = true ∧
        (build "ratio" ratio 10).trigger = .named ["used"] := by decide +kernel
    obtain ⟨hsome, htrigger⟩ := hread
    obtain ⟨tree, htree⟩ := Option.isSome_iff_exists.mp hsome
    obtain ⟨hleaves, hamong, -⟩ := (configure_closed (unconfigured "ratio") ratio 10).2.1 tree htree
    exact ⟨tree, htree, hleaves, htrigger, hamong⟩
  · have hname : (build "ratio" ratioOfUnknown 10).name = "ratio" := name_configure _ _ _
    have hget : (Definitions.ofDefinitions [build "ratio" ratioOfUnknown 10]).get? "ratio" =
        some (build "ratio" ratioOfUnknown 10) := by
      rw [Definitions.ofDefinitions, List.map_singleton, hname]
      exact NameMap.get?_insert_self _ _ _
    have hfaulty : (build "ratio" ratioOfUnknown 10).isValid = false ∧
        (build "ratio" ratioOfUnknown 10).error.map ConfigurationError.message =
          some "value: unknown variable: total" := by decide +kernel
    obtain ⟨hinvalid, hmessage⟩ := hfaulty
    have hhidden : (Definitions.ofDefinitions [build "ratio" ratioOfUnknown 10]).valid? "ratio" =
        none := by
      rw [Definitions.valid?, hget, Option.filter_some, hinvalid]
      rfl
    obtain ⟨error, herror, hreported⟩ :=
      (configure_closed (unconfigured "ratio") ratioOfUnknown 10).2.2 _ "ratio" hget hhidden
    have hsame : (build "ratio" ratioOfUnknown 10).error = some error := herror
    rw [hsame] at hmessage
    exact ⟨error, herror, Option.some.inj hmessage,
      hreported .epoch .epoch _ (Exceptions.wasRaised_ofWindow _)⟩

end Definition

end Telemetry
