import Mathlib.Data.List.Forall2
import Telemetry.Equation.Function

/-!
# What goes wrong in a call

Operands that have the types of a signature fit it (`Function.Fits`). On operands that fit, a call
gives a value of the type that it returns, or fails for one of few reasons (`Function.Fails`): its
numbers have no finite result, or it was to compare a number with a truth value.

Operands that do not fit are a misuse (`Function.Misuse`). What a misuse says is never what a
reason to fail says (`Function.Fails.message_ne`).
-/

namespace Telemetry

variable {v a b : Value} {t : ValueType}

/-! ## Types of values -/

namespace ValueType

theorem numeric_admits_iff : numeric.admits v = true ↔ ∃ x, v = .numeric x := by
  cases v <;> simp [admits, Value.type?]

theorem boolean_admits_iff : boolean.admits v = true ↔ ∃ b, v = .boolean b := by
  cases v <;> simp [admits, Value.type?]

theorem any_admits : any.admits v = !v.isContagious := by
  cases v <;> rfl

theorem isContagious_of_admits (h : t.admits v = true) : v.isContagious = false := by
  cases v <;> simp [admits, Value.type?] at h <;> rfl

end ValueType

namespace Function

variable {f : Function} {vs : List Value}

/-! ## Reasons and misuses -/

def Fits (f : Function) (vs : List Value) : Prop :=
  List.Forall₂ (fun t v => ValueType.admits t v = true) f.argumentTypes vs

/-- The number that a function of numbers has as its result, finite or not. -/
def arithmetic? : Function → List Float → Option Float
  | .add, [a, b] => some (a + b)
  | .sub, [a, b] => some (a - b)
  | .mul, [a, b] => some (a * b)
  | .div, [a, b] => some (a / b)
  | .pow, [a, b] => some (a.pow b)
  | .min, [a, b] => some (smaller a b)
  | .max, [a, b] => some (larger a b)
  | .neg, [a] => some (-a)
  | .abs, [a] => some a.abs
  | .sqrt, [a] => some a.sqrt
  | _, _ => none

/-- Why a call on operands that fit its signature fails, and what it says then. -/
inductive Fails : Function → List Value → String → Prop
  | divisionByZero {x y : Float} (hy : (y == 0) = true) :
      Fails .div [.numeric x, .numeric y] "division by zero"
  | negativeRoot {x : Float} (hx : x < 0) :
      Fails .sqrt [.numeric x] ("square root of negative number " ++ Decimal.plain x)
  | notFinite {f : Function} {xs : List Float} {x : Float} (hx : f.arithmetic? xs = some x)
      (hfinite : x.isFinite = false) :
      Fails f (xs.map .numeric) ("function " ++ f.name ++ " produced a non-finite result")
  | incomparable {f : Function} {a b : Value} (hf : f = .eq ∨ f = .ne)
      (htypes : a.type? = some .numeric ∧ b.type? = some .boolean ∨
        a.type? = some .boolean ∧ b.type? = some .numeric) :
      Fails f [a, b]
        ("function " ++ f.name ++ " cannot compare " ++ a.text ++ " with " ++ b.text)

inductive Misuse
  | arity (actual : Nat)
  | operand (position : Nat) (wanted : ValueType) (v : Value)
  | notNumeric

def Misuse.message (f : Function) : Misuse → String
  | .arity actual =>
    "function " ++ f.name ++ " expects " ++ toString f.arity ++ " arguments, got " ++
      toString actual
  | .operand position wanted v =>
    "function " ++ f.name ++ " expects " ++ wanted.name ++ " argument at position " ++
      toString position ++ ", got " ++ v.text
  | .notNumeric => "function " ++ f.name ++ " is not numeric"

/-- What a misuse says behind the name of the function, and how that begins. -/
theorem Misuse.message_eq (f : Function) (e : Misuse) : ∃ complaint : String,
    (complaint.toList[1]? = some 'e' ∨ complaint.toList[1]? = some 'i') ∧
      e.message f = "function " ++ (f.name ++ complaint) := by
  cases e with
  | arity actual =>
      refine ⟨" expects " ++ (toString f.arity ++ (" arguments, got " ++ toString actual)), ?_, ?_⟩
      · simp
      · simp only [← String.append_assoc]
        rfl
  | operand position wanted v =>
      refine ⟨" expects " ++ (wanted.name ++ (" argument at position " ++
        (toString position ++ (", got " ++ v.text)))), ?_, ?_⟩
      · simp
      · simp only [← String.append_assoc]
        rfl
  | notNumeric =>
      refine ⟨" is not numeric", ?_, ?_⟩
      · simp
      · simp only [← String.append_assoc]
        rfl

theorem Fails.message_ne {m : String} (h : f.Fails vs m) (e : Misuse) : m ≠ e.message f := by
  obtain ⟨complaint, hletter, hmessage⟩ := e.message_eq f
  rw [hmessage]
  intro heq
  cases h with
  | divisionByZero | negativeRoot =>
      -- no function is named at the beginning
      have hfirst := congrArg (fun s : String => s.toList[0]?) heq
      simp at hfirst
  | notFinite | incomparable =>
      -- the same function is named, and then the first letters differ
      simp only [String.append_assoc, String.append_right_inj] at heq
      subst heq
      simp at hletter

/-! ## Operands that fit -/

/-- The result has the type that the function returns, or is a failure that has its reason. -/
def Keeps (f : Function) (vs : List Value) (result : Value) : Prop :=
  f.returnType.admits result = true ∨ ∃ m, result = .exception m ∧ f.Fails vs m

theorem finite_keeps (xs : List Float) {x : Float} (hf : f.returnType = .numeric)
    (hx : f.arithmetic? xs = some x) : f.Keeps (xs.map .numeric) (f.finite x) := by
  unfold finite
  split
  · left
    rw [hf]
    rfl
  · rename_i hfinite
    exact Or.inr ⟨_, rfl, .notFinite hx (by simpa using hfinite)⟩

theorem computeUnary_keeps (x : Float) (hf : f.argumentTypes = [.numeric]) :
    f.Keeps [.numeric x] (f.computeUnary x) := by
  cases f with
  | neg => exact finite_keeps [x] rfl rfl
  | abs => exact finite_keeps [x] rfl rfl
  | sqrt =>
      simp only [computeUnary]
      split
      · rename_i hx
        exact Or.inr ⟨_, rfl, .negativeRoot hx⟩
      · exact finite_keeps [x] rfl rfl
  | _ => cases hf

theorem computeBinary_keeps (x y : Float) (hf : f.argumentTypes = [.numeric, .numeric]) :
    f.Keeps [.numeric x, .numeric y] (f.computeBinary x y) := by
  cases f with
  | add => exact finite_keeps [x, y] rfl rfl
  | sub => exact finite_keeps [x, y] rfl rfl
  | mul => exact finite_keeps [x, y] rfl rfl
  | pow => exact finite_keeps [x, y] rfl rfl
  | min => exact finite_keeps [x, y] rfl rfl
  | max => exact finite_keeps [x, y] rfl rfl
  | div =>
      simp only [computeBinary]
      split
      · rename_i hy
        exact Or.inr ⟨_, rfl, .divisionByZero hy⟩
      · exact finite_keeps [x, y] rfl rfl
  | gt | ge | lt | le => exact Or.inl rfl
  | _ => cases hf

theorem computeTyped_keeps_of_any (hf : f = .eq ∨ f = .ne) (ha : ValueType.any.admits a = true)
    (hb : ValueType.any.admits b = true) : f.Keeps [a, b] (f.computeTyped [a, b]) := by
  cases a with
  | numeric x =>
      cases b with
      | numeric y => rcases hf with rfl | rfl <;> exact Or.inl rfl
      | boolean y => exact Or.inr ⟨_, rfl, .incomparable hf (Or.inl ⟨rfl, rfl⟩)⟩
      | _ => cases hb
  | boolean x =>
      cases b with
      | numeric y => exact Or.inr ⟨_, rfl, .incomparable hf (Or.inr ⟨rfl, rfl⟩)⟩
      | boolean y => rcases hf with rfl | rfl <;> exact Or.inl rfl
      | _ => cases hb
  | _ => cases ha

theorem Fits.one (h : f.Fits vs) (hf : f.argumentTypes = [t]) :
    ∃ v, vs = [v] ∧ t.admits v = true := by
  unfold Fits at h
  rw [hf] at h
  obtain ⟨v, _, hv, hnil, rfl⟩ := List.forall₂_cons_left_iff.mp h
  cases hnil
  exact ⟨v, rfl, hv⟩

theorem Fits.two {t' : ValueType} (h : f.Fits vs) (hf : f.argumentTypes = [t, t']) :
    ∃ a b, vs = [a, b] ∧ t.admits a = true ∧ t'.admits b = true := by
  unfold Fits at h
  rw [hf] at h
  obtain ⟨a, _, ha, htail, rfl⟩ := List.forall₂_cons_left_iff.mp h
  obtain ⟨b, _, hb, hnil, rfl⟩ := List.forall₂_cons_left_iff.mp htail
  cases hnil
  exact ⟨a, b, rfl, ha, hb⟩

theorem computeTyped_keeps (h : f.Fits vs) : f.Keeps vs (f.computeTyped vs) := by
  cases f with
  | add | sub | mul | div | pow | min | max | gt | ge | lt | le =>
      obtain ⟨a, b, rfl, ha, hb⟩ := h.two rfl
      obtain ⟨x, rfl⟩ := ValueType.numeric_admits_iff.mp ha
      obtain ⟨y, rfl⟩ := ValueType.numeric_admits_iff.mp hb
      exact computeBinary_keeps x y rfl
  | neg | abs | sqrt =>
      obtain ⟨a, rfl, ha⟩ := h.one rfl
      obtain ⟨x, rfl⟩ := ValueType.numeric_admits_iff.mp ha
      exact computeUnary_keeps x rfl
  | eq =>
      obtain ⟨a, b, rfl, ha, hb⟩ := h.two rfl
      exact computeTyped_keeps_of_any (Or.inl rfl) ha hb
  | ne =>
      obtain ⟨a, b, rfl, ha, hb⟩ := h.two rfl
      exact computeTyped_keeps_of_any (Or.inr rfl) ha hb
  | and | or =>
      obtain ⟨a, b, rfl, ha, hb⟩ := h.two rfl
      obtain ⟨x, rfl⟩ := ValueType.boolean_admits_iff.mp ha
      obtain ⟨y, rfl⟩ := ValueType.boolean_admits_iff.mp hb
      exact Or.inl rfl
  | not =>
      obtain ⟨a, rfl, ha⟩ := h.one rfl
      obtain ⟨x, rfl⟩ := ValueType.boolean_admits_iff.mp ha
      exact Or.inl rfl

theorem mismatch?_eq_none_iff {ts : List ValueType} {position : Nat} (h : ts.length = vs.length) :
    mismatch? position ts vs = none ↔
      List.Forall₂ (fun t v => ValueType.admits t v = true) ts vs := by
  induction ts generalizing vs position with
  | nil => cases vs with
    | nil => simp [mismatch?]
    | cons v vs => cases h
  | cons t ts ih => cases vs with
    | nil => cases h
    | cons v vs =>
      rw [mismatch?, List.forall₂_cons]
      split
      · rename_i ht
        rw [ih (Nat.succ.inj h)]
        simp [ht]
      · rename_i ht
        simp [ht]

theorem Fits.find?_eq_none (h : f.Fits vs) : vs.find? Value.isContagious = none := by
  unfold Fits at h
  generalize f.argumentTypes = ts at h
  induction h with
  | nil => rfl
  | cons ht _ ih => simp [ValueType.isContagious_of_admits ht, ih]

/-! ## Calls -/

theorem compute_of_length_ne (h : vs.length ≠ f.arity) :
    f.compute vs = .exception ((Misuse.arity vs.length).message f) := by
  rw [compute, if_pos h]
  rfl

theorem compute_of_find? (h : vs.length = f.arity) (hv : vs.find? Value.isContagious = some v) :
    f.compute vs = v := by
  rw [compute, if_neg (not_not.mpr h), hv]

theorem compute_of_mismatch? {position : Nat} (h : vs.length = f.arity)
    (hnone : vs.find? Value.isContagious = none)
    (hv : mismatch? 0 f.argumentTypes vs = some (position, t, v)) :
    f.compute vs = .exception ((Misuse.operand position t v).message f) := by
  rw [compute, if_neg (not_not.mpr h), hnone]
  simp only [hv]
  rfl

theorem Fits.compute_eq (h : f.Fits vs) : f.compute vs = f.computeTyped vs := by
  have hlength : vs.length = f.arity := h.length_eq.symm
  rw [compute, if_neg (not_not.mpr hlength), h.find?_eq_none]
  simp only [(mismatch?_eq_none_iff h.length_eq).mpr h]

theorem Fits.compute_keeps (h : f.Fits vs) : f.Keeps vs (f.compute vs) :=
  h.compute_eq ▸ computeTyped_keeps h

/-- Whatever the operands are, a call gives an exception, nothing, or a value of the type that it
returns. -/
theorem compute_admits (f : Function) (vs : List Value) :
    (f.compute vs).isContagious = true ∨ f.returnType.admits (f.compute vs) = true := by
  by_cases hlength : vs.length = f.arity
  · cases hfind : vs.find? Value.isContagious with
    | some v =>
        left
        rw [compute_of_find? hlength hfind]
        exact List.find?_some hfind
    | none =>
        cases hmis : mismatch? 0 f.argumentTypes vs with
        | some e =>
            left
            rw [compute_of_mismatch? hlength hfind hmis]
            rfl
        | none =>
            have hfits : f.Fits vs := (mismatch?_eq_none_iff hlength.symm).mp hmis
            rcases hfits.compute_keeps with h | ⟨m, hm, -⟩
            · exact Or.inr h
            · left
              rw [hm]
              rfl
  · left
    rw [compute_of_length_ne hlength]
    rfl

end Function

end Telemetry
