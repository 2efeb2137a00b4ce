import Telemetry.Equation.Node
import Telemetry.Proofs.Equation.Faults

/-!
# Types of equations

A tree is built from leaves by applications that pass the check of `Node.call?`. Whatever its
variables hold, it evaluates to a value of the type that it returns, unless it fails or is absent
(`Node.Built.evaluate_admits`).

If the types of all its leaves are known, the check settles which operands a call can meet: those
that its function is made for. So every failure has one of few origins (`Node.Arises`), and no call
is ever misused (`Node.evaluate_type_sound`).
-/

namespace Telemetry.Node

variable {source : Source} {f : Function} {arguments : List Node} {d : Nat} {n s a : Node}
  {m : String}

/-! ## Trees -/

/-- Trees made of leaves by applications that are not refused. -/
inductive Built : Node → Prop
  | constant (v : Value) : Built (.constant v)
  | variable (name : String) (type : ValueType) : Built (.variable name type)
  | call {f : Function} {arguments : List Node} {n : Node}
      (harguments : ∀ a ∈ arguments, Built a) (hn : call? f arguments = .ok n) : Built n

/-- The nodes of a tree, each after those below it and operands from left to right. -/
def postorder : Node → List Node
  | .constant v => [.constant v]
  | .variable name type => [.variable name type]
  | .call f arguments depth => arguments.flatMap postorder ++ [.call f arguments depth]

def isLeaf : Node → Bool
  | .constant _ | .variable _ _ => true
  | .call _ _ _ => false

def Typed (n : Node) : Prop := ∀ s ∈ n.postorder, s.isLeaf = true → s.returnType ≠ .any

theorem mem_postorder_self (n : Node) : n ∈ n.postorder := by
  cases n <;> simp [postorder]

theorem mem_postorder_call : s ∈ (call f arguments d).postorder ↔
    (∃ a ∈ arguments, s ∈ a.postorder) ∨ s = .call f arguments d := by
  simp [postorder]

theorem mem_postorder_trans {l : Node} (hs : s ∈ n.postorder) (hl : l ∈ s.postorder) :
    l ∈ n.postorder := by
  induction n using evaluate.induct with
  | case1 v =>
      obtain rfl : s = .constant v := by simpa [postorder] using hs
      exact hl
  | case2 name type =>
      obtain rfl : s = .variable name type := by simpa [postorder] using hs
      exact hl
  | case3 f arguments d ih =>
      rcases mem_postorder_call.mp hs with ⟨a, ha, hs⟩ | rfl
      · exact mem_postorder_call.mpr (Or.inl ⟨a, ha, ih a ha hs⟩)
      · exact hl

/-! ## What `call?` accepts -/

def Accepts (f : Function) (arguments : List Node) : Prop :=
  List.Forall₂ (fun t a => ValueType.accepts t a.returnType = true) f.argumentTypes arguments

theorem misfit?_eq_none_iff {ts : List ValueType} {position : Nat}
    (h : ts.length = arguments.length) : misfit? position ts arguments = none ↔
      List.Forall₂ (fun t a => ValueType.accepts t a.returnType = true) ts arguments := by
  induction ts generalizing arguments position with
  | nil => cases arguments with
    | nil => simp [misfit?]
    | cons a arguments => cases h
  | cons t ts ih => cases arguments with
    | nil => cases h
    | cons a arguments =>
      rw [misfit?, List.forall₂_cons]
      split
      · rename_i ht
        rw [ih (Nat.succ.inj h)]
        simp [ht]
      · rename_i ht
        simp [ht]

theorem accepts_of_call? (h : call? f arguments = .ok n) :
    Accepts f arguments ∧ ∃ d, n = .call f arguments d := by
  unfold call? at h
  split at h
  · cases h
  · rename_i hlength
    split at h
    · cases h
    · rename_i hnone
      refine ⟨(misfit?_eq_none_iff (not_not.mp hlength).symm).mp hnone, ?_⟩
      dsimp only at h
      split at h
      · cases h
      · cases h
        exact ⟨_, rfl⟩

theorem Built.of_call (h : Built (.call f arguments d)) :
    Accepts f arguments ∧ ∀ a ∈ arguments, Built a := by
  generalize hn : Node.call f arguments d = n at h
  cases h with
  | constant v => cases hn
  | «variable» name type => cases hn
  | call harguments hcall =>
      obtain ⟨haccepts, d', rfl⟩ := accepts_of_call? hcall
      cases hn
      exact ⟨haccepts, harguments⟩

theorem Built.of_mem_postorder (h : Built n) (hs : s ∈ n.postorder) : Built s := by
  induction n using evaluate.induct with
  | case1 v =>
      obtain rfl : s = .constant v := by simpa [postorder] using hs
      exact h
  | case2 name type =>
      obtain rfl : s = .variable name type := by simpa [postorder] using hs
      exact h
  | case3 f arguments d ih =>
      rcases mem_postorder_call.mp hs with ⟨a, ha, hs⟩ | rfl
      · exact ih a ha (h.of_call.2 a ha) hs
      · exact h

theorem Typed.of_mem_postorder (h : Typed n) (hs : s ∈ n.postorder) : Typed s :=
  fun l hl => h l (mem_postorder_trans hs hl)

theorem Typed.of_mem_arguments (h : Typed (.call f arguments d)) (ha : a ∈ arguments) : Typed a :=
  h.of_mem_postorder (mem_postorder_call.mpr (Or.inl ⟨a, ha, mem_postorder_self a⟩))

theorem Typed.returnType_ne_any (h : Typed n) : n.returnType ≠ .any := by
  cases n with
  | constant v => exact h _ (mem_postorder_self _) rfl
  | «variable» name type => exact h _ (mem_postorder_self _) rfl
  | call f arguments d => cases f <;> exact fun h => nomatch h

/-! ## Every value has the type of its node -/

def operands (source : Source) (arguments : List Node) : List Value :=
  arguments.map (evaluate source)

theorem evaluate_call (source : Source) (f : Function) (arguments : List Node) (d : Nat) :
    evaluate source (.call f arguments d) = f.compute (operands source arguments) := by
  rw [evaluate, operands]

theorem checked_admits (name : String) (type : ValueType) (v : Value) :
    (checked name type v).isContagious = true ∨ type.admits (checked name type v) = true := by
  unfold checked
  split
  · rename_i h
    simpa using h
  · exact Or.inl rfl

theorem evaluate_admits (source : Source) (n : Node) :
    (evaluate source n).isContagious = true ∨
      n.returnType.admits (evaluate source n) = true := by
  cases n with
  | constant v =>
      rw [evaluate]
      cases v with
      | numeric | boolean => exact Or.inr rfl
      | exception | absent => exact Or.inl rfl
  | «variable» name type =>
      rw [evaluate]
      exact checked_admits name type (source name)
  | call f arguments d =>
      rw [evaluate]
      exact Function.compute_admits f _

/-! ## Operands of calls -/

theorem admits_of_accepts {wanted actual : ValueType} {v : Value}
    (h : wanted.accepts actual = true) (hactual : actual ≠ .any) (hv : actual.admits v = true) :
    wanted.admits v = true := by
  cases wanted with
  | any => simpa [ValueType.any_admits] using ValueType.isContagious_of_admits hv
  | numeric | boolean =>
      cases actual with
      | any => exact absurd rfl hactual
      | numeric | boolean => first | exact hv | cases h

theorem fits_of_accepts (haccepts : Accepts f arguments)
    (htyped : ∀ a ∈ arguments, Typed a)
    (hnone : ∀ a ∈ arguments, (evaluate source a).isContagious = false) :
    f.Fits (operands source arguments) := by
  unfold Accepts at haccepts
  unfold Function.Fits
  generalize f.argumentTypes = ts at haccepts
  induction haccepts with
  | nil => exact .nil
  | @cons t a ts arguments ha _ ih =>
      have hadmits : a.returnType.admits (evaluate source a) = true :=
        (evaluate_admits source a).resolve_left (by simp [hnone a List.mem_cons_self])
      refine .cons (admits_of_accepts ha (htyped a List.mem_cons_self).returnType_ne_any hadmits) ?_
      exact ih (fun b hb => htyped b (List.mem_cons_of_mem _ hb))
        fun b hb => hnone b (List.mem_cons_of_mem _ hb)

/-- In a tree whose leaves have known types, a call hands an operand on or its operands fit. -/
theorem Built.handed_or_fits (h : Built (.call f arguments d))
    (htyped : Typed (.call f arguments d)) (source : Source) :
    (∃ v, (operands source arguments).find? Value.isContagious = some v ∧
        f.compute (operands source arguments) = v) ∨
      f.Fits (operands source arguments) := by
  obtain ⟨haccepts, -⟩ := h.of_call
  cases hfind : (operands source arguments).find? Value.isContagious with
  | some v =>
      left
      have hlength : (operands source arguments).length = f.arity := by
        rw [operands, List.length_map]
        exact haccepts.length_eq.symm
      exact ⟨v, rfl, Function.compute_of_find? hlength hfind⟩
  | none =>
      right
      refine fits_of_accepts haccepts (fun a ha => htyped.of_mem_arguments ha) fun a ha => ?_
      simpa using List.find?_eq_none.mp hfind _ (List.mem_map_of_mem ha)

/-! ## Where failures come from -/

/-- **The origins of a failure.** `Arises source s m`: the failure `m` comes up at the node `s`
itself. The variable holds it, or a value of another type than it is declared, or the call fails on
operands that fit its function. -/
inductive Arises (source : Source) : Node → String → Prop
  | supplied {name : String} {type : ValueType} {m : String} (h : source name = .exception m) :
      Arises source (.variable name type) m
  | mistyped {name : String} {type : ValueType} (hv : (source name).isContagious = false)
      (htype : type.admits (source name) = false) :
      Arises source (.variable name type) ("variable " ++ name ++ " is declared " ++ type.name ++
        " but holds " ++ (source name).text)
  | failed {f : Function} {arguments : List Node} {d : Nat} {m : String}
      (h : f.Fails (operands source arguments) m) :
      Arises source (.call f arguments d) m

theorem arises_of_checked {name : String} {type : ValueType}
    (h : checked name type (source name) = .exception m) :
    Arises source (.variable name type) m := by
  unfold checked at h
  split at h
  · exact .supplied h
  · rename_i hchecked
    simp only [Bool.or_eq_true, not_or, Bool.not_eq_true] at hchecked
    cases h
    exact .mistyped hchecked.1 hchecked.2

theorem Built.exists_arises (h : Built n) (htyped : Typed n)
    (hm : evaluate source n = .exception m) :
    ∃ s ∈ n.postorder, evaluate source s = .exception m ∧ Arises source s m := by
  induction n using evaluate.induct with
  | case1 v =>
      -- a constant that is a failure has no known type
      rw [evaluate] at hm
      subst hm
      exact absurd rfl htyped.returnType_ne_any
  | case2 name type =>
      refine ⟨_, mem_postorder_self _, hm, arises_of_checked ?_⟩
      rwa [evaluate] at hm
  | case3 f arguments d ih =>
      have hcompute : f.compute (operands source arguments) = .exception m :=
        evaluate_call source f arguments d ▸ hm
      rcases h.handed_or_fits htyped source with ⟨v, hfind, hv⟩ | hfits
      · obtain ⟨a, ha, hav⟩ := List.mem_map.mp (List.mem_of_find?_eq_some hfind)
        rw [← hav, hcompute] at hv
        obtain ⟨s, hs, hsm, harises⟩ :=
          ih a ha (h.of_call.2 a ha) (htyped.of_mem_arguments ha) hv.symm
        exact ⟨s, mem_postorder_call.mpr (Or.inl ⟨a, ha, hs⟩), hsm, harises⟩
      · refine ⟨_, mem_postorder_self _, hm, ?_⟩
        rcases hfits.compute_keeps with hadmits | ⟨m', hm', hfails⟩
        · rw [hcompute] at hadmits
          cases hadmits
        · rw [hcompute] at hm'
          cases hm'
          exact .failed hfails

theorem Built.not_misused (h : Built (.call f arguments d))
    (htyped : Typed (.call f arguments d)) (source : Source) :
    (∃ v, (operands source arguments).find? Value.isContagious = some v ∧
        f.compute (operands source arguments) = v) ∨
      ∀ e : Function.Misuse,
        f.compute (operands source arguments) ≠ .exception (e.message f) := by
  refine (h.handed_or_fits htyped source).imp id fun hfits e he => ?_
  rcases hfits.compute_keeps with hadmits | ⟨m, hm, hfails⟩
  · rw [he] at hadmits
    cases hadmits
  · rw [he] at hm
    cases hm
    exact hfails.message_ne e rfl

/-- **Equations are type sound.** A tree evaluates to a failure, to nothing, or to a value of the
type that it returns. If the types of all leaves are known, every failure has one of the origins of
`Arises` at a node of the tree, and no call of the tree is misused: it hands on the first operand
that is a failure or absent, or it never says that its operands are not what it expects. -/
theorem evaluate_type_sound (source : Source) (n : Node) (h : Built n) :
    ((evaluate source n).isContagious = true ∨ n.returnType.admits (evaluate source n) = true) ∧
    (Typed n →
      (∀ m, evaluate source n = .exception m →
        ∃ s ∈ n.postorder, evaluate source s = .exception m ∧ Arises source s m) ∧
      ∀ f arguments d, .call f arguments d ∈ n.postorder →
        (∃ v, (operands source arguments).find? Value.isContagious = some v ∧
          f.compute (operands source arguments) = v) ∨
        ∀ e : Function.Misuse,
          f.compute (operands source arguments) ≠ .exception (e.message f)) := by
  refine ⟨evaluate_admits source n, fun htyped => ⟨fun _ hm => h.exists_arises htyped hm, ?_⟩⟩
  intro f arguments d hcall
  exact (h.of_mem_postorder hcall).not_misused (htyped.of_mem_postorder hcall) source

def underload : Node :=
  .call .gt [.call .div [.constant (.numeric 1), .variable "load" .numeric] 2,
    .constant (.numeric 2)] 3

/-- Without load the division fails, and the comparison hands its failure on. -/
theorem evaluate_underload :
    Built underload ∧ Typed underload ∧
    ∃ s ∈ underload.postorder,
      evaluate (fun _ => .numeric 0) s = .exception "division by zero" ∧
      Arises (fun _ => .numeric 0) s "division by zero" := by
  have hdiv : Built (.call .div [.constant (.numeric 1), .variable "load" .numeric] 2) := by
    refine @Built.call .div [.constant (.numeric 1), .variable "load" .numeric] _ ?_ rfl
    simp only [List.forall_mem_cons, List.not_mem_nil, false_implies, implies_true, and_true]
    exact ⟨.constant _, .variable _ _⟩
  have hbuilt : Built underload := by
    refine @Built.call .gt [.call .div [.constant (.numeric 1), .variable "load" .numeric] 2,
      .constant (.numeric 2)] _ ?_ rfl
    simp only [List.forall_mem_cons, List.not_mem_nil, false_implies, implies_true, and_true]
    exact ⟨hdiv, .constant _⟩
  have htyped : Typed underload := by
    simp [Typed, underload, postorder, isLeaf, returnType, Value.type?]
  have hzero : evaluate (fun _ => .numeric 0) underload = .exception "division by zero" := by
    simp [underload, evaluate, checked, ValueType.admits, Value.type?, Value.isContagious]
    decide
  exact ⟨hbuilt, htyped, ((evaluate_type_sound _ _ hbuilt).2 htyped).1 _ hzero⟩

end Telemetry.Node
