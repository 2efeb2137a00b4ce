import Telemetry.Proofs.Equation.Leaves
import Telemetry.Proofs.NameMap

/-!
# Variables of equations

A tree lists the names of its variables. Its value hangs on what these hold, and on nothing else. In
the tree of a text, the variables are the identifiers of the text that are no truth values and call
no functions: each of them is one leaf of the tree, in the order of the text
(`Spells.occurrences_eq`).
-/

namespace Telemetry

/-! ## Names in trees -/

namespace Node

variable {n : Node} {name : String} {source source' : Source}

theorem occurrences_call {f : Function} {arguments : List Node} {d : Nat} :
    (call f arguments d).occurrences = arguments.flatMap occurrences := by
  rw [occurrences]

theorem mem_occurrences :
    name ∈ n.occurrences ↔ ∃ type, .variable name type ∈ n.postorder := by
  induction n using occurrences.induct with
  | case1 v => simp [occurrences, postorder]
  | case2 name' type => simp [occurrences, postorder]
  | case3 f arguments d ih =>
      rw [occurrences_call, List.mem_flatMap]
      constructor
      · rintro ⟨a, ha, hname⟩
        obtain ⟨type, hleaf⟩ := (ih a ha).mp hname
        exact ⟨type, mem_postorder_call.mpr (.inl ⟨a, ha, hleaf⟩)⟩
      · rintro ⟨type, hleaf⟩
        rcases mem_postorder_call.mp hleaf with ⟨a, ha, hleaf⟩ | heq
        · exact ⟨a, ha, (ih a ha).mpr ⟨type, hleaf⟩⟩
        · cases heq

theorem mem_variableNames : name ∈ n.variableNames ↔ name ∈ n.occurrences :=
  NameMap.mem_sortedNames

theorem variableNames_pairwise (n : Node) : n.variableNames.Pairwise (· < ·) :=
  NameMap.sortedNames_pairwise _

/-- Sources that agree on the names of a tree are not told apart by it. -/
theorem evaluate_eq_of_agree (h : ∀ name ∈ n.variableNames, source name = source' name) :
    evaluate source n = evaluate source' n := by
  refine evaluate_congr fun name type hleaf => h name ?_
  exact mem_variableNames.mpr (mem_occurrences.mpr ⟨type, hleaf⟩)

end Node

/-! ## Names in texts -/

namespace Equation

/-- An identifier, with the tokens after it, stands for a variable: it is no truth value, and not
the name of a function that is called. -/
def IsVariable (name : String) (after : List Token) : Prop :=
  name ≠ "true" ∧ name ≠ "false" ∧
    ¬((Function.ofName? name).isSome = true ∧ after.head? = some .openParen)

instance (name : String) (after : List Token) : Decidable (IsVariable name after) :=
  inferInstanceAs (Decidable (_ ∧ _))

/-- The identifiers that stand for variables, in the order of the text. -/
def freeNames : List Token → List String
  | .identifier name :: rest =>
    if IsVariable name rest then name :: freeNames rest else freeNames rest
  | _ :: rest => freeNames rest
  | [] => []

variable {name : String} {ts us : List Token} {u : Token}

theorem freeNames_identifier : freeNames (.identifier name :: ts) =
    if IsVariable name ts then name :: freeNames ts else freeNames ts := by
  rw [freeNames]

/-- A name is that of a variable by the token at the head, or by one behind it. -/
theorem exists_isVariable_cons {t : Token} :
    (∃ before after, t :: ts = before ++ .identifier name :: after ∧ IsVariable name after) ↔
      (t = .identifier name ∧ IsVariable name ts) ∨
        ∃ before after, ts = before ++ .identifier name :: after ∧ IsVariable name after := by
  constructor
  · rintro ⟨before, after, hsplit, hname⟩
    cases before with
    | nil =>
        obtain ⟨rfl, rfl⟩ := List.cons.inj hsplit
        exact .inl ⟨rfl, hname⟩
    | cons first before =>
        exact .inr ⟨before, after, (List.cons.inj hsplit).2, hname⟩
  · rintro (⟨rfl, hname⟩ | ⟨before, after, rfl, hname⟩)
    · exact ⟨[], ts, rfl, hname⟩
    · exact ⟨t :: before, after, rfl, hname⟩

theorem mem_freeNames : name ∈ freeNames ts ↔
    ∃ before after, ts = before ++ .identifier name :: after ∧ IsVariable name after := by
  induction ts with
  | nil => simp [freeNames]
  | cons t rest ih =>
      rw [exists_isVariable_cons, ← ih]
      cases t with
      | identifier name' =>
          rw [freeNames_identifier]
          split <;> grind
      | _ => simp [freeNames]

/-- Only a parenthesis makes a name before it the name of a function. -/
theorem isVariable_append (hu : u ≠ .openParen) :
    IsVariable name (ts ++ u :: us) ↔ IsVariable name ts := by
  cases ts with
  | nil => simp [IsVariable, hu]
  | cons t rest => simp [IsVariable]

theorem freeNames_append (hu : u ≠ .openParen) :
    freeNames (ts ++ u :: us) = freeNames ts ++ freeNames (u :: us) := by
  induction ts with
  | nil => rfl
  | cons t rest ih =>
      cases t with
      | identifier name =>
          rw [List.cons_append, freeNames_identifier, freeNames_identifier, ih]
          simp only [isVariable_append hu]
          split <;> rfl
      | _ => exact ih

/-- The names of arguments, with commas between them and a parenthesis at the end. -/
theorem freeNames_arguments (parts : List (List Token)) :
    freeNames ([Token.comma].intercalate parts ++ [.closeParen]) = parts.flatMap freeNames := by
  induction parts with
  | nil => rfl
  | cons first rest ih =>
      cases rest with
      | nil =>
          rw [List.intercalate_singleton, freeNames_append (by simp), List.flatMap_singleton]
          exact List.append_nil _
      | cons second rest =>
          rw [List.intercalate_cons_cons, List.append_assoc, List.append_assoc,
            List.singleton_append, freeNames_append (by simp), List.flatMap_cons, ← ih]
          rfl

open Node (accepts_of_call? occurrences occurrences_call)

variable {typeOf : String → Option ValueType} {n : Nat} {p : Phrase} {t : Node}

/-- An application has the names of its operands. -/
theorem occurrences_of_call? {f : Function} {arguments : List Node}
    (h : Node.call? f arguments = .ok t) : t.occurrences = arguments.flatMap occurrences := by
  obtain ⟨-, d, rfl⟩ := accepts_of_call? h
  exact occurrences_call

/-- Every identifier of a phrase that stands for a variable is one leaf of its tree. -/
theorem Spells.occurrences_eq (h : Spells typeOf n p ts t) : t.occurrences = freeNames ts := by
  induction h with
  | operand _ ih | unsigned _ ih | bare _ ih | tighter _ _ ih => exact ih
  | number | yes | no => rw [occurrences]; rfl
  | folded _ ih => rw [occurrences] at ih ⊢; exact ih
  | minus _ _ ht ih | bang _ ht ih =>
      rw [occurrences_of_call? ht, List.flatMap_singleton, ih]
      rfl
  | operation _ _ _ ht ihl ihr | raised _ _ ht ihl ihr =>
      rw [occurrences_of_call? ht, freeNames_append (by simp), List.flatMap_cons,
        List.flatMap_singleton, ihl, ihr]
      rfl
  | «variable» hyes hno htype =>
      rw [occurrences, freeNames_identifier, if_pos ⟨hyes, hno, by simp⟩]
      rfl
  | parentheses _ ih =>
      -- the parenthesis at the beginning is no name, and that at the end follows no function
      show _ = freeNames (_ ++ [Token.closeParen])
      rw [ih, freeNames_append (by simp)]
      exact (List.append_nil _).symm
  | @call n name f parts t hf _ ht ih =>
      have hcalled (after : List Token) : ¬IsVariable name (.openParen :: after) :=
        fun h => h.2.2 ⟨by rw [hf]; rfl, rfl⟩
      rw [occurrences_of_call? ht, freeNames_identifier, if_neg (hcalled _), List.flatMap_map]
      show _ = freeNames ([Token.comma].intercalate (parts.map Prod.fst) ++ [Token.closeParen])
      rw [freeNames_arguments, List.flatMap_map]
      exact List.flatMap_congr ih

end Equation

namespace Node

open Equation

/-- **An equation reads its variables and nothing else.** Over sources that agree on the names of
its variables a tree has one value, whatever else the sources hold. The tree of a text has one leaf
for each identifier of the text that stands for a variable, and no others. So the names of its
variables, each listed once, are the identifiers that are neither truth values nor the names of
functions that are called. -/
theorem reads_its_variables :
    (∀ (n : Node) (source source' : Source),
      (∀ name ∈ n.variableNames, source name = source' name) →
      evaluate source n = evaluate source' n) ∧
    ∀ (text : String) (typeOf : String → Option ValueType) (n : Node),
      Node.parse text typeOf = .ok n →
      ∃ ls, tokenize text = .ok ls ∧
        n.occurrences = freeNames (ls.map Lexeme.token) ∧
        n.variableNames.Pairwise (· < ·) ∧
        ∀ name, name ∈ n.variableNames ↔
          ∃ before after, ls.map Lexeme.token = before ++ .identifier name :: after ∧
            name ≠ "true" ∧ name ≠ "false" ∧
            ¬((Function.ofName? name).isSome = true ∧ after.head? = some .openParen) := by
  refine ⟨fun n source source' h => evaluate_eq_of_agree h, fun text typeOf n h => ?_⟩
  obtain ⟨ls, htokens, hspells⟩ := spells_of_parse h
  refine ⟨ls, htokens, hspells.occurrences_eq, variableNames_pairwise n, fun name => ?_⟩
  rw [mem_variableNames, hspells.occurrences_eq]
  exact mem_freeNames

def ofMaximum (name : String) : Option ValueType :=
  if name = "max" ∨ name = "x" then some .numeric else none

/-- The greater of two variables, of which one is named like the function, is above the other. -/
def maximum : Node :=
  .call .eq [.constant (.boolean true),
    .call .gt [.call .max [.variable "max" .numeric, .variable "x" .numeric] 2,
      .variable "x" .numeric] 3] 4

theorem parse_maximum : Node.parse "true == max(max, x) > x" ofMaximum = .ok maximum := by
  cbv

/-- A variable that is not in the tree makes no difference, and the function is no variable. -/
theorem reads_maximum :
    evaluate (fun _ => .numeric 1) maximum =
      evaluate (fun name => if name = "load" then .absent else .numeric 1) maximum ∧
    maximum.variableNames = ["max", "x"] ∧
    Node.parse "true == max(max, x) > x" ofMaximum = .ok maximum ∧
    ∃ ls, tokenize "true == max(max, x) > x" = .ok ls ∧
      freeNames (ls.map Lexeme.token) = ["max", "x", "x"] := by
  have hoccurrences : maximum.occurrences = ["max", "x", "x"] := by
    simp [maximum, occurrences]
  have hnames : maximum.variableNames = ["max", "x"] := by
    rw [variableNames, hoccurrences]
    decide +kernel
  have hagree : ∀ name ∈ maximum.variableNames,
      Value.numeric 1 = if name = "load" then .absent else .numeric 1 := by
    rw [hnames]
    simp
  have hreads := reads_its_variables
  obtain ⟨ls, htokens, hleaves, -, -⟩ := hreads.2 _ _ maximum parse_maximum
  refine ⟨hreads.1 maximum _ _ hagree, hnames, parse_maximum, ls, htokens, ?_⟩
  rw [← hleaves, hoccurrences]

end Node

end Telemetry
