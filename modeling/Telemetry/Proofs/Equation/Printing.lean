import Telemetry.Proofs.Equation.Finite
import Telemetry.Proofs.Equation.Words

/-!
# The text of a tree is parsed as the tree

`Prints` gives the tokens of the text of a tree, as the grammar gives the tokens of any text that
has the tree. Every tree that a text spells prints, if its numbers are finite
(`Equation.Spells.prints`). The tokens that are printed spell the tree again
(`Equation.Prints.spells`), and they are those of its text (`Equation.Prints.scans`).

Two invariants carry the proof. A minus that is printed before a number was folded into it, so no
tree has a negation of a number, and a printed minus is read as the node that it came from. And
every level of a tree opens at most one level of nesting, a negative number at the bottom one more:
a tree whose depth is less than the bound nests within it.
-/

namespace Telemetry

open Decimal (Unsigned)

/-! ## Trees and their texts -/

namespace Node

variable {f : Function} {arguments : List Node} {n s a l r : Node} {d : Nat}

theorem le_greatest {ns : List Nat} {k : Nat} (hk : k ∈ ns) : k ≤ greatest ns := by
  have hfold : ∀ (ns : List Nat) (acc : Nat),
      acc ≤ ns.foldl max acc ∧ ∀ k ∈ ns, k ≤ ns.foldl max acc := by
    intro ns
    induction ns with
    | nil =>
        intro acc
        exact ⟨le_rfl, List.forall_mem_nil _⟩
    | cons first rest ih =>
        intro acc
        obtain ⟨hacc, hrest⟩ := ih (max acc first)
        have hfirst : first ≤ rest.foldl max (max acc first) := le_trans (le_max_right _ _) hacc
        exact ⟨le_trans (le_max_left _ _) hacc, List.forall_mem_cons.mpr ⟨hfirst, hrest⟩⟩
  exact (hfold ns 0).2 k hk

/-- An application is deeper than its arguments. -/
theorem depth_lt_of_call? (h : call? f arguments = .ok n) (ha : a ∈ arguments) :
    a.depth < n.depth := by
  have hle : a.depth ≤ greatest (arguments.map Node.depth) := le_greatest (List.mem_map_of_mem ha)
  unfold call? at h
  split at h
  · cases h
  split at h
  · cases h
  · dsimp only at h
    split at h
    · cases h
    · cases h
      rw [depth]
      omega

theorem mem_postorder_of_call? (h : call? f arguments = .ok n) (ha : a ∈ arguments)
    (hs : s ∈ a.postorder) : s ∈ n.postorder := by
  obtain ⟨-, d, rfl⟩ := accepts_of_call? h
  exact mem_postorder_call.mpr (.inl ⟨a, ha, hs⟩)

theorem text_of_sign (hf : f.isOperator = true) (h : call? f [n] = .ok s) :
    s.text = f.name ++ n.text := by
  obtain ⟨-, d, rfl⟩ := accepts_of_call? h
  rw [text, hf]
  rfl

theorem text_of_operation (hf : f.isOperator = true) (h : call? f [l, r] = .ok s) :
    s.text = "(" ++ l.text ++ " " ++ f.name ++ " " ++ r.text ++ ")" := by
  obtain ⟨-, d, rfl⟩ := accepts_of_call? h
  rw [text, hf]
  rfl

theorem text_of_call (hf : f.isOperator = false) (h : call? f arguments = .ok s) :
    s.text = f.name ++ "(" ++ ", ".intercalate (arguments.map text) ++ ")" := by
  obtain ⟨-, d, rfl⟩ := accepts_of_call? h
  rw [text, hf]

end Node

namespace Equation

variable {typeOf : String → Option ValueType} {n : Nat} {p : Phrase} {ts more : List Token}
  {t : Node} {rest : List Char}

/-- An operator is printed as it is spelled. -/
theorem name_of_binary? {op : Operator} {i : Nat} {f : Function} (h : op.binary? = some (i, f)) :
    f.name = op.spelling ∧ f.isOperator = true := by
  cases op <;> cases h <;> exact ⟨rfl, rfl⟩

/-- A call is printed with the name that it is written with. -/
theorem name_of_ofName? {name : String} {f : Function} (h : Function.ofName? name = some f) :
    f.name = name ∧ f.isOperator = false ∧ isName name = true := by
  unfold Function.ofName? at h
  split at h
  all_goals cases h
  all_goals exact ⟨rfl, rfl, by decide⟩

/-! ## Printed trees -/

/-- **The tokens of the text of a tree.** `Prints typeOf ts t`: the tokens `ts` are those of the
text of `t`, and `t` is a tree that the parser may build. -/
inductive Prints (typeOf : String → Option ValueType) : List Token → Node → Prop
  | number {x : Float} (h : Unsigned (Decimal.plain x).toList x) :
      Prints typeOf [.number x] (.constant (.numeric x))
  | negative {x : Float} {cs : List Char} (htext : (Decimal.plain x).toList = '-' :: cs)
      (h : Unsigned cs (-x)) :
      Prints typeOf [.operator .minus, .number (-x)] (.constant (.numeric x))
  | truth (b : Bool) : Prints typeOf [.identifier (toString b)] (.constant (.boolean b))
  | variable {name : String} {type : ValueType} (hname : isName name = true)
      (hyes : name ≠ "true") (hno : name ≠ "false") (htype : typeOf name = some type) :
      Prints typeOf [.identifier name] (.variable name type)
  | minus {ts : List Token} {t t' : Node} (operand : Prints typeOf ts t)
      (hx : ∀ x, t ≠ .constant (.numeric x)) (ht : Node.call? .neg [t] = .ok t') :
      Prints typeOf (.operator .minus :: ts) t'
  | bang {ts : List Token} {t t' : Node} (operand : Prints typeOf ts t)
      (ht : Node.call? .not [t] = .ok t') :
      Prints typeOf (.operator .bang :: ts) t'
  | operation {i : Nat} {op : Operator} {f : Function} {ls rs : List Token} {l r t : Node}
      (hop : op.binary? = some (i, f)) (left : Prints typeOf ls l) (right : Prints typeOf rs r)
      (ht : Node.call? f [l, r] = .ok t) :
      Prints typeOf (.openParen :: ((ls ++ .operator op :: rs) ++ [.closeParen])) t
  | call {name : String} {f : Function} {parts : List (List Token × Node)} {t : Node}
      (hf : Function.ofName? name = some f)
      (arguments : ∀ part ∈ parts, Prints typeOf part.1 part.2)
      (ht : Node.call? f (parts.map Prod.snd) = .ok t) :
      Prints typeOf
        (.identifier name :: .openParen ::
          ([Token.comma].intercalate (parts.map Prod.fst) ++ [.closeParen])) t

theorem exists_prints_number {x : Float} (hx : x.isFinite = true) :
    ∃ ts, Prints typeOf ts (.constant (.numeric x)) := by
  rcases Decimal.plain_cases hx with h | ⟨cs, htext, h⟩
  · exact ⟨_, .number h⟩
  · exact ⟨_, .negative htext h⟩

theorem exists_parts {P : List Token → Node → Prop} {arguments : List Node}
    (h : ∀ a ∈ arguments, ∃ ts, P ts a) : ∃ parts : List (List Token × Node),
      parts.map Prod.snd = arguments ∧ ∀ part ∈ parts, P part.1 part.2 := by
  induction arguments with
  | nil => exact ⟨[], rfl, List.forall_mem_nil _⟩
  | cons a rest ih =>
      obtain ⟨⟨ts, hts⟩, hrest⟩ := List.forall_mem_cons.mp h
      obtain ⟨parts, rfl, hparts⟩ := ih hrest
      exact ⟨(ts, a) :: parts, rfl, List.forall_mem_cons.mpr ⟨hts, hparts⟩⟩

theorem mem_intercalate {parts : List (List Token × Node)} {part : List Token × Node}
    {token : Token} (hpart : part ∈ parts) (htoken : token ∈ part.1) :
    token ∈ [Token.comma].intercalate (parts.map Prod.fst) := by
  induction parts with
  | nil => cases hpart
  | cons first rest ih =>
      cases rest with
      | nil =>
          obtain rfl := List.mem_singleton.mp hpart
          simpa using htoken
      | cons second rest =>
          rw [List.map_cons, List.map_cons, List.intercalate_cons_cons]
          rcases List.mem_cons.mp hpart with rfl | hpart
          · simp [htoken]
          · exact List.mem_append_right _ (ih hpart)

/-- What tokens and the tree that they spell must have, so that the tree prints. -/
structure Printable (ts : List Token) (t : Node) : Prop where
  names : ∀ name, .identifier name ∈ ts → isName name = true
  finite : ∀ x, .constant (.numeric x) ∈ t.postorder → x.isFinite = true

theorem Printable.of_subset {ts' : List Token} (h : Printable ts t) (hts : ts' ⊆ ts) :
    Printable ts' t :=
  ⟨fun name hname => h.names name (hts hname), h.finite⟩

theorem Printable.argument {ts' : List Token} {f : Function} {arguments : List Node} {a : Node}
    (h : Printable ts t) (hts : ts' ⊆ ts) (ht : Node.call? f arguments = .ok t)
    (ha : a ∈ arguments) : Printable ts' a :=
  ⟨fun name hname => h.names name (hts hname),
    fun x hx => h.finite x (Node.mem_postorder_of_call? ht ha hx)⟩

/-- A tree that tokens spell prints, if identifiers are names and numbers are finite. -/
theorem Spells.prints (h : Spells typeOf n p ts t) (hprintable : Printable ts t) :
    ∃ ts', Prints typeOf ts' t := by
  induction h with
  | operand _ ih | unsigned _ ih | bare _ ih => exact ih hprintable
  | tighter _ _ ih => exact ih hprintable
  | parentheses _ ih =>
      apply ih
      exact hprintable.of_subset (List.subset_cons_of_subset _ (List.subset_append_left _ _))
  | folded | number => exact exists_prints_number (hprintable.finite _ (Node.mem_postorder_self _))
  | yes => exact ⟨_, .truth true⟩
  | no => exact ⟨_, .truth false⟩
  | «variable» hyes hno htype =>
      exact ⟨_, .variable (hprintable.names _ List.mem_cons_self) hyes hno htype⟩
  | minus _ hx ht ih =>
      obtain ⟨ts, hts⟩ := ih (hprintable.argument (List.subset_cons_self _ _) ht (by simp))
      exact ⟨_, .minus hts hx ht⟩
  | bang _ ht ih =>
      obtain ⟨ts, hts⟩ := ih (hprintable.argument (List.subset_cons_self _ _) ht (by simp))
      exact ⟨_, .bang hts ht⟩
  | operation hop _ _ ht ihl ihr =>
      obtain ⟨ls, hls⟩ := ihl (hprintable.argument (List.subset_append_left _ _) ht (by simp))
      obtain ⟨rs, hrs⟩ := ihr (hprintable.argument
        (List.subset_append_of_subset_right _ (List.subset_cons_self _ _)) ht (by simp))
      exact ⟨_, .operation hop hls hrs ht⟩
  | @raised n bs es b e t _ _ ht ihb ihe =>
      obtain ⟨bs, hbs⟩ := ihb (hprintable.argument (List.subset_append_left _ _) ht (by simp))
      obtain ⟨es, hes⟩ := ihe (hprintable.argument
        (List.subset_append_of_subset_right _ (List.subset_cons_self _ _)) ht (by simp))
      -- a power is printed as a call
      have hpow : Function.ofName? "pow" = some .pow := rfl
      have hparts : ∀ part ∈ [(bs, b), (es, e)], Prints typeOf part.1 part.2 := by
        simp [hbs, hes]
      exact ⟨_, .call hpow hparts ht⟩
  | @call n name f parts t hf _ ht ih =>
      have hargument : ∀ a ∈ parts.map Prod.snd, ∃ ts, Prints typeOf ts a := by
        intro a ha
        obtain ⟨part, hpart, rfl⟩ := List.mem_map.mp ha
        apply ih part hpart
        refine hprintable.argument ?_ ht ha
        intro token htoken
        simp [mem_intercalate hpart htoken]
      obtain ⟨printed, hprinted, hprints⟩ := exists_parts hargument
      exact ⟨_, .call hf hprints (hprinted ▸ ht)⟩

/-! ## Printed tokens spell the tree -/

theorem Spells.loosest {i : Nat} (hi : i ≤ operandLevel) (h : Spells typeOf n (.level i) ts t) :
    Spells typeOf n (.level 0) ts t := by
  induction i with
  | zero => exact h
  | succ i ih => exact ih (Nat.le_of_succ_le hi) (.tighter hi h)

/-- The tokens nest no deeper than the tree, but for one level of a negative number. -/
theorem Prints.spells (h : Prints typeOf ts t) : Spells typeOf (t.depth + 1) .signed ts t := by
  induction h with
  | number => exact .unsigned (.bare (.number _))
  | @negative x =>
      -- the minus is folded into the magnitude again, at the cost of a level
      have hfolded : Spells typeOf 2 .signed [.operator .minus, .number (-x)]
          (.constant (.numeric (- -x))) :=
        .folded (.unsigned (.bare (.number _)))
      rwa [Decimal.float_neg_neg] at hfolded
  | truth b =>
      cases b with
      | true => exact .unsigned (.bare .yes)
      | false => exact .unsigned (.bare .no)
  | «variable» _ hyes hno htype => exact .unsigned (.bare (.variable hyes hno htype))
  | minus _ hx ht ih =>
      exact .minus (ih.mono (Node.depth_lt_of_call? ht List.mem_cons_self)) hx ht
  | bang _ ht ih => exact .bang (ih.mono (Node.depth_lt_of_call? ht List.mem_cons_self)) ht
  | operation hop _ _ ht ihl ihr =>
      -- the operands stand in the parentheses, which are no deeper than the tree
      have hi := binary?_lt hop
      have hl := ihl.mono (Node.depth_lt_of_call? ht (by simp))
      have hr := ihr.mono (Node.depth_lt_of_call? ht (by simp))
      have hwhole := Spells.operation hop (hl.level hi.le) (hr.level hi) ht
      exact .unsigned (.bare (.parentheses (hwhole.loosest hi.le)))
  | call hf _ ht ih =>
      refine .unsigned (.bare (.call hf (fun part hpart => ?_) ht))
      have hpart' := (ih part hpart).mono
        (Node.depth_lt_of_call? ht (List.mem_map_of_mem hpart))
      exact hpart'.level (Nat.zero_le _)

/-! ## Printed tokens are those of the text -/

theorem isName_toString (b : Bool) : isName (toString b) = true := by
  cases b <;> decide

/-- No text of a tree begins with an equality sign. -/
theorem Prints.head?_ne (h : Prints typeOf ts t) (rest : List Char) :
    (t.text.toList ++ rest).head? ≠ some '=' := by
  cases h with
  | number h =>
      rw [Node.text, Value.text]
      exact head?_ne_of_unsigned h rest
  | negative htext =>
      rw [Node.text, Value.text, htext]
      simp
  | truth b =>
      rw [Node.text, Value.text]
      exact head?_ne_of_isName (isName_toString b) rest
  | «variable» hname =>
      rw [Node.text]
      exact head?_ne_of_isName hname rest
  | minus _ _ ht => simp [Node.text_of_sign rfl ht, Function.name]
  | bang _ ht => simp [Node.text_of_sign rfl ht, Function.name]
  | operation hop _ _ ht => simp [Node.text_of_operation (name_of_binary? hop).2 ht]
  | call hf _ ht =>
      obtain ⟨rfl, hoperator, hname⟩ := name_of_ofName? hf
      rw [Node.text_of_call hoperator ht]
      simp only [String.toList_append, List.append_assoc]
      exact head?_ne_of_isName hname _

/-- The texts of arguments with commas between them. -/
theorem scans_arguments {parts : List (List Token × Node)}
    (hparts : ∀ part ∈ parts, ∀ {more : List Token} {rest : List Char}, EndsWord rest →
      Scans rest more → Scans (part.2.text.toList ++ rest) (part.1 ++ more))
    (hrest : EndsWord rest) (hmore : Scans rest more) :
    Scans ((", ".intercalate ((parts.map Prod.snd).map Node.text)).toList ++ rest)
      ([Token.comma].intercalate (parts.map Prod.fst) ++ more) := by
  induction parts with
  | nil => simpa using hmore
  | cons part parts ih =>
      obtain ⟨hpart, hparts⟩ := List.forall_mem_cons.mp hparts
      cases parts with
      | nil => simpa using hpart hrest hmore
      | cons part' parts =>
          have hcomma := ((ih hparts).gap (c := ' ') rfl).mark (c := ',') rfl
          have hwhole := hpart (endsWord_cons (by decide)) hcomma
          simpa [String.intercalate_cons_cons, List.intercalate_cons_cons] using hwhole

theorem Prints.scans (h : Prints typeOf ts t) (hrest : EndsWord rest) (hmore : Scans rest more) :
    Scans (t.text.toList ++ rest) (ts ++ more) := by
  induction h generalizing rest more with
  | number h =>
      rw [Node.text, Value.text]
      exact hmore.number h hrest
  | negative htext h =>
      rw [Node.text, Value.text, htext]
      exact (hmore.number h hrest).operator .minus (head?_ne_of_unsigned h rest)
  | truth b =>
      rw [Node.text, Value.text]
      exact hmore.name (isName_toString b) hrest
  | «variable» hname =>
      rw [Node.text]
      exact hmore.name hname hrest
  | minus operand _ ht ih =>
      rw [Node.text_of_sign rfl ht, String.toList_append, List.append_assoc]
      exact (ih hrest hmore).operator .minus (operand.head?_ne rest)
  | bang operand ht ih =>
      rw [Node.text_of_sign rfl ht, String.toList_append, List.append_assoc]
      exact (ih hrest hmore).operator .bang (operand.head?_ne rest)
  | @operation i op f ls rs l r t hop _ _ ht ihl ihr =>
      obtain ⟨hname, hoperator⟩ := name_of_binary? hop
      have hclose := hmore.mark (c := ')') rfl
      have hright := (ihr (endsWord_cons (by decide)) hclose).gap (c := ' ') rfl
      have hsymbol := (hright.operator op (by simp)).gap (c := ' ') rfl
      have hleft := ihl (endsWord_cons (by decide)) hsymbol
      have hwhole := hleft.mark (c := '(') rfl
      rw [Node.text_of_operation hoperator ht, hname]
      simpa using hwhole
  | call hf _ ht ih =>
      obtain ⟨rfl, hoperator, hname⟩ := name_of_ofName? hf
      have hclose := hmore.mark (c := ')') rfl
      have harguments := scans_arguments ih (endsWord_cons (by decide)) hclose
      have hopen := harguments.mark (c := '(') rfl
      have hwhole := hopen.name hname (endsWord_cons (by decide))
      rw [Node.text_of_call hoperator ht]
      simpa using hwhole

end Equation

namespace Node

open Equation

/-- **The text of a tree is parsed as the tree.** If the numbers of an accepted tree are finite and
its depth is less than the bound on nesting, then its text is accepted with the same declarations,
and gives the tree again. -/
theorem parse_text {text : String} {typeOf : String → Option ValueType} {t : Node}
    (h : Node.parse text typeOf = .ok t)
    (hfinite : ∀ x, .constant (.numeric x) ∈ t.postorder → x.isFinite = true)
    (hdepth : t.depth ≤ 63) : Node.parse t.text typeOf = .ok t := by
  obtain ⟨ls, htokens, hspells⟩ := spells_of_parse h
  have hnames : ∀ name, .identifier name ∈ ls.map Lexeme.token → isName name = true := by
    intro name hname
    obtain ⟨l, hl, htoken⟩ := List.mem_map.mp hname
    exact isName_of_mem_lexemes htokens hl htoken
  obtain ⟨ts, hprints⟩ := hspells.prints ⟨hnames, hfinite⟩
  have hscans := hprints.scans endsWord_nil scans_nil
  rw [List.append_nil, List.append_nil] at hscans
  obtain ⟨ls', htokens', rfl⟩ := hscans 0
  have hbound : t.depth + 1 ≤ maxDepth := Nat.succ_le_succ hdepth
  exact parse_of_spells htokens' ((hprints.spells.mono hbound).level (Nat.zero_le _))

def scaled : Node := .call .mul [.constant (.numeric (-2.0)), .variable "x" .numeric] 2

def ofNumber (name : String) : Option ValueType := if name = "x" then some .numeric else none

theorem text_scaled : scaled.text = "(-2 * x)" := by
  have hcall : call? .mul [.constant (.numeric (-2.0)), .variable "x" .numeric] = .ok scaled := rfl
  have hnumber : Decimal.plain (-2.0) = "-2" := by decide +kernel
  rw [text_of_operation rfl hcall, text, text, Value.text, hnumber]
  rfl

theorem parse_scaled : Node.parse "-2*x" ofNumber = .ok scaled := by
  have htwo : Unsigned ['2'] 2.0 := by
    refine ⟨⟨'2', [], rfl, rfl⟩, List.forall_mem_singleton.mpr (.inl rfl), ?_⟩
    decide +kernel
  have hx : isName "x" = true := by decide
  have hname := scans_nil.name hx endsWord_nil
  have htimes := hname.operator .times (by decide)
  have hnumber := htimes.number htwo (endsWord_cons (by decide))
  have hminus := hnumber.operator .minus (by decide)
  obtain ⟨ls, htokens, hls⟩ := hminus 0
  refine Node.parse_of_spells htokens ?_
  rw [hls]
  have hleft : Spells ofNumber maxDepth .signed [.operator .minus, .number 2.0]
      (.constant (.numeric (-2.0))) :=
    .folded (.unsigned (.bare (.number _)))
  have hright : Spells ofNumber maxDepth .signed [.identifier "x"] (.variable "x" .numeric) :=
    .unsigned (.bare (.variable (by decide) (by decide) rfl))
  have hproduct : Spells ofNumber maxDepth (.level 5)
      ([.operator .minus, .number 2.0] ++ .operator .times :: [.identifier "x"]) scaled :=
    .operation rfl (hleft.level (by decide)) (hright.level (by decide)) rfl
  exact hproduct.loosest (by decide)

theorem scaled_parse_text : Node.parse "-2*x" ofNumber = .ok scaled ∧
    scaled.text = "(-2 * x)" ∧ Node.parse "(-2 * x)" ofNumber = .ok scaled := by
  have hfinite : ∀ x, .constant (.numeric x) ∈ scaled.postorder → x.isFinite = true := by
    intro x hx
    have hx' : x = -2.0 := by simpa [scaled, postorder] using hx
    subst hx'
    decide +kernel
  have hagain := parse_text parse_scaled hfinite (by decide)
  rw [text_scaled] at hagain
  exact ⟨parse_scaled, text_scaled, hagain⟩

end Node

end Telemetry
