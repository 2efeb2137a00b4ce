import Telemetry.Equation.Parser

/-!
# What the parsers of equations give

Each parser returns a tree and the tokens that are left, with a proof that these are fewer.
`Gives` is the plain relation behind that, and each parser has its lemma: what it gives in terms
of what the parsers that it calls give.
-/

namespace Telemetry.Equation

variable {α β : Type} {P : List Lexeme → Prop}

def Gives (result : Except EquationError (α × { rest : List Lexeme // P rest })) (a : α)
    (rest : List Lexeme) : Prop :=
  ∃ h : P rest, result = .ok (a, ⟨rest, h⟩)

theorem Gives.unique {result : Except EquationError (α × { rest : List Lexeme // P rest })}
    {a a' : α} {rest rest' : List Lexeme} (h : Gives result a rest) (h' : Gives result a' rest') :
    a = a' ∧ rest = rest' := by
  obtain ⟨hp, rfl⟩ := h
  obtain ⟨hp', heq⟩ := h'
  cases heq
  exact ⟨rfl, rfl⟩

@[simp] theorem gives_ok {a a' : α} {left : { rest : List Lexeme // P rest }}
    {rest : List Lexeme} :
    Gives (.ok (a', left)) a rest ↔ a = a' ∧ rest = left.1 := by
  constructor
  · rintro ⟨_, heq⟩
    cases heq
    exact ⟨rfl, rfl⟩
  · rintro ⟨rfl, rfl⟩
    exact ⟨left.2, rfl⟩

@[simp] theorem gives_pure {a a' : α} {left : { rest : List Lexeme // P rest }}
    {rest : List Lexeme} :
    Gives (pure (a', left)) a rest ↔ a = a' ∧ rest = left.1 :=
  gives_ok

@[simp] theorem not_gives_error {e : EquationError} {a : α} {rest : List Lexeme} :
    ¬ Gives (P := P) (.error e) a rest := by
  rintro ⟨_, heq⟩
  cases heq

/-- A step and its continuation give what the continuation gives from the step's result. -/
theorem gives_bind {step : Except EquationError β}
    {next : β → Except EquationError (α × { rest : List Lexeme // P rest })} {a : α}
    {rest : List Lexeme} :
    Gives (step >>= next) a rest ↔ ∃ b, step = .ok b ∧ Gives (next b) a rest := by
  cases step with
  | error e =>
      show Gives (.error e) a rest ↔ _
      simp
  | ok b =>
      show Gives (next b) a rest ↔ _
      simp

/-- A step whose result is returned with tokens that are known before it. -/
theorem gives_bind_pure {step : Except EquationError α} {left : { rest : List Lexeme // P rest }}
    {a : α} {rest : List Lexeme} :
    Gives (step >>= fun b => pure (b, left)) a rest ↔ step = .ok a ∧ rest = left.1 := by
  simp only [gives_bind, gives_pure]
  constructor
  · rintro ⟨_, hstep, rfl, rfl⟩
    exact ⟨hstep, rfl⟩
  · rintro ⟨hstep, rfl⟩
    exact ⟨a, hstep, rfl, rfl⟩

/-! The errors of calls say nothing of variables, and nothing of places in the text. -/

def IsOfCall : EquationError → Prop
  | .arity _ _ | .argumentType _ _ _ _ | .tooDeep _ => True
  | .unknownVariable _ | .unknownFunction _ | .malformed _ _ => False

theorem isOfCall_of_call? {f : Function} {arguments : List Node} {e : EquationError}
    (h : Node.call? f arguments = .error e) : IsOfCall e := by
  unfold Node.call? at h
  split at h
  · cases h
    trivial
  · split at h
    · cases h
      trivial
    · dsimp only at h
      split at h
      · cases h
        trivial
      · cases h

theorem isOfCall_of_negate {operand : Node} {e : EquationError} (h : negate operand = .error e) :
    IsOfCall e := by
  unfold negate at h
  split at h
  · cases h
  · exact isOfCall_of_call? h

/-! The step of `gives_bind` may be a parser itself. -/

section Steps

variable {Q : List Lexeme → Prop} {result : Except EquationError (β × { rest // Q rest })}
  {goal : β × { rest // Q rest } → Prop}

theorem exists_gives {g : β → List Lexeme → Prop}
    (h : ∀ b mid hmid, goal (b, ⟨mid, hmid⟩) ↔ g b mid) :
    (∃ b, result = .ok b ∧ goal b) ↔ ∃ b mid, Gives result b mid ∧ g b mid := by
  constructor
  · rintro ⟨⟨b, mid, hmid⟩, hresult, hgoal⟩
    exact ⟨b, mid, ⟨hmid, hresult⟩, (h b mid hmid).mp hgoal⟩
  · rintro ⟨b, mid, ⟨hmid, hresult⟩, hgoal⟩
    exact ⟨_, hresult, (h b mid hmid).mpr hgoal⟩

/-- What the last parser gives is passed on. -/
theorem exists_gives_last {b : β} {rest : List Lexeme}
    (h : ∀ b' mid hmid, goal (b', ⟨mid, hmid⟩) ↔ b = b' ∧ rest = mid) :
    (∃ b', result = .ok b' ∧ goal b') ↔ Gives result b rest := by
  rw [exists_gives h]
  constructor
  · rintro ⟨_, _, hresult, rfl, rfl⟩
    exact hresult
  · intro hresult
    exact ⟨b, rest, hresult, rfl, rfl⟩

/-- The last parser is followed by a step over its tree alone. -/
theorem exists_gives_then {q : β → Prop} {rest : List Lexeme}
    (h : ∀ b mid hmid, goal (b, ⟨mid, hmid⟩) ↔ q b ∧ rest = mid) :
    (∃ b, result = .ok b ∧ goal b) ↔ ∃ b, Gives result b rest ∧ q b := by
  rw [exists_gives h]
  constructor
  · rintro ⟨b, _, hresult, hq, rfl⟩
    exact ⟨b, hresult, hq⟩
  · rintro ⟨b, hresult, hq⟩
    exact ⟨b, rest, hresult, hq, rfl⟩

end Steps

variable {c : Context} {t left : Node} {ts tail rest : List Lexeme} {tok : Lexeme}

/-- The next token is a given one, or it is not and a parser that looks for it goes another way. -/
theorem next_or (wanted : Token) (ts : List Lexeme) :
    (∃ tok tail, ts = tok :: tail ∧ tok.token = wanted) ∨
      ∀ next ∈ ts.head?, next.token ≠ wanted := by
  cases ts with
  | nil => exact Or.inr fun next hnext => by cases hnext
  | cons tok tail =>
      by_cases h : tok.token = wanted
      · exact Or.inl ⟨tok, tail, rfl, h⟩
      · refine Or.inr fun next hnext => ?_
        cases hnext
        exact h

/-! ## Binary operators -/

section Binary

variable {level : Level} {tighter : List Level} {operand : Parse} {f : Function}

theorem gives_chain_of_stop (h : level.next? ts = none) :
    Gives (chain level operand left ts) t rest ↔ t = left ∧ rest = ts := by
  cases ts with
  | nil =>
      rw [chain]
      exact gives_ok
  | cons tok tail =>
      rw [chain, h]
      exact gives_ok

theorem gives_chain_of_next (h : level.next? (tok :: tail) = some f) :
    Gives (chain level operand left (tok :: tail)) t rest ↔
      ∃ right mid, Gives (operand tail) right mid ∧
        ∃ node, Node.call? f [left, right] = .ok node ∧
          Gives (chain level operand node mid) t rest := by
  rw [chain, h]
  simp only [gives_bind]
  refine exists_gives fun right mid hmid => ?_
  refine exists_congr fun node => and_congr_right fun _ => ?_
  exact exists_gives_last fun b mid hmid => gives_pure

theorem gives_binary_cons :
    Gives (binary operand (level :: tighter) ts) t rest ↔
      ∃ left mid, Gives (binary operand tighter ts) left mid ∧
        Gives (chain level (binary operand tighter) left mid) t rest := by
  simp only [binary, gives_bind]
  refine exists_gives fun left mid hmid => ?_
  exact exists_gives_last fun b mid hmid => gives_pure

end Binary

/-! ## Operands -/

variable {expression signed : Parse} {args : List Node} {wanted : Token} {name : String}
  {f : Function} {n : Nat}

theorem expect_eq_ok {left : Rest ts} :
    expect c wanted ts = .ok left ↔ ∃ tok, ts = tok :: left.1 ∧ tok.token = wanted := by
  cases ts with
  | nil => simp [expect]
  | cons tok tail =>
      rw [expect]
      split
      · rename_i h
        obtain ⟨rest, hrest⟩ := left
        simp only [Except.ok.injEq, Subtype.mk.injEq, List.cons.injEq]
        constructor
        · rintro rfl
          exact ⟨tok, ⟨rfl, rfl⟩, h⟩
        · rintro ⟨_, ⟨_, rfl⟩, _⟩
          rfl
      · rename_i h
        simp only [reduceCtorEq, false_iff]
        rintro ⟨tok', heq, htok⟩
        obtain rfl : tok = tok' := (List.cons.inj heq).1
        exact h htok

theorem exists_gives_of_gives_arguments (h : Gives (arguments expression ts) args rest) :
    ∃ first mid, Gives (expression ts) first mid := by
  rw [arguments, gives_bind] at h
  obtain ⟨⟨first, mid, hmid⟩, hfirst, -⟩ := h
  exact ⟨first, mid, hmid, hfirst⟩

theorem gives_arguments_of_comma {first : Node} {comma : Lexeme}
    (hcomma : comma.token = .comma) (hfirst : Gives (expression ts) first (comma :: tail)) :
    Gives (arguments expression ts) args rest ↔
      ∃ more, Gives (arguments expression tail) more rest ∧ args = first :: more := by
  obtain ⟨start, stop, token⟩ := comma
  obtain rfl : token = .comma := hcomma
  obtain ⟨hlt, heq⟩ := hfirst
  rw [arguments, heq]
  show Gives (arguments expression tail >>= _) args rest ↔ _
  rw [gives_bind]
  exact exists_gives_then fun more mid hmid => gives_pure

theorem gives_arguments_of_last {last : Node} {mid : List Lexeme}
    (hmid : ∀ next ∈ mid.head?, next.token ≠ .comma) (hlast : Gives (expression ts) last mid) :
    Gives (arguments expression ts) args rest ↔ args = [last] ∧ rest = mid := by
  obtain ⟨hlt, heq⟩ := hlast
  rw [arguments, heq]
  cases mid with
  | nil => exact gives_ok
  | cons next tail =>
      obtain ⟨start, stop, token⟩ := next
      cases token with
      | comma => exact absurd rfl (hmid _ rfl)
      | _ => exact gives_ok

theorem gives_call_nil (hf : Function.ofName? name = some f) (htok : tok.token = .closeParen) :
    Gives (call c expression name (tok :: tail)) t rest ↔
      Node.call? f [] = .ok t ∧ rest = tail := by
  obtain ⟨start, stop, token⟩ := tok
  obtain rfl : token = .closeParen := htok
  simp only [call, hf, gives_bind_pure]

theorem gives_call_of_arguments (hf : Function.ofName? name = some f)
    (hts : ∀ next ∈ ts.head?, next.token ≠ .closeParen) :
    Gives (call c expression name ts) t rest ↔
      ∃ args close, Gives (arguments expression ts) args (close :: rest) ∧
        close.token = .closeParen ∧ Node.call? f args = .ok t := by
  have hgives : Gives (P := fun rest => rest.length < ts.length)
      (arguments expression ts >>= fun parsed => expect c .closeParen parsed.2.1 >>= fun closed =>
        Node.call? f parsed.1 >>= fun node =>
          pure (node, ⟨closed.1, Nat.lt_trans closed.2 parsed.2.2⟩)) t rest ↔
      ∃ args close, Gives (arguments expression ts) args (close :: rest) ∧
        close.token = .closeParen ∧ Node.call? f args = .ok t := by
    rw [gives_bind, exists_gives (g := fun args mid => ∃ close, mid = close :: rest ∧
      close.token = .closeParen ∧ Node.call? f args = .ok t)]
    · constructor
      · rintro ⟨args, _, hargs, close, rfl, hclose, ht⟩
        exact ⟨args, close, hargs, hclose, ht⟩
      · rintro ⟨args, close, hargs, hclose, ht⟩
        exact ⟨args, _, hargs, close, rfl, hclose, ht⟩
    · intro args mid hmid
      rw [gives_bind]
      simp only [gives_bind_pure, expect_eq_ok]
      constructor
      · rintro ⟨left, ⟨close, hmid, hclose⟩, ht, rfl⟩
        exact ⟨close, hmid, hclose, ht⟩
      · rintro ⟨close, rfl, hclose, ht⟩
        exact ⟨⟨rest, by simp⟩, ⟨close, rfl, hclose⟩, ht, rfl⟩
  -- `call` looks for the parenthesis by a match, which is at its last alternative here
  cases ts with
  | nil =>
      simp only [call, hf]
      exact hgives
  | cons next tail =>
      obtain ⟨start, stop, token⟩ := next
      cases token with
      | closeParen => exact absurd rfl (hts _ rfl)
      | _ =>
          simp only [call, hf]
          exact hgives

theorem not_gives_call (hf : Function.ofName? name = none) :
    ¬ Gives (call c expression name ts) t rest := by
  simp only [call, hf]
  exact not_gives_error

theorem gives_primary_number {x : Float} (htok : tok.token = .number x) :
    Gives (primary c expression (tok :: tail)) t rest ↔
      t = .constant (.numeric x) ∧ rest = tail := by
  simp only [primary, htok]
  exact gives_ok

theorem gives_primary_openParen (htok : tok.token = .openParen) :
    Gives (primary c expression (tok :: tail)) t rest ↔
      ∃ close, Gives (expression tail) t (close :: rest) ∧ close.token = .closeParen := by
  simp only [primary, htok, gives_bind]
  rw [exists_gives (g := fun inner mid => t = inner ∧ ∃ close, mid = close :: rest ∧
    close.token = .closeParen)]
  · constructor
    · rintro ⟨_, _, hinner, rfl, close, rfl, hclose⟩
      exact ⟨close, hinner, hclose⟩
    · rintro ⟨close, hinner, hclose⟩
      exact ⟨_, _, hinner, rfl, close, rfl, hclose⟩
  · intro inner mid hmid
    simp only [gives_pure, expect_eq_ok]
    constructor
    · rintro ⟨left, ⟨close, hmid, hclose⟩, rfl, rfl⟩
      exact ⟨rfl, close, hmid, hclose⟩
    · rintro ⟨rfl, close, rfl, hclose⟩
      exact ⟨⟨rest, by simp⟩, ⟨close, rfl, hclose⟩, rfl, rfl⟩

theorem gives_primary_call {next : Lexeme} (htok : tok.token = .identifier name)
    (hnext : next.token = .openParen) :
    Gives (primary c expression (tok :: next :: tail)) t rest ↔
      Gives (call c expression name tail) t rest := by
  obtain ⟨start, stop, token⟩ := next
  obtain rfl : token = .openParen := hnext
  simp only [primary, htok, gives_bind]
  exact exists_gives_last fun b mid hmid => gives_pure

theorem gives_primary_name (htok : tok.token = .identifier name)
    (htail : ∀ next ∈ tail.head?, next.token ≠ .openParen) :
    Gives (primary c expression (tok :: tail)) t rest ↔ named c name = .ok t ∧ rest = tail := by
  have hprimary : primary c expression (tok :: tail) = do
      return (← named c name, ⟨tail, by simp⟩) := by
    cases tail with
    | nil => simp only [primary, htok]
    | cons next tail =>
        obtain ⟨start, stop, token⟩ := next
        cases token with
        | openParen => exact absurd rfl (htail _ rfl)
        | _ => simp only [primary, htok]
  rw [hprimary, gives_bind_pure]

theorem not_gives_primary (hnumber : ∀ x, tok.token ≠ .number x)
    (hopen : tok.token ≠ .openParen) (hname : ∀ name, tok.token ≠ .identifier name) :
    ¬ Gives (primary c expression (tok :: tail)) t rest := by
  cases htok : tok.token with
  | number x => exact absurd htok (hnumber x)
  | openParen => exact absurd htok hopen
  | identifier name => exact absurd htok (hname name)
  | _ =>
      simp only [primary, htok]
      exact not_gives_error

theorem named_eq_ok :
    named c name = .ok t ↔
      (name = "true" ∧ t = .constant (.boolean true)) ∨
      (name = "false" ∧ t = .constant (.boolean false)) ∨
      (name ≠ "true" ∧ name ≠ "false" ∧
        ∃ type, c.typeOf name = some type ∧ t = .variable name type) := by
  rw [named]
  by_cases hyes : name = "true"
  · simp [hyes, eq_comm]
  by_cases hno : name = "false"
  · simp [hno, eq_comm]
  cases htype : c.typeOf name with
  | none => simp [hyes, hno]
  | some type => simp [hyes, hno, eq_comm]

theorem exists_gives_of_gives_power (h : Gives (power c expression signed ts) t rest) :
    ∃ base mid, Gives (primary c expression ts) base mid := by
  rw [power, gives_bind] at h
  obtain ⟨⟨base, mid, hmid⟩, hbase, -⟩ := h
  exact ⟨base, mid, hmid, hbase⟩

theorem gives_power_of_exponent {base : Node} (htok : tok.token = .operator .power)
    (hbase : Gives (primary c expression ts) base (tok :: tail)) :
    Gives (power c expression signed ts) t rest ↔
      ∃ exponent, Gives (signed tail) exponent rest ∧
        Node.call? .pow [base, exponent] = .ok t := by
  obtain ⟨start, stop, token⟩ := tok
  obtain rfl : token = .operator .power := htok
  obtain ⟨hlt, heq⟩ := hbase
  rw [power, heq]
  show Gives (signed tail >>= _) t rest ↔ _
  rw [gives_bind]
  exact exists_gives_then fun exponent mid hmid => gives_bind_pure

theorem gives_power_of_base {base : Node} {mid : List Lexeme}
    (hmid : ∀ next ∈ mid.head?, next.token ≠ .operator .power)
    (hbase : Gives (primary c expression ts) base mid) :
    Gives (power c expression signed ts) t rest ↔ t = base ∧ rest = mid := by
  obtain ⟨hlt, heq⟩ := hbase
  rw [power, heq]
  cases mid with
  | nil => exact gives_ok
  | cons next tail =>
      obtain ⟨start, stop, token⟩ := next
      cases token with
      | operator op =>
          cases op with
          | power => exact absurd rfl (hmid _ rfl)
          | _ => exact gives_ok
      | _ => exact gives_ok

/-- A minus before a number is folded into it, any other minus is applied. -/
theorem negate_eq_ok {operand : Node} :
    negate operand = .ok t ↔
      (∃ x, operand = .constant (.numeric x) ∧ t = .constant (.numeric (-x))) ∨
      ((∀ x, operand ≠ .constant (.numeric x)) ∧ Node.call? .neg [operand] = .ok t) := by
  unfold negate
  split
  · simp [eq_comm]
  · rename_i hx
    have hne : ∀ x, operand ≠ .constant (.numeric x) := hx
    simp [hne]

theorem gives_signed_minus (htok : tok.token = .operator .minus) :
    Gives (Equation.signed c (n + 1) (tok :: tail)) t rest ↔
      ∃ operand, Gives (Equation.signed c n tail) operand rest ∧ negate operand = .ok t := by
  obtain ⟨start, stop, token⟩ := tok
  obtain rfl : token = .operator .minus := htok
  rw [Equation.signed, gives_bind]
  exact exists_gives_then fun operand mid hmid => gives_bind_pure

theorem gives_signed_bang (htok : tok.token = .operator .bang) :
    Gives (Equation.signed c (n + 1) (tok :: tail)) t rest ↔
      ∃ operand, Gives (Equation.signed c n tail) operand rest ∧
        Node.call? .not [operand] = .ok t := by
  obtain ⟨start, stop, token⟩ := tok
  obtain rfl : token = .operator .bang := htok
  rw [Equation.signed, gives_bind]
  exact exists_gives_then fun operand mid hmid => gives_bind_pure

theorem signed_eq_power (hminus : ∀ first ∈ ts.head?, first.token ≠ .operator .minus)
    (hbang : ∀ first ∈ ts.head?, first.token ≠ .operator .bang) :
    Equation.signed c (n + 1) ts =
      power c (binary (Equation.signed c n) levels) (Equation.signed c n) ts := by
  cases ts with
  | nil => rfl
  | cons first tail =>
      obtain ⟨start, stop, token⟩ := first
      cases token with
      | operator op =>
          cases op with
          | minus => exact absurd rfl (hminus _ rfl)
          | bang => exact absurd rfl (hbang _ rfl)
          | _ => rfl
      | _ => rfl

end Telemetry.Equation
