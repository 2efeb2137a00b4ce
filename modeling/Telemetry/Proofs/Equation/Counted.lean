import Telemetry.Proofs.Equation.Parsers

/-!
# Parsing with a counter of open levels

The parsers of an equation are given the levels that they may still open. Here they are a machine:
its state holds the tokens that are left and counts the levels that are open, and an operand opens
one level at its beginning and closes it at its end. The machine is run for a number of rounds, in
which it may or may not come to an end.

In more rounds than there are tokens it comes to an end, with what the parsers give. It leaves the
counter where it was, whether it succeeds or fails, and no more than `Node.maxDepth` levels are
open at any time (`mirrors_signed`, `parse_ends`).
-/

namespace Telemetry.Equation.Counted

variable {α β : Type}

structure State where
  tokens : List Lexeme
  nesting : Nat
  /-- The most levels that were open at one time. -/
  deepest : Nat

def State.opened (s : State) : State :=
  { s with nesting := s.nesting + 1, deepest := max s.deepest (s.nesting + 1) }

def State.closed (s : State) : State := { s with nesting := s.nesting - 1 }

/-- A run succeeds or fails, and moves the state in both cases, or it is `none` because its rounds
were not enough. -/
abbrev Run := ExceptT EquationError (StateT State Option)

/-! ## The machine -/

def unfinished : Run α := fun _ => none

def lift (result : Except EquationError α) : Run α := fun s => some (result, s)

def offset (c : Context) : Run Nat := fun s => some (.ok (c.offset s.tokens), s)

def peek : Run (Option Token) := fun s => some (.ok (s.tokens.head?.map Lexeme.token), s)

def next : Run (Option Token) := fun s =>
  some (.ok (s.tokens.head?.map Lexeme.token), { s with tokens := s.tokens.tail })

def eat? (choose : Token → Option α) : Run (Option α) := do
  match (← peek).bind choose with
  | some a => do
    let _ ← next
    return some a
  | none => return none

def only (wanted : Token) : Token → Option Unit := fun t => if t = wanted then some () else none

def binaryOperator (level : Level) : Token → Option Function
  | .operator op => level op
  | _ => none

def sign : Token → Option (Node → Except EquationError Node)
  | .operator .minus => some negate
  | .operator .bang => some fun operand => Node.call? .not [operand]
  | _ => none

def chain (level : Level) (operand : Run Node) : (rounds : Nat) → Node → Run Node
  | 0, _ => unfinished
  | rounds + 1, left => do
    match ← eat? (binaryOperator level) with
    | none => return left
    | some f => do
      let right ← operand
      let node ← lift (Node.call? f [left, right])
      chain level operand rounds node

def binary (rounds : Nat) (operand : Run Node) : List Level → Run Node
  | [] => operand
  | level :: tighter => do
    let left ← binary rounds operand tighter
    chain level (binary rounds operand tighter) rounds left

def expect (c : Context) (wanted : Token) : Run Unit := do
  let place ← offset c
  let found ← next
  if found = some wanted then return ()
  else lift (.error (.malformed place (.expected wanted found)))

def arguments (expression : Run Node) : (rounds : Nat) → Run (List Node)
  | 0 => unfinished
  | rounds + 1 => do
    let first ← expression
    match ← eat? (only .comma) with
    | none => return [first]
    | some _ => do
      let more ← arguments expression rounds
      return first :: more

/-- What follows the opening parenthesis of a call. -/
def call (c : Context) (rounds : Nat) (expression : Run Node) (name : String) : Run Node :=
  match Function.ofName? name with
  | none => lift (.error (.unknownFunction name))
  | some f => do
    let closed ← peek
    let args ← if closed = some .closeParen then pure [] else arguments expression rounds
    expect c .closeParen
    lift (Node.call? f args)

def primary (c : Context) (rounds : Nat) (expression : Run Node) : Run Node := do
  let place ← offset c
  match ← next with
  | some (.number x) => return .constant (.numeric x)
  | some .openParen => do
    let inner ← expression
    expect c .closeParen
    return inner
  | some (.identifier name) => do
    match ← eat? (only .openParen) with
    | some _ => call c rounds expression name
    | none => lift (named c name)
  | some other => lift (.error (.malformed place (.unexpectedToken other)))
  | none => lift (.error (.malformed place .unexpectedEnd))

def power (c : Context) (rounds : Nat) (expression signed : Run Node) : Run Node := do
  let base ← primary c rounds expression
  match ← eat? (only (.operator .power)) with
  | none => return base
  | some _ => do
    let exponent ← signed
    lift (Node.call? .pow [base, exponent])

/-- Runs the body with one more level open, and closes the level whatever comes of the body. -/
def nested (body : Run α) : Run α := fun s =>
  if Node.maxDepth ≤ s.nesting then some (.error (.tooDeep Node.maxDepth), s)
  else (body s.opened).map fun (outcome, s') => (outcome, s'.closed)

def signed (c : Context) : (rounds : Nat) → Run Node
  | 0 => unfinished
  | rounds + 1 => nested do
    match ← eat? sign with
    | some apply => do
      let operand ← signed c rounds
      lift (apply operand)
    | none => power c rounds (binary rounds (signed c rounds) levels) (signed c rounds)

def expression (c : Context) (rounds : Nat) : Run Node := binary rounds (signed c rounds) levels

def whole (c : Context) (rounds : Nat) : Run Node := do
  match ← peek with
  | none => lift (.error (.malformed 0 .emptyEquation))
  | some _ => do
    let node ← expression c rounds
    let place ← offset c
    match ← peek with
    | some token => lift (.error (.malformed place (.unexpectedToken token)))
    | none => return node

def State.start (tokens : List Lexeme) : State := ⟨tokens, 0, 0⟩

def parse (rounds : Nat) (text : String) (typeOf : String → Option ValueType) :
    Option (Except EquationError Node × State) :=
  match tokenize text with
  | .error e => some (.error e, .start [])
  | .ok tokens => whole ⟨typeOf, text.utf8ByteSize⟩ rounds (.start tokens)

/-! ## Runs that follow a parser -/

variable {P Q : List Lexeme → Prop}

/-- A run comes to an end with what a parser gives, and leaves the tokens that the parser leaves.
The counter is where it was, and was never beyond `Node.maxDepth` unless it had been before. -/
def Follows (run : Run α) (s : State)
    (result : Except EquationError (α × { rest : List Lexeme // P rest })) : Prop :=
  ∃ s', run s = some (result.map Prod.fst, s') ∧ s'.nesting = s.nesting ∧
    s'.deepest ≤ max s.deepest Node.maxDepth ∧
    ∀ a rest, result = .ok (a, rest) → s'.tokens = rest.1

theorem bind_apply (run : Run α) (following : α → Run β) (s : State) :
    (run >>= following) s = (run s).bind fun
      | (.ok a, s') => following a s'
      | (.error e, s') => some (.error e, s') := by
  show (run s).bind _ = _
  congr 1
  funext ⟨outcome, s'⟩
  cases outcome <;> rfl

theorem Follows.pure {s : State} {a : α} {rest : { rest : List Lexeme // P rest }}
    (h : s.tokens = rest.1) : Follows (Pure.pure a : Run α) s (.ok (a, rest)) := by
  refine ⟨s, rfl, rfl, Nat.le_max_left _ _, ?_⟩
  rintro _ _ ⟨⟩
  exact h

theorem Follows.error {s : State} {e : EquationError} :
    Follows (P := P) (lift (.error e) : Run α) s (.error e) := by
  refine ⟨s, rfl, rfl, Nat.le_max_left _ _, ?_⟩
  rintro _ _ ⟨⟩

theorem Follows.bind {run : Run α} {following : α → Run β} {s : State}
    {result : Except EquationError (α × { rest : List Lexeme // P rest })}
    {more : α × { rest : List Lexeme // P rest } →
      Except EquationError (β × { rest : List Lexeme // Q rest })}
    (h : Follows run s result)
    (hmore : ∀ a rest deepest,
      Follows (following a) ⟨rest.1, s.nesting, deepest⟩ (more (a, rest))) :
    Follows (run >>= following) s (result >>= more) := by
  obtain ⟨⟨tokens, nesting, deepest⟩, hrun, rfl, hdeepest, hrest⟩ := h
  cases result with
  | error e =>
      refine ⟨⟨tokens, s.nesting, deepest⟩, ?_, rfl, hdeepest, ?_⟩
      · rw [bind_apply, hrun]
        rfl
      · rintro _ _ ⟨⟩
  | ok pair =>
      obtain ⟨a, rest⟩ := pair
      obtain rfl := hrest a rest rfl
      obtain ⟨s', hrun', hnesting, hdeepest', hrest'⟩ := hmore a rest deepest
      refine ⟨s', ?_, hnesting, ?_, hrest'⟩
      · rw [bind_apply, hrun]
        exact hrun'
      · exact Nat.le_trans hdeepest' (Nat.max_le.mpr ⟨hdeepest, Nat.le_max_right _ _⟩)

/-- A step that gives `a` whatever follows, and opens no level. -/
theorem Follows.step {run : Run α} {following : α → Run β} {s : State} {a : α}
    {tokens : List Lexeme} {result : Except EquationError (β × { rest : List Lexeme // Q rest })}
    (hrun : run s = some (.ok a, { s with tokens }))
    (h : Follows (following a) { s with tokens } result) :
    Follows (run >>= following) s result := by
  obtain ⟨s', hrun', hs'⟩ := h
  refine ⟨s', ?_, hs'⟩
  rw [bind_apply, hrun]
  exact hrun'

theorem Follows.lift_bind {step : Except EquationError α} {following : α → Run β} {s : State}
    {more : α → Except EquationError (β × { rest : List Lexeme // Q rest })}
    (h : ∀ a, Follows (following a) s (more a)) :
    Follows (lift step >>= following) s (step >>= more) := by
  cases step with
  | error e => exact .error
  | ok a => exact .step rfl (h a)

theorem Follows.lift {step : Except EquationError α} {s : State}
    {rest : { rest : List Lexeme // P rest }} (h : s.tokens = rest.1) :
    Follows (lift step) s (step >>= fun a => .ok (a, rest)) := by
  cases step with
  | error e => exact .error
  | ok a => exact .pure h

/-- What is left over is stated in other words. -/
theorem Follows.left {run : Run α} {s : State}
    {result : Except EquationError (α × { rest : List Lexeme // P rest })}
    {more : α × { rest : List Lexeme // P rest } →
      Except EquationError (α × { rest : List Lexeme // Q rest })}
    (h : Follows run s result)
    (hmore : ∀ a rest, ∃ hrest, more (a, rest) = .ok (a, ⟨rest.1, hrest⟩)) :
    Follows run s (result >>= more) := by
  rw [← bind_pure run]
  refine h.bind fun a rest deepest => ?_
  obtain ⟨hrest, heq⟩ := hmore a rest
  rw [heq]
  exact .pure rfl

/-! ### Steps over one token -/

section Tokens

variable {t : Lexeme} {ts tail : List Lexeme} {nesting deepest : Nat} {choose : Token → Option α}
  {a : α} {c : Context} {wanted : Token}

theorem eat?_of_some (h : choose t.token = some a) :
    eat? choose ⟨t :: tail, nesting, deepest⟩ = some (.ok (some a), ⟨tail, nesting, deepest⟩) := by
  show (match choose t.token with | some a => _ | none => _ : Run (Option α)) _ = _
  rw [h]
  rfl

theorem eat?_of_none (h : ∀ next ∈ ts.head?, choose next.token = none) :
    eat? choose ⟨ts, nesting, deepest⟩ = some (.ok none, ⟨ts, nesting, deepest⟩) := by
  cases ts with
  | nil => rfl
  | cons t tail =>
      show (match choose t.token with | some a => _ | none => _ : Run (Option α)) _ = _
      rw [h t rfl]
      rfl

/-- The token that must come next is consumed, or its absence is reported. -/
theorem Follows.expect {following : Unit → Run β}
    {more : Rest ts → Except EquationError (β × { rest : List Lexeme // Q rest })}
    (h : ∀ rest : Rest ts, Follows (following ()) ⟨rest.1, nesting, deepest⟩ (more rest)) :
    Follows (expect c wanted >>= following) ⟨ts, nesting, deepest⟩
      (Equation.expect c wanted ts >>= more) := by
  cases ts with
  | nil =>
      refine ⟨⟨[], nesting, deepest⟩, ?_, rfl, Nat.le_max_left _ _, ?_⟩
      · rw [bind_apply]
        rfl
      · rintro _ _ ⟨⟩
  | cons t tail =>
      rw [Equation.expect]
      split
      · rename_i htoken
        refine .step ?_ (h ⟨tail, by simp⟩)
        show (if some t.token = some wanted then _ else _ : Run Unit) _ = _
        rw [if_pos (congrArg some htoken)]
        rfl
      · rename_i htoken
        refine ⟨⟨tail, nesting, deepest⟩, ?_, rfl, Nat.le_max_left _ _, ?_⟩
        · rw [bind_apply]
          show Option.bind ((if some t.token = some wanted then _ else _ : Run Unit) _) _ = _
          rw [if_neg fun heq => htoken (Option.some.inj heq)]
          rfl
        · rintro _ _ ⟨⟩

end Tokens

/-! ### Parsers -/

/-- With a number of levels open, the run follows the parser on less than `k` tokens. -/
def Mirrors (k nesting : Nat) (run : Run Node) (parser : Parse) : Prop :=
  ∀ ts deepest, ts.length < k → Follows run ⟨ts, nesting, deepest⟩ (parser ts)

variable {k nesting rounds : Nat} {c : Context} {inner lower : Run Node} {expression signed : Parse}

theorem next?_cons (level : Level) (t : Lexeme) (tail : List Lexeme) :
    level.next? (t :: tail) = binaryOperator level t.token := by
  obtain ⟨start, stop, token⟩ := t
  cases token <;> rfl

theorem follows_chain (h : Mirrors k nesting inner expression) (level : Level) (left : Node)
    (ts : List Lexeme) (deepest : Nat) (hk : ts.length ≤ k) (hrounds : ts.length < rounds) :
    Follows (chain level inner rounds left) ⟨ts, nesting, deepest⟩
      (Equation.chain level expression left ts) := by
  induction rounds generalizing left ts deepest with
  | zero => exact absurd hrounds (Nat.not_lt_zero _)
  | succ rounds ih =>
      rw [chain]
      cases ts with
      | nil =>
          rw [Equation.chain]
          exact .step (eat?_of_none (by simp)) (.pure rfl)
      | cons t tail =>
          rw [Equation.chain, next?_cons]
          cases hop : binaryOperator level t.token with
          | none =>
              exact .step (eat?_of_none (by simpa using hop)) (.pure rfl)
          | some f =>
              refine .step (eat?_of_some hop) ?_
              refine (h tail _ hk).bind fun right rest deepest => ?_
              refine .lift_bind fun node => ?_
              -- the operand consumed a token, so the rounds that are left suffice
              have hrest : rest.1.length < tail.length := rest.2
              have hshorter : rest.1.length < rounds :=
                Nat.lt_trans hrest (Nat.lt_of_succ_lt_succ hrounds)
              have htail : rest.1.length ≤ k := Nat.le_of_lt (Nat.lt_trans hrest hk)
              exact (ih node rest.1 deepest htail hshorter).left fun node rest => ⟨_, rfl⟩

theorem mirrors_binary (h : Mirrors k nesting inner expression) (levels : List Level) :
    Mirrors k nesting (binary k inner levels) (Equation.binary expression levels) := by
  induction levels with
  | nil => exact h
  | cons level tighter ih =>
      intro ts deepest hk
      refine (ih ts deepest hk).bind fun left rest deepest => ?_
      have hrest : rest.1.length < k := Nat.lt_trans rest.2 hk
      exact (follows_chain ih level left rest.1 deepest (Nat.le_of_lt hrest) hrest).left
        fun node rest => ⟨_, rfl⟩

theorem follows_arguments (h : Mirrors k nesting inner expression) (ts : List Lexeme)
    (deepest : Nat) (hk : ts.length < k) (hrounds : ts.length < rounds) :
    Follows (arguments inner rounds) ⟨ts, nesting, deepest⟩
      (Equation.arguments expression ts) := by
  induction rounds generalizing ts deepest with
  | zero => exact absurd hrounds (Nat.not_lt_zero _)
  | succ rounds ih =>
      rw [arguments, Equation.arguments]
      refine (h ts deepest hk).bind ?_
      rintro first ⟨rest, hrest⟩ deepest
      rcases next_or .comma rest with ⟨⟨start, stop, token⟩, tail, rfl, htoken⟩ | hlast
      · obtain rfl : token = .comma := htoken
        refine .step (eat?_of_some (a := ()) rfl) ?_
        have htail : tail.length < ts.length := Nat.lt_trans (Nat.lt_succ_self _) hrest
        have hshorter : tail.length < rounds :=
          Nat.lt_of_lt_of_le htail (Nat.le_of_lt_succ hrounds)
        refine (ih tail deepest (Nat.lt_trans htail hk) hshorter).bind fun more rest deepest => ?_
        exact .pure rfl
      · refine .step (eat?_of_none (fun next hnext => if_neg (hlast next hnext))) ?_
        cases rest with
        | nil => exact .pure rfl
        | cons next tail =>
            obtain ⟨start, stop, token⟩ := next
            cases token with
            | comma => exact absurd rfl (hlast _ rfl)
            | _ => exact .pure rfl

theorem follows_call (h : Mirrors k nesting inner expression) (name : String) (ts : List Lexeme)
    (deepest : Nat) (hk : ts.length < k) :
    Follows (call c k inner name) ⟨ts, nesting, deepest⟩ (Equation.call c expression name ts) := by
  rw [call, Equation.call]
  cases Function.ofName? name with
  | none => exact .error
  | some f =>
      dsimp only
      refine .step rfl ?_
      have harguments : Follows (arguments inner k) ⟨ts, nesting, deepest⟩ _ :=
        follows_arguments h ts deepest hk hk
      cases ts with
      | nil =>
          refine harguments.bind fun args rest deepest => ?_
          exact .expect fun rest => .lift rfl
      | cons next tail =>
          obtain ⟨start, stop, token⟩ := next
          cases token with
          | closeParen =>
              refine .step rfl ?_
              exact .step rfl (.lift rfl)
          | _ =>
              refine harguments.bind fun args rest deepest => ?_
              exact .expect fun rest => .lift rfl

theorem mirrors_primary (h : Mirrors k nesting inner expression) :
    Mirrors (k + 1) nesting (primary c k inner) (Equation.primary c expression) := by
  intro ts deepest hk
  rw [primary]
  refine .step rfl ?_
  refine .step rfl ?_
  cases ts with
  | nil =>
      rw [Equation.primary]
      exact .error
  | cons t tail =>
      have htail : tail.length < k := Nat.lt_of_succ_lt_succ hk
      unfold Equation.primary
      obtain ⟨start, stop, token⟩ := t
      cases token with
      | number x => exact .pure rfl
      | openParen =>
          refine (h tail deepest htail).bind fun node rest deepest => ?_
          exact .expect fun rest => .pure rfl
      | identifier name =>
          cases tail with
          | nil => exact .step rfl (.lift rfl)
          | cons next tail =>
              obtain ⟨start, stop, token⟩ := next
              cases token with
              | openParen =>
                  refine .step rfl ?_
                  have hcall := follows_call (c := c) h name tail deepest (Nat.lt_of_succ_lt htail)
                  exact hcall.left fun node rest => ⟨_, rfl⟩
              | _ => exact .step rfl (.lift rfl)
      | closeParen | comma | operator => exact .error

theorem mirrors_power (h : Mirrors k nesting inner expression)
    (hsigned : Mirrors k nesting lower signed) :
    Mirrors (k + 1) nesting (power c k inner lower) (Equation.power c expression signed) := by
  intro ts deepest hk
  rw [power, Equation.power]
  refine (mirrors_primary h ts deepest hk).bind ?_
  rintro base ⟨rest, hrest⟩ deepest
  rcases next_or (.operator .power) rest with ⟨⟨start, stop, token⟩, tail, rfl, htoken⟩ | hbase
  · obtain rfl : token = .operator .power := htoken
    refine .step (eat?_of_some (a := ()) rfl) ?_
    have htail : tail.length < k := Nat.lt_of_succ_lt_succ (Nat.lt_trans hrest hk)
    exact (hsigned tail deepest htail).bind fun exponent rest deepest => .lift rfl
  · refine .step (eat?_of_none fun next hnext => if_neg (hbase next hnext)) ?_
    cases rest with
    | nil => exact .pure rfl
    | cons next tail =>
        obtain ⟨start, stop, token⟩ := next
        cases token with
        | operator op =>
            cases op with
            | power => exact absurd rfl (hbase _ rfl)
            | _ => exact .pure rfl
        | _ => exact .pure rfl

theorem follows_nested {body : Run α} {ts : List Lexeme} {deepest : Nat}
    {result : Except EquationError (α × { rest : List Lexeme // P rest })}
    (hnesting : nesting < Node.maxDepth)
    (h : Follows body ⟨ts, nesting + 1, max deepest (nesting + 1)⟩ result) :
    Follows (nested body) ⟨ts, nesting, deepest⟩ result := by
  obtain ⟨s', hrun, hs', hdeepest, hrest⟩ := h
  refine ⟨s'.closed, ?_, ?_, ?_, hrest⟩
  · show (if Node.maxDepth ≤ nesting then _ else _) = _
    rw [if_neg (Nat.not_le.mpr hnesting)]
    show (body ⟨ts, nesting + 1, max deepest (nesting + 1)⟩).map _ = _
    rw [hrun]
    rfl
  · show s'.nesting - 1 = nesting
    rw [hs']
    rfl
  · refine Nat.le_trans hdeepest (Nat.max_le.mpr ⟨?_, Nat.le_max_right _ _⟩)
    exact Nat.max_le.mpr ⟨Nat.le_max_left _ _, Nat.le_trans hnesting (Nat.le_max_right _ _)⟩

/-- At the limit no level is opened. -/
theorem nested_of_le {body : Run α} {s : State} (h : Node.maxDepth ≤ s.nesting) :
    nested body s = some (.error (.tooDeep Node.maxDepth), s) :=
  if_pos h

/-- The run of an operand follows its parser with the levels that are left. The rounds are enough
if they are more than the tokens, for an operand that is opened within another begins at a later
token. -/
theorem mirrors_signed (c : Context) (rounds nesting : Nat) :
    Mirrors rounds nesting (Counted.signed c rounds)
      (Equation.signed c (Node.maxDepth - nesting)) := by
  induction rounds generalizing nesting with
  | zero => exact fun ts deepest hk => absurd hk (Nat.not_lt_zero _)
  | succ rounds ih =>
      intro ts deepest hk
      rw [Counted.signed]
      rcases Nat.lt_or_ge nesting Node.maxDepth with hlt | hge
      · have hleft : Node.maxDepth - nesting = Node.maxDepth - (nesting + 1) + 1 := by omega
        have hinner := ih (nesting + 1)
        rw [hleft]
        refine follows_nested hlt ?_
        have hpower := mirrors_power (c := c) (mirrors_binary hinner levels) hinner ts
          (max deepest (nesting + 1)) hk
        cases ts with
        | nil => exact .step rfl hpower
        | cons t tail =>
            have htail : tail.length < rounds := Nat.lt_of_succ_lt_succ hk
            obtain ⟨start, stop, token⟩ := t
            cases token with
            | operator op =>
                cases op with
                | minus | bang =>
                    refine .step rfl ?_
                    exact (hinner tail _ htail).bind fun operand rest deepest => .lift rfl
                | _ => exact .step rfl hpower
            | _ => exact .step rfl hpower
      · rw [Nat.sub_eq_zero_of_le hge]
        refine ⟨_, nested_of_le hge, rfl, Nat.le_max_left _ _, ?_⟩
        rintro _ _ ⟨⟩

/-- An operand comes to an end from every state, if there are more rounds than tokens. It leaves
the counter where it was, and at the limit it fails at once. -/
theorem signed_ends (c : Context) {s : State} (hrounds : s.tokens.length < rounds) :
    ∃ result s', Counted.signed c rounds s = some (result, s') ∧ s'.nesting = s.nesting ∧
      s'.deepest ≤ max s.deepest Node.maxDepth ∧
      (Node.maxDepth ≤ s.nesting → result = .error (.tooDeep Node.maxDepth) ∧ s' = s) := by
  obtain ⟨s', hrun, hnesting, hdeepest, -⟩ :=
    mirrors_signed c rounds s.nesting s.tokens s.deepest hrounds
  refine ⟨_, s', hrun, hnesting, hdeepest, fun hlimit => ?_⟩
  obtain ⟨rounds, rfl⟩ := Nat.exists_eq_add_one.mpr (Nat.zero_lt_of_lt hrounds)
  have hlimited : Counted.signed c (rounds + 1) s = some (.error (.tooDeep Node.maxDepth), s) :=
    nested_of_le hlimit
  have hsame := Option.some.inj (hrun.symm.trans hlimited)
  exact Prod.mk.inj hsame

/-! ### Whole texts -/

theorem length_le_of_lexemes {offset : Nat} {cs : List Char} {ls : List Lexeme}
    (h : lexemes offset cs = .ok ls) : ls.length ≤ cs.length := by
  fun_induction lexemes offset cs generalizing ls with
  | case1 =>
      cases h
      exact Nat.le_refl _
  | case2 offset c rest hgap ih => exact Nat.le_succ_of_le (ih h)
  | case3 => cases h
  | case4 offset c rest hgap token length hscan stop =>
      rename_i ih
      cases htail : lexemes stop (rest.drop length) with
      | error e =>
          rw [htail] at h
          cases h
      | ok tail =>
          rw [htail] at h
          cases h
          have hdrop : (rest.drop length).length ≤ rest.length := by simp
          exact Nat.succ_le_succ (Nat.le_trans (ih htail) hdrop)

theorem mirrors_expression (c : Context) (rounds : Nat) :
    Mirrors rounds 0 (Counted.expression c rounds) (Equation.expression c) :=
  mirrors_binary (mirrors_signed c rounds 0) levels

/-- In more rounds than a text has characters, its run is over. It gives what the text spells, with
all levels closed and never too many open. -/
theorem parse_ends {text : String} (typeOf : String → Option ValueType)
    (hrounds : text.length < rounds) :
    ∃ s', parse rounds text typeOf = some (Node.parse text typeOf, s') ∧ s'.nesting = 0 ∧
      s'.deepest ≤ Node.maxDepth := by
  rw [parse, Node.parse]
  cases htokens : tokenize text with
  | error e => exact ⟨_, rfl, rfl, Nat.zero_le _⟩
  | ok tokens =>
      cases tokens with
      | nil => exact ⟨_, rfl, rfl, Nat.zero_le _⟩
      | cons t tail =>
          have hlength : (t :: tail).length < rounds := by
            refine Nat.lt_of_le_of_lt (length_le_of_lexemes htokens) ?_
            rwa [String.length_toList]
          obtain ⟨⟨tokens, nesting, deepest⟩, hrun, hnesting, hdeepest, hrest⟩ :=
            mirrors_expression ⟨typeOf, text.utf8ByteSize⟩ rounds (t :: tail) 0 hlength
          refine ⟨⟨tokens, nesting, deepest⟩, ?_, hnesting, hdeepest⟩
          show (Counted.expression _ rounds >>= _) ⟨t :: tail, 0, 0⟩ =
            some (Equation.expression _ (t :: tail) >>= _, _)
          rw [bind_apply, hrun]
          cases hresult : Equation.expression ⟨typeOf, text.utf8ByteSize⟩ (t :: tail) with
          | error e => rfl
          | ok result =>
              obtain ⟨node, rest, hlt⟩ := result
              obtain rfl : tokens = rest := hrest node ⟨rest, hlt⟩ hresult
              cases tokens <;> rfl

end Telemetry.Equation.Counted
