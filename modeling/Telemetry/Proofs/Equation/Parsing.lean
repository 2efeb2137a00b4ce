import Mathlib.Data.List.GetD
import Mathlib.Tactic.IntervalCases
import Telemetry.Proofs.Equation.Grammar
import Telemetry.Proofs.Equation.Parsers

/-!
# Parsing is the grammar

`Node.parse` accepts a text exactly if its tokens spell a tree, and that tree is what it returns.

Soundness is by induction on the nesting that is left: if signed operands of less nesting are
spelled right, so are levels, primaries and powers over them. Completeness is by induction on the
derivation. A parser takes as much as it can, so each phrase must end where the rest begins; and
because a level recurses on its left operand while `chain` runs forward, the statement for a level
is about whatever `chain` makes of the rest from there.
-/

namespace Telemetry.Equation

def parserOf (c : Context) (n : Nat) : Phrase → Parse
  | .level i => binary (signed c n) (levels.drop i)
  | .signed => signed c n
  | .power => power c (binary (signed c n) levels) (signed c n)
  | .primary => primary c (binary (signed c n) levels)

/-- The operators of level `i`, none from `operandLevel` on. -/
def levelAt (i : Nat) : Level := levels.getD i fun _ => none

theorem levelAt_eq_some_iff {i : Nat} {op : Operator} {f : Function} :
    levelAt i op = some f ↔ op.binary? = some (i, f) := by
  by_cases hi : i < operandLevel
  · rw [operandLevel] at hi
    interval_cases i <;> cases op <;> simp [levelAt, levels, Operator.binary?]
  · have hlevel : levelAt i = fun _ => none := List.getD_eq_default _ _ (not_lt.mp hi)
    rw [hlevel]
    simp only [reduceCtorEq, false_iff]
    exact fun h => hi (binary?_lt h)

theorem drop_levels {i : Nat} (hi : i < operandLevel) :
    levels.drop i = levelAt i :: levels.drop (i + 1) := by
  rw [List.drop_eq_getElem_cons hi, levelAt, List.getD_eq_getElem _ _ hi]

variable {c : Context} {n : Nat} {p : Phrase} {t : Node} {ts tail rest : List Lexeme}

theorem next?_levelAt_eq_some_iff {i : Nat} {tok : Lexeme} {f : Function} :
    (levelAt i).next? (tok :: tail) = some f ↔
      ∃ op : Operator, tok.token = .operator op ∧ op.binary? = some (i, f) := by
  obtain ⟨start, stop, token⟩ := tok
  cases token with
  | operator op => simp [Level.next?, levelAt_eq_some_iff]
  | _ => simp [Level.next?]

theorem next?_levelAt_eq_none {i : Nat}
    (h : ∀ next ∈ ts.head?, ∀ op f, next.token = .operator op → op.binary? ≠ some (i, f)) :
    (levelAt i).next? ts = none := by
  cases ts with
  | nil => rfl
  | cons tok tail =>
      rw [Option.eq_none_iff_forall_ne_some]
      intro f hnext
      obtain ⟨op, htok, hop⟩ := next?_levelAt_eq_some_iff.mp hnext
      exact h tok rfl op f htok hop

/-! ## What is parsed is spelled -/

/-- What the parser of a phrase takes spells the tree that it gives. -/
def Sound (c : Context) (n : Nat) (p : Phrase) : Prop :=
  ∀ ⦃ts t rest⦄, Gives (parserOf c n p ts) t rest →
    ∃ used, ts = used ++ rest ∧ Spells c.typeOf n p (used.map Lexeme.token) t

theorem chain_sound {i : Nat} (hi : Sound c n (.level (i + 1))) {before : List Token}
    {left : Node} (hleft : Spells c.typeOf n (.level i) before left)
    (h : Gives (chain (levelAt i) (parserOf c n (.level (i + 1))) left ts) t rest) :
    ∃ used, ts = used ++ rest ∧
      Spells c.typeOf n (.level i) (before ++ used.map Lexeme.token) t := by
  induction hlen : ts.length using Nat.strong_induction_on generalizing ts before left with
  | _ len ih =>
      subst hlen
      cases hnext : (levelAt i).next? ts with
      | none =>
          obtain ⟨rfl, rfl⟩ := (gives_chain_of_stop hnext).mp h
          exact ⟨[], rfl, by simpa using hleft⟩
      | some f =>
          obtain ⟨tok, tail, rfl⟩ : ∃ tok tail, ts = tok :: tail := by
            cases ts with
            | nil => cases hnext
            | cons tok tail => exact ⟨tok, tail, rfl⟩
          obtain ⟨op, htok, hop⟩ := next?_levelAt_eq_some_iff.mp hnext
          obtain ⟨right, mid, hright, node, hnode, hchain⟩ := (gives_chain_of_next hnext).mp h
          obtain ⟨used, rfl, hused⟩ := hi hright
          -- all that is read so far is the left operand of the next operator
          have hgrown : Spells c.typeOf n (.level i)
              (before ++ .operator op :: used.map Lexeme.token) node :=
            .operation hop hleft hused hnode
          obtain ⟨more, rfl, hmore⟩ :=
            ih _ (by simp only [List.length_cons, List.length_append]; omega) hgrown hchain rfl
          refine ⟨tok :: (used ++ more), by simp, ?_⟩
          simpa [htok] using hmore

theorem level_sound (hsigned : Sound c n .signed) {i : Nat} (hi : i ≤ operandLevel) :
    Sound c n (.level i) := by
  induction hi using Nat.decreasingInduction with
  | self =>
      intro ts t rest h
      obtain ⟨used, rfl, hused⟩ := hsigned h
      exact ⟨used, rfl, .operand hused⟩
  | of_succ i hi ih =>
      -- the chain begins with a phrase of the tighter level that no operator has extended yet
      intro ts t rest h
      rw [parserOf, drop_levels hi] at h
      obtain ⟨left, mid, hleft, hchain⟩ := gives_binary_cons.mp h
      obtain ⟨used, rfl, hused⟩ := ih hleft
      obtain ⟨more, rfl, hmore⟩ := chain_sound ih (.tighter hi hused) hchain
      refine ⟨used ++ more, by simp, ?_⟩
      simpa using hmore

theorem arguments_sound (hlevel : Sound c n (.level 0)) {args : List Node}
    (h : Gives (arguments (parserOf c n (.level 0)) ts) args rest) :
    ∃ used, ∃ parts : List (List Token × Node), ts = used ++ rest ∧ parts ≠ [] ∧
      used.map Lexeme.token = [Token.comma].intercalate (parts.map Prod.fst) ∧
      args = parts.map Prod.snd ∧
      ∀ part ∈ parts, Spells c.typeOf n (.level 0) part.1 part.2 := by
  induction hlen : ts.length using Nat.strong_induction_on generalizing ts args with
  | _ len ih =>
      subst hlen
      obtain ⟨first, mid, hfirst⟩ := exists_gives_of_gives_arguments h
      obtain ⟨used, rfl, hused⟩ := hlevel hfirst
      rcases next_or .comma mid with ⟨comma, tail, rfl, hcomma⟩ | hmid
      · obtain ⟨more, hmore, rfl⟩ := (gives_arguments_of_comma hcomma hfirst).mp h
        obtain ⟨used', parts, rfl, hne, htokens, rfl, hparts⟩ :=
          ih _ (by simp only [List.length_cons, List.length_append]; omega) hmore rfl
        obtain ⟨part, parts, rfl⟩ := List.exists_cons_of_ne_nil hne
        refine ⟨used ++ comma :: used', (used.map Lexeme.token, first) :: part :: parts,
          by simp, by simp, ?_, rfl, ?_⟩
        · simp [hcomma, htokens, List.intercalate]
        · exact List.forall_mem_cons.mpr ⟨hused, hparts⟩
      · obtain ⟨rfl, rfl⟩ := (gives_arguments_of_last hmid hfirst).mp h
        refine ⟨used, [(used.map Lexeme.token, first)], rfl, by simp, ?_, rfl, ?_⟩
        · simp [List.intercalate]
        · exact List.forall_mem_singleton.mpr hused

theorem call_sound (hlevel : Sound c n (.level 0)) {name : String} {f : Function}
    (hf : Function.ofName? name = some f)
    (h : Gives (call c (parserOf c n (.level 0)) name ts) t rest) :
    ∃ used, ts = used ++ rest ∧ Spells c.typeOf n .primary
      (.identifier name :: .openParen :: used.map Lexeme.token) t := by
  rcases next_or .closeParen ts with ⟨close, tail, rfl, hclose⟩ | hts
  · obtain ⟨ht, rfl⟩ := (gives_call_nil hf hclose).mp h
    have hnone : ∀ part ∈ ([] : List (List Token × Node)),
        Spells c.typeOf n (.level 0) part.1 part.2 := by simp
    refine ⟨[close], rfl, ?_⟩
    rw [List.map_singleton, hclose]
    exact Spells.call hf hnone ht
  · obtain ⟨args, close, hargs, hclose, ht⟩ := (gives_call_of_arguments hf hts).mp h
    obtain ⟨used, parts, rfl, -, htokens, rfl, hparts⟩ := arguments_sound hlevel hargs
    refine ⟨used ++ [close], by simp, ?_⟩
    rw [List.map_append, htokens, List.map_singleton, hclose]
    exact .call hf hparts ht

theorem primary_sound (hlevel : Sound c n (.level 0)) : Sound c n .primary := by
  intro ts t rest h
  cases ts with
  | nil => exact absurd h not_gives_error
  | cons tok tail =>
      cases htok : tok.token with
      | number x =>
          obtain ⟨rfl, rfl⟩ := (gives_primary_number htok).mp h
          exact ⟨[tok], rfl, by simpa [htok] using Spells.number x⟩
      | openParen =>
          obtain ⟨close, hinner, hclose⟩ := (gives_primary_openParen htok).mp h
          obtain ⟨used, rfl, hused⟩ := hlevel hinner
          refine ⟨tok :: (used ++ [close]), by simp, ?_⟩
          simpa [htok, hclose] using Spells.parentheses hused
      | identifier name =>
          rcases next_or .openParen tail with ⟨next, tail, rfl, hnext⟩ | htail
          · have hcall := (gives_primary_call htok hnext).mp h
            cases hf : Function.ofName? name with
            | none => exact absurd hcall (not_gives_call hf)
            | some f =>
                obtain ⟨used, rfl, hused⟩ := call_sound hlevel hf hcall
                exact ⟨tok :: next :: used, rfl, by simpa [htok, hnext] using hused⟩
          · obtain ⟨hnamed, rfl⟩ := (gives_primary_name htok htail).mp h
            refine ⟨[tok], rfl, ?_⟩
            rw [List.map_singleton, htok]
            rcases named_eq_ok.mp hnamed with
              ⟨rfl, rfl⟩ | ⟨rfl, rfl⟩ | ⟨hyes, hno, type, htype, rfl⟩
            · exact .yes
            · exact .no
            · exact .variable hyes hno htype
      | operator | closeParen | comma =>
          exact absurd h (not_gives_primary (by simp [htok]) (by simp [htok]) (by simp [htok]))

theorem power_sound (hlevel : Sound c n (.level 0)) (hsigned : Sound c n .signed) :
    Sound c n .power := by
  intro ts t rest h
  obtain ⟨base, mid, hbase⟩ := exists_gives_of_gives_power h
  obtain ⟨used, rfl, hused⟩ := primary_sound hlevel hbase
  rcases next_or (.operator .power) mid with ⟨tok, tail, rfl, htok⟩ | hmid
  · obtain ⟨exponent, hexponent, ht⟩ := (gives_power_of_exponent htok hbase).mp h
    obtain ⟨more, rfl, hmore⟩ := hsigned hexponent
    refine ⟨used ++ tok :: more, by simp, ?_⟩
    rw [List.map_append, List.map_cons, htok]
    exact .raised hused hmore ht
  · obtain ⟨rfl, rfl⟩ := (gives_power_of_base hmid hbase).mp h
    exact ⟨used, rfl, .bare hused⟩

theorem signed_sound (c : Context) (n : Nat) : Sound c n .signed := by
  induction n with
  | zero =>
      intro ts t rest h
      exact absurd h not_gives_error
  | succ n ih =>
      intro ts t rest h
      rcases next_or (.operator .minus) ts with ⟨tok, tail, rfl, htok⟩ | hminus
      · obtain ⟨operand, hoperand, ht⟩ := (gives_signed_minus htok).mp h
        obtain ⟨used, rfl, hused⟩ := ih hoperand
        refine ⟨tok :: used, rfl, ?_⟩
        rw [List.map_cons, htok]
        rcases negate_eq_ok.mp ht with ⟨x, rfl, rfl⟩ | ⟨hx, ht⟩
        · exact .folded hused
        · exact .minus hused hx ht
      rcases next_or (.operator .bang) ts with ⟨tok, tail, rfl, htok⟩ | hbang
      · obtain ⟨operand, hoperand, ht⟩ := (gives_signed_bang htok).mp h
        obtain ⟨used, rfl, hused⟩ := ih hoperand
        exact ⟨tok :: used, rfl, by simpa [htok] using Spells.bang hused ht⟩
      · -- what a power nests has one level less left, so `ih` is about all of it
        rw [parserOf, signed_eq_power hminus hbang] at h
        have hlevel : Sound c n (.level 0) := level_sound ih (Nat.zero_le _)
        obtain ⟨used, rfl, hused⟩ := power_sound hlevel ih h
        exact ⟨used, rfl, .unsigned hused⟩

/-! ## What is spelled is parsed -/

/-- The parser of a phrase takes tokens that spell a tree, where the phrase ends, and gives the
tree. A level that goes on gives what `chain` makes of the tree and the rest. -/
def Complete (c : Context) (n : Nat) : Phrase → List Token → Node → Prop
  | .level i, ts, t => ∀ ⦃ls rest : List Lexeme⦄ ⦃t' rest'⦄, ls.map Lexeme.token = ts →
      (Phrase.level (i + 1)).EndsAt rest →
      Gives (chain (levelAt i) (parserOf c n (.level (i + 1))) t rest) t' rest' →
      Gives (parserOf c n (.level i) (ls ++ rest)) t' rest'
  | p, ts, t => ∀ ⦃ls rest : List Lexeme⦄, ls.map Lexeme.token = ts → p.EndsAt rest →
      Gives (parserOf c n p (ls ++ rest)) t rest

theorem Complete.gives {ts : List Token} (h : Complete c n p ts t) {ls : List Lexeme}
    (hls : ls.map Lexeme.token = ts) (hends : p.EndsAt rest) :
    Gives (parserOf c n p (ls ++ rest)) t rest := by
  cases p with
  | level i =>
      have hstop : (levelAt i).next? rest = none := by
        refine next?_levelAt_eq_none fun next hnext op f htok hop => ?_
        have hgoesOn := hends next hnext
        rw [htok, Phrase.continues_level hop] at hgoesOn
        simp at hgoesOn
      exact h hls hends.tighter ((gives_chain_of_stop hstop).mpr ⟨rfl, rfl⟩)
  | signed | power | primary => exact h hls hends

theorem name_complete {ls : List Lexeme} {name : String}
    (hls : ls.map Lexeme.token = [.identifier name]) (hends : Phrase.primary.EndsAt rest)
    (hnamed : named c name = .ok t) : Gives (parserOf c n .primary (ls ++ rest)) t rest := by
  obtain ⟨tok, rfl, htok⟩ := List.map_eq_singleton_iff.mp hls
  refine (gives_primary_name htok ?_).mpr ⟨hnamed, rfl⟩
  intro next hnext hopen
  simpa [hopen, Phrase.continues] using hends next hnext

/-- An argument ends at a comma, and the last one at a parenthesis that closes. -/
theorem endsAt_of_mark {tok : Lexeme} (h : tok.token = .comma ∨ tok.token = .closeParen) :
    p.EndsAt (tok :: tail) := by
  rw [Phrase.endsAt_cons]
  rcases h with h | h <;> rw [h] <;> rfl

theorem arguments_complete {parts : List (List Token × Node)} (hne : parts ≠ [])
    (hparts : ∀ part ∈ parts, Complete c n (.level 0) part.1 part.2) {ls : List Lexeme}
    (hls : ls.map Lexeme.token = [Token.comma].intercalate (parts.map Prod.fst))
    {close : Lexeme} (hclose : close.token = .closeParen) :
    Gives (arguments (parserOf c n (.level 0)) (ls ++ close :: rest)) (parts.map Prod.snd)
      (close :: rest) := by
  induction parts generalizing ls with
  | nil => exact absurd rfl hne
  | cons part parts ih =>
      obtain ⟨hpart, hparts⟩ := List.forall_mem_cons.mp hparts
      cases parts with
      | nil =>
          have hpart' : ls.map Lexeme.token = part.1 := by simpa [List.intercalate] using hls
          refine (gives_arguments_of_last ?_
            (hpart.gives hpart' (endsAt_of_mark (Or.inr hclose)))).mpr ⟨rfl, rfl⟩
          intro next hnext
          cases hnext
          simp [hclose]
      | cons part' parts =>
          have hsplit : ls.map Lexeme.token = part.1 ++ .comma ::
              [Token.comma].intercalate ((part' :: parts).map Prod.fst) := by
            simpa [List.intercalate] using hls
          obtain ⟨ls, more, rfl, hfirst, hmore⟩ := List.map_eq_append_iff.mp hsplit
          obtain ⟨comma, more, rfl, hcomma, hmore⟩ := List.map_eq_cons_iff.mp hmore
          rw [List.append_assoc, List.cons_append]
          refine (gives_arguments_of_comma hcomma
            (hpart.gives hfirst (endsAt_of_mark (Or.inl hcomma)))).mpr ?_
          exact ⟨_, ih (List.cons_ne_nil _ _) hparts hmore, rfl⟩

theorem call_complete {name : String} {f : Function} {parts : List (List Token × Node)}
    (hf : Function.ofName? name = some f)
    (hwhole : ∀ part ∈ parts, Spells c.typeOf n (.level 0) part.1 part.2)
    (hparts : ∀ part ∈ parts, Complete c n (.level 0) part.1 part.2) {ls : List Lexeme}
    (hls : ls.map Lexeme.token = [Token.comma].intercalate (parts.map Prod.fst))
    {close : Lexeme} (hclose : close.token = .closeParen)
    (ht : Node.call? f (parts.map Prod.snd) = .ok t) :
    Gives (call c (parserOf c n (.level 0)) name (ls ++ close :: rest)) t rest := by
  cases parts with
  | nil =>
      obtain rfl : ls = [] := by simpa [List.intercalate] using hls
      exact (gives_call_nil hf hclose).mpr ⟨ht, rfl⟩
  | cons part parts =>
      refine (gives_call_of_arguments hf ?_).mpr
        ⟨_, close, arguments_complete (List.cons_ne_nil _ _) hparts hls hclose, hclose, ht⟩
      -- the first argument does not begin with the parenthesis that closes the call
      obtain ⟨more, hmore⟩ : ∃ more, [Token.comma].intercalate ((part :: parts).map Prod.fst) =
          part.1 ++ more := by
        cases parts <;> simp [List.intercalate]
      rw [hmore] at hls
      obtain ⟨ls, ls', rfl, hfirst, -⟩ := List.map_eq_append_iff.mp hls
      have hopens := (hfirst ▸ hwhole part List.mem_cons_self).opens_head (ls' ++ close :: rest)
      intro next hnext htok
      rw [List.append_assoc] at hnext
      simpa [htok, Phrase.opens] using hopens next hnext

theorem Spells.complete {ts : List Token} (h : Spells c.typeOf n p ts t) : Complete c n p ts t := by
  induction h with
  | operand _ ih =>
      intro ls rest t' rest' hls hends hchain
      subst hls
      have hstop : (levelAt operandLevel).next? rest = none :=
        next?_levelAt_eq_none fun _ _ op f _ hop => lt_irrefl _ (binary?_lt hop)
      obtain ⟨rfl, rfl⟩ := (gives_chain_of_stop hstop).mp hchain
      exact ih.gives rfl hends.signed
  | tighter hi _ ih =>
      intro ls rest t' rest' hls hends hchain
      subst hls
      rw [parserOf, drop_levels hi]
      exact gives_binary_cons.mpr ⟨_, rest, ih.gives rfl hends, hchain⟩
  | operation hop _ _ ht ihl ihr =>
      -- for the left operand, the rest begins with the operator: `chain` takes it and the right
      -- operand, and is then where `hchain` begins
      intro ls rest t' rest' hls hends hchain
      obtain ⟨ls, tail, rfl, hleft, htail⟩ := List.map_eq_append_iff.mp hls
      obtain ⟨tok, rs, rfl, htok, rfl⟩ := List.map_eq_cons_iff.mp htail
      rw [List.append_assoc]
      refine ihl hleft ?_ ?_
      · rw [List.cons_append, Phrase.endsAt_cons, htok, Phrase.continues_level hop]
        simp
      · exact (gives_chain_of_next (next?_levelAt_eq_some_iff.mpr ⟨_, htok, hop⟩)).mpr
          ⟨_, rest, ihr.gives rfl hends, _, ht, hchain⟩
  | folded _ ih =>
      intro ls rest hls hends
      obtain ⟨tok, ls, rfl, htok, rfl⟩ := List.map_eq_cons_iff.mp hls
      exact (gives_signed_minus htok).mpr ⟨_, ih.gives rfl hends, rfl⟩
  | minus _ hx ht ih =>
      intro ls rest hls hends
      obtain ⟨tok, ls, rfl, htok, rfl⟩ := List.map_eq_cons_iff.mp hls
      exact (gives_signed_minus htok).mpr
        ⟨_, ih.gives rfl hends, negate_eq_ok.mpr (Or.inr ⟨hx, ht⟩)⟩
  | bang _ ht ih =>
      intro ls rest hls hends
      obtain ⟨tok, ls, rfl, htok, rfl⟩ := List.map_eq_cons_iff.mp hls
      exact (gives_signed_bang htok).mpr ⟨_, ih.gives rfl hends, ht⟩
  | unsigned whole ih =>
      -- a power begins with neither sign, so the parser is at its last alternative
      intro ls rest hls hends
      subst hls
      have hopens := whole.opens_head rest
      rw [parserOf, signed_eq_power]
      · exact ih.gives rfl hends
      · intro next hnext htok
        simpa [htok, Phrase.opens] using hopens next hnext
      · intro next hnext htok
        simpa [htok, Phrase.opens] using hopens next hnext
  | bare _ ih =>
      intro ls rest hls hends
      subst hls
      refine (gives_power_of_base ?_ (ih.gives rfl hends.primary)).mpr ⟨rfl, rfl⟩
      intro next hnext htok
      simpa [htok, Phrase.continues] using hends next hnext
  | raised _ _ ht ihb ihe =>
      intro ls rest hls hends
      obtain ⟨bs, tail, rfl, rfl, htail⟩ := List.map_eq_append_iff.mp hls
      obtain ⟨tok, es, rfl, htok, rfl⟩ := List.map_eq_cons_iff.mp htail
      rw [List.append_assoc]
      have hbase : Phrase.primary.EndsAt (tok :: es ++ rest) := by
        rw [List.cons_append, Phrase.endsAt_cons, htok]
        rfl
      exact (gives_power_of_exponent htok (ihb.gives rfl hbase)).mpr
        ⟨_, ihe.gives rfl hends, ht⟩
  | number x =>
      intro ls rest hls hends
      obtain ⟨tok, rfl, htok⟩ := List.map_eq_singleton_iff.mp hls
      exact (gives_primary_number htok).mpr ⟨rfl, rfl⟩
  | yes =>
      intro ls rest hls hends
      exact name_complete hls hends (named_eq_ok.mpr (Or.inl ⟨rfl, rfl⟩))
  | no =>
      intro ls rest hls hends
      exact name_complete hls hends (named_eq_ok.mpr (Or.inr (Or.inl ⟨rfl, rfl⟩)))
  | «variable» hyes hno htype =>
      intro ls rest hls hends
      exact name_complete hls hends (named_eq_ok.mpr (Or.inr (Or.inr ⟨hyes, hno, _, htype, rfl⟩)))
  | parentheses _ ih =>
      intro ls rest hls hends
      obtain ⟨tok, tail, rfl, htok, htail⟩ := List.map_eq_cons_iff.mp hls
      obtain ⟨ls, last, rfl, rfl, hlast⟩ := List.map_eq_append_iff.mp htail
      obtain ⟨close, rfl, hclose⟩ := List.map_eq_singleton_iff.mp hlast
      rw [List.cons_append, List.append_assoc]
      refine (gives_primary_openParen htok).mpr ⟨close, ih.gives rfl ?_, hclose⟩
      exact endsAt_of_mark (Or.inr hclose)
  | call hf whole ht ih =>
      intro ls rest hls hends
      obtain ⟨tok, tail, rfl, htok, htail⟩ := List.map_eq_cons_iff.mp hls
      obtain ⟨next, tail, rfl, hnext, htail⟩ := List.map_eq_cons_iff.mp htail
      obtain ⟨ls, last, rfl, hparts, hlast⟩ := List.map_eq_append_iff.mp htail
      obtain ⟨close, rfl, hclose⟩ := List.map_eq_singleton_iff.mp hlast
      rw [List.cons_append, List.cons_append, List.append_assoc]
      refine (gives_primary_call htok hnext).mpr ?_
      exact call_complete hf whole ih hparts hclose ht

/-- The tokens of an expression spell one tree, whatever may be nested. -/
theorem Spells.unique {typeOf : String → Option ValueType} {n m : Nat} {p : Phrase}
    {ts : List Token} {t t' : Node} (h : Spells typeOf n p ts t) (h' : Spells typeOf m p ts t') :
    t = t' := by
  -- any lexemes will do that have these tokens, since places only show in errors
  have hlexemes : (ts.map fun token => Lexeme.mk 0 0 token).map Lexeme.token = ts := by
    rw [List.map_map]
    exact List.map_id ts
  have hgives := (h.mono (Nat.le_max_left n m)).complete (c := ⟨typeOf, 0⟩).gives hlexemes
    p.endsAt_nil
  have hgives' := (h'.mono (Nat.le_max_right n m)).complete (c := ⟨typeOf, 0⟩).gives hlexemes
    p.endsAt_nil
  exact (hgives.unique hgives').1

/-- An expression that takes all tokens is one that they spell. -/
theorem gives_expression_iff :
    Gives (expression c ts) t [] ↔
      Spells c.typeOf Node.maxDepth (.level 0) (ts.map Lexeme.token) t := by
  constructor
  · intro h
    obtain ⟨used, hts, hused⟩ := level_sound (signed_sound c _) (Nat.zero_le _) h
    rw [List.append_nil] at hts
    rwa [hts]
  · intro h
    have hgives := h.complete.gives rfl (Phrase.endsAt_nil _)
    rw [List.append_nil] at hgives
    exact hgives

end Telemetry.Equation

namespace Telemetry

open Equation

variable {text : String} {typeOf : String → Option ValueType} {t : Node}

theorem Node.parse_eq_ok_of_tokens {tok : Lexeme} {tail : List Lexeme}
    (h : tokenize text = .ok (tok :: tail)) :
    Node.parse text typeOf = .ok t ↔
      Gives (expression ⟨typeOf, text.utf8ByteSize⟩ (tok :: tail)) t [] := by
  rw [Node.parse, h]
  show (expression ⟨typeOf, text.utf8ByteSize⟩ (tok :: tail) >>= _) = .ok t ↔ _
  cases hexpression : expression ⟨typeOf, text.utf8ByteSize⟩ (tok :: tail) with
  | error e =>
      show Except.error e = Except.ok t ↔ _
      simp
  | ok result =>
      obtain ⟨node, rest, hrest⟩ := result
      cases rest with
      | nil =>
          show Except.ok node = Except.ok t ↔ _
          simp [eq_comm]
      | cons next more =>
          show Except.error _ = Except.ok t ↔ _
          simp

/-- **A text parses to a tree iff its tokens spell it**, with at most `Node.maxDepth` signed
operands nested in one another; and tokens spell at most one tree, whatever they nest. -/
theorem Node.parse_iff_spells (text : String) (typeOf : String → Option ValueType) (t : Node) :
    (Node.parse text typeOf = .ok t ↔
      ∃ lexemes, tokenize text = .ok lexemes ∧
        Spells typeOf Node.maxDepth (.level 0) (lexemes.map Lexeme.token) t) ∧
    ∀ (n m : Nat) (ts : List Token) (t₁ t₂ : Node),
      Spells typeOf n (.level 0) ts t₁ → Spells typeOf m (.level 0) ts t₂ → t₁ = t₂ := by
  refine ⟨?_, fun n m ts t₁ t₂ h₁ h₂ => h₁.unique h₂⟩
  constructor
  · intro h
    cases htokens : tokenize text with
    | error e =>
        rw [Node.parse, htokens] at h
        cases h
    | ok lexemes =>
        cases lexemes with
        | nil =>
            rw [Node.parse, htokens] at h
            cases h
        | cons tok tail =>
            refine ⟨tok :: tail, rfl, ?_⟩
            exact gives_expression_iff.mp ((parse_eq_ok_of_tokens htokens).mp h)
  · rintro ⟨lexemes, htokens, hspells⟩
    obtain ⟨first, tail, hfirst, -⟩ := hspells.opens
    obtain ⟨tok, lexemes, rfl, -, -⟩ := List.map_eq_cons_iff.mp hfirst
    exact (parse_eq_ok_of_tokens htokens).mpr (gives_expression_iff.mpr hspells)

end Telemetry
