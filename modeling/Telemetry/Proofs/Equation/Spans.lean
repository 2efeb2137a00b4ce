import Telemetry.Proofs.Equation.Cursor
import Telemetry.Proofs.Equation.Offsets

/-!
# Nothing of a text is lost

The tokens of a text cover it but for the blanks between them (`Covers`). So they can be cut out of
the text in their order, each spells what is cut out, and what remains is blank
(`Equation.tokenize_lossless`). Where a text has no tokens, or none that are an equation, the place
that is reported is one at which the text can be cut.
-/

namespace Telemetry

def Token.SpelledBy : Token → String → Prop
  | .number x, s => Decimal.read? s = some x
  | .identifier name, s => s = name
  | .operator op, s => s = op.spelling
  | .openParen, s => s = "("
  | .closeParen, s => s = ")"
  | .comma, s => s = ","

namespace Equation

variable {text : String} {i n offset : Nat} {c : Char} {cs rest : List Char} {token : Token}
  {l : Lexeme} {ls : List Lexeme}

/-! ## Tokens and blanks -/

/-- The tokens of `cs`, whose first byte is at `offset`, with blanks between them. -/
inductive Covers : Nat → List Char → List Lexeme → Prop
  | nil (offset : Nat) : Covers offset [] []
  | gap {offset : Nat} {c : Char} {rest : List Char} {ls : List Lexeme} (hc : isGap c = true)
      (h : Covers (offset + c.utf8Size) rest ls) : Covers offset (c :: rest) ls
  | token {offset : Nat} {cs rest : List Char} {token : Token} {ls : List Lexeme} (hcs : cs ≠ [])
      (hspelled : token.SpelledBy (String.ofList cs))
      (h : Covers (offset + width cs) rest ls) :
      Covers offset (cs ++ rest) (⟨offset, offset + width cs, token⟩ :: ls)

theorem spelledBy_of_scan (h : scan c rest = .ok (token, n)) :
    token.SpelledBy (String.ofList (c :: rest.take n)) := by
  unfold scan at h
  split at h
  · dsimp only at h
    split at h
    · rename_i hread
      cases h
      exact hread
    · cases h
  split at h
  · cases h
    rw [take_takeWhile]
    rfl
  split at h
  · rename_i hc
    cases h
    rw [hc]
    rfl
  split at h
  · rename_i hc
    cases h
    rw [hc]
    rfl
  split at h
  · rename_i hc
    cases h
    rw [hc]
    rfl
  · split at h
    · rename_i op hop
      cases h
      rw [spelling_of_operator? hop, String.ofList_toList]
      rfl
    · cases h

theorem covers_of_lexemes (h : lexemes offset cs = .ok ls) : Covers offset cs ls := by
  fun_induction lexemes offset cs generalizing ls with
  | case1 =>
      cases h
      exact .nil _
  | case2 offset c rest hgap ih => exact .gap hgap (ih h)
  | case3 => cases h
  | case4 offset c rest hgap token n hscan stop =>
      rename_i ih
      cases htail : lexemes stop (rest.drop n) with
      | error e =>
          rw [htail] at h
          cases h
      | ok tail =>
          rw [htail] at h
          cases h
          rw [show c :: rest = (c :: rest.take n) ++ rest.drop n by
            rw [List.cons_append, List.take_append_drop]]
          exact .token (List.cons_ne_nil _ _) (spelledBy_of_scan hscan) (ih htail)

theorem Covers.le_start (h : Covers offset cs ls) (hl : l ∈ ls) : offset ≤ l.start := by
  induction h with
  | nil => cases hl
  | gap hc h ih => exact Nat.le_trans (Nat.le_add_right _ _) (ih hl)
  | token hcs hspelled h ih =>
      rcases List.mem_cons.mp hl with rfl | hl
      · exact Nat.le_refl _
      · exact Nat.le_trans (Nat.le_add_right _ _) (ih hl)

/-- The tokens follow each other. -/
theorem Covers.pairwise (h : Covers offset cs ls) :
    ls.Pairwise fun l l' => l.stop ≤ l'.start := by
  induction h with
  | nil => exact .nil
  | gap hc h ih => exact ih
  | token hcs hspelled h ih => exact .cons (fun l' hl' => h.le_start hl') ih

theorem Covers.exists_slice? (h : Covers i cs ls) (hcs : At text i cs) (hl : l ∈ ls) :
    l.start < l.stop ∧ ∃ s, slice? text l.start l.stop = some s ∧ l.token.SpelledBy s := by
  induction h with
  | nil => cases hl
  | gap hc h ih => exact ih hcs.cons hl
  | token hne hspelled h ih =>
      rcases List.mem_cons.mp hl with rfl | hl
      · exact ⟨Nat.lt_add_of_pos_right (width_pos hne), _, hcs.slice?_eq, hspelled⟩
      · exact ih hcs.append hl

/-- The blanks between tokens, as bytes: tabulators, ends of lines and of pages, spaces. -/
def gapBytes : List UInt8 := [9, 10, 12, 13, 32]

theorem encoding_gap (hc : isGap c = true) :
    ∃ b ∈ gapBytes, encoding (c :: rest) = b :: encoding rest := by
  simp only [isGap, Bool.or_eq_true, decide_eq_true_eq] at hc
  rcases hc with (((rfl | rfl) | rfl) | rfl) | rfl <;> exact ⟨_, by decide, rfl⟩

/-- A byte that belongs to no token is a blank. -/
theorem Covers.mem_gapBytes (h : Covers offset cs ls) (hcs : At text offset cs) {b : UInt8}
    (hi : offset ≤ i) (hb : byte? text i = some b)
    (houtside : ∀ l ∈ ls, ¬ (l.start ≤ i ∧ i < l.stop)) : b ∈ gapBytes := by
  induction h with
  | nil offset =>
      obtain ⟨k, rfl⟩ := Nat.exists_eq_add_of_le hi
      rw [hcs.byte?_eq] at hb
      cases hb
  | gap hc h ih =>
      rcases Nat.eq_or_lt_of_le hi with rfl | hlt
      · obtain ⟨first, hfirst, hbytes⟩ := encoding_gap hc
        have hb' := hcs.byte?_eq 0
        rw [hbytes] at hb'
        obtain rfl : first = b := Option.some.inj (hb'.symm.trans hb)
        exact hfirst
      · rw [utf8Size_of_lt (isAscii_isGap _ hc)] at h ih
        exact ih (hcs.cons_ascii (isAscii_isGap _ hc)) hlt houtside
  | token hne hspelled h ih =>
      refine ih hcs.append ?_ fun l hl => houtside l (List.mem_cons_of_mem _ hl)
      have hnot := houtside _ List.mem_cons_self
      exact Nat.not_lt.mp fun hlt => hnot ⟨hi, hlt⟩

/-- The text can be put together again from its tokens and blanks between them. -/
structure Lossless (text : String) (ls : List Lexeme) : Prop where
  /-- What is cut out for a token is not empty and spells it. -/
  cut : ∀ l ∈ ls, l.start < l.stop ∧
    ∃ s, slice? text l.start l.stop = some s ∧ l.token.SpelledBy s
  ordered : ls.Pairwise fun l l' => l.stop ≤ l'.start
  blank : ∀ i b, byte? text i = some b → (∀ l ∈ ls, ¬ (l.start ≤ i ∧ i < l.stop)) → b ∈ gapBytes

theorem lossless_of_tokenize (h : tokenize text = .ok ls) : Lossless text ls := by
  have hcovers := covers_of_lexemes h
  constructor
  · intro l hl
    exact hcovers.exists_slice? (at_zero text) hl
  · exact hcovers.pairwise
  · intro i b hb houtside
    exact hcovers.mem_gapBytes (at_zero text) (Nat.zero_le i) hb houtside

/-! ## Places of faults -/

/-- Where no token can be scanned, the text can be cut. -/
theorem boundary_of_lexemes {e : EquationError} (hcs : At text offset cs)
    (h : lexemes offset cs = .error e) :
    ∃ place fault, e = .malformed place fault ∧ Boundary text place := by
  fun_induction lexemes offset cs with
  | case1 => cases h
  | case2 offset c rest hgap ih => exact ih hcs.cons h
  | case3 offset c rest hgap fault hscan =>
      cases h
      exact ⟨_, _, rfl, hcs.boundary⟩
  | case4 offset c rest hgap token n hscan stop ih =>
      have hrest : At text stop (rest.drop n) := by
        rw [show c :: rest = (c :: rest.take n) ++ rest.drop n by
          rw [List.cons_append, List.take_append_drop]] at hcs
        exact hcs.append
      cases htail : lexemes stop (rest.drop n) with
      | ok tail =>
          rw [htail] at h
          cases h
      | error e' =>
          rw [htail] at h
          cases h
          exact ih hrest htail

theorem placed_of_tokenize (h : tokenize text = .ok ls) : Placed (Boundary text) ls := by
  intro l hl
  obtain ⟨-, s, hslice, -⟩ := (lossless_of_tokenize h).cut l hl
  exact (boundary_of_slice? hslice).1

end Equation

open Equation

/-- Where a text that is not accepted is at fault, it can be cut. -/
theorem Node.boundary_of_parse {text : String} {typeOf : String → Option ValueType} {offset : Nat}
    {fault : TextFault} (h : Node.parse text typeOf = .error (.malformed offset fault)) :
    Boundary text offset := by
  unfold Node.parse at h
  cases htokens : tokenize text with
  | error e =>
      rw [htokens] at h
      cases h
      obtain ⟨_, _, heq, hboundary⟩ := boundary_of_lexemes (at_zero text) htokens
      cases heq
      exact hboundary
  | ok ls =>
      rw [htokens] at h
      cases ls with
      | nil =>
          cases h
          exact (at_zero text).boundary
      | cons t tail =>
          have hend : Boundary text text.utf8ByteSize := (at_end text).boundary
          have hplaced : Placed (Boundary text) (t :: tail) := placed_of_tokenize htokens
          have hresult := parsesPlaced_expression (c := ⟨typeOf, text.utf8ByteSize⟩) hend _ hplaced
          change (expression ⟨typeOf, text.utf8ByteSize⟩ (t :: tail) >>= _) = _ at h
          cases hexpression : expression ⟨typeOf, text.utf8ByteSize⟩ (t :: tail) with
          | error e =>
              rw [hexpression] at h hresult
              cases h
              exact hresult _ _ rfl
          | ok result =>
              obtain ⟨node, rest, hrest⟩ := result
              rw [hexpression] at h hresult
              cases rest with
              | nil => cases h
              | cons next more =>
                  cases h
                  exact hresult next List.mem_cons_self

/-- **Nothing of a text is lost.** An index that moves over the bytes of a text, in more rounds than
there are bytes, never cuts inside of a character and finds the tokens of the text. They are cut out
of the text in their order, with nothing but blanks left over. A text that is at fault, in its words
or in their order, is so at a place where it can be cut. -/
theorem Equation.tokenize_lossless (text : String) {rounds : Nat}
    (hrounds : text.utf8ByteSize < rounds) :
    Cursor.tokenize rounds text = some (tokenize text) ∧
    (∀ ls, tokenize text = .ok ls → Lossless text ls) ∧
    (∀ e, tokenize text = .error e →
      ∃ offset fault, e = .malformed offset fault ∧ Boundary text offset) ∧
    ∀ typeOf offset fault, Node.parse text typeOf = .error (.malformed offset fault) →
      Boundary text offset := by
  refine ⟨Cursor.tokenize_eq hrounds, fun ls hls => lossless_of_tokenize hls, fun e he => ?_, ?_⟩
  · exact boundary_of_lexemes (at_zero text) he
  · intro typeOf offset fault h
    exact Node.boundary_of_parse h

/-- A comparison, and one with a character of two bytes. -/
theorem Equation.tokenize_lossless_comparison :
    Cursor.tokenize 7 "up >=b" =
        some (.ok [⟨0, 2, .identifier "up"⟩, ⟨3, 5, .operator .ge⟩, ⟨5, 6, .identifier "b"⟩]) ∧
      Lossless "up >=b" [⟨0, 2, .identifier "up"⟩, ⟨3, 5, .operator .ge⟩, ⟨5, 6, .identifier "b"⟩] ∧
      Boundary "up>=é" 4 := by
  have htokens : tokenize "up >=b" =
      .ok [⟨0, 2, .identifier "up"⟩, ⟨3, 5, .operator .ge⟩, ⟨5, 6, .identifier "b"⟩] := by
    cbv
  have hfault : tokenize "up>=é" = .error (.malformed 4 (.unexpectedCharacter 'Ã')) := by
    cbv
  have hlossless := tokenize_lossless "up >=b" (show _ < 7 by decide)
  have hmalformed := tokenize_lossless "up>=é" (show _ < 7 by decide)
  refine ⟨?_, hlossless.2.1 _ htokens, ?_⟩
  · rw [← htokens]
    exact hlossless.1
  · obtain ⟨_, _, heq, hboundary⟩ := hmalformed.2.2.1 _ hfault
    cases heq
    exact hboundary

end Telemetry
