import Telemetry.Proofs.Equation.Places
import Telemetry.Proofs.Equation.Words

/-!
# Tokens from bytes

The tokens of a text are found by characters. Here they are found by an index that moves over the
bytes, as in an array: every test is on one byte, and what a token stands for is cut out of the
text between two indices. It has no result if it cuts inside of a character, nor if the rounds of
its loop are not enough.

It never cuts inside of a character and finds the same tokens, in more rounds than there are bytes
(`tokenize_eq`).
-/

namespace Telemetry.Equation

variable {c : Char} {cs rest : List Char}

/-! ## The characters of a token -/

theorem take_takeWhile (p : Char → Bool) (cs : List Char) :
    cs.take (cs.takeWhile p).length = cs.takeWhile p :=
  (List.prefix_iff_eq_take.mp (List.takeWhile_prefix p)).symm

theorem prefix_of_operator? {op : Operator} (h : operator? cs = some op) :
    op.spelling.toList <+: cs := by
  have hfound := List.find?_some h
  exact List.isPrefixOf_iff_prefix.mp hfound

/-- The characters of an operator. -/
theorem spelling_of_operator? {op : Operator} (h : operator? (c :: rest) = some op) :
    c :: rest.take (op.spelling.length - 1) = op.spelling.toList := by
  obtain ⟨rest', hrest⟩ := prefix_of_operator? h
  obtain ⟨d, tail, hspelling, -⟩ := exists_spelling_eq op
  rw [hspelling, List.cons_append] at hrest
  obtain ⟨rfl, rfl⟩ := List.cons.inj hrest
  rw [← String.length_toList, hspelling, List.length_cons, Nat.add_sub_cancel, List.take_left]

end Telemetry.Equation

namespace Telemetry.Equation.Cursor

variable {text : String} {i j n : Nat} {c : Char} {cs rest : List Char} {p : Char → Bool}

def char? (text : String) (i : Nat) : Option Char :=
  (byte? text i).map fun b => Char.ofNat b.toNat

def passes (p : Char → Bool) (text : String) (i : Nat) : Bool := (char? text i).any p

theorem lt_of_passes (h : passes p text i = true) : i < text.utf8ByteSize := by
  rcases Nat.lt_or_ge i text.utf8ByteSize with hlt | hge
  · exact hlt
  · have hnone : byte? text i = none := Array.getElem?_eq_none hge
    rw [passes, char?, hnone] at h
    cases h

def skip (p : Char → Bool) (text : String) (i : Nat) : Nat :=
  if h : passes p text i then skip p text (i + 1) else i
termination_by text.utf8ByteSize - i
decreasing_by exact Nat.sub_succ_lt_self _ _ (lt_of_passes h)

def isExponentMark (c : Char) : Bool := c = 'e' || c = 'E'

def isSign (c : Char) : Bool := c = '+' || c = '-'

def exponentEnd (text : String) (i : Nat) : Nat :=
  if passes isExponentMark text i then
    let digits := if passes isSign text (i + 1) then i + 1 + 1 else i + 1
    if passes Char.isDigit text digits then skip Char.isDigit text digits else i
  else i

def literalEnd (text : String) (i : Nat) : Nat := exponentEnd text (skip isNumberChar text i)

def number? (text : String) (i : Nat) : Option (Except TextFault (Token × Nat)) := do
  let literal ← slice? text i (literalEnd text i)
  match Decimal.read? literal with
  | some x => some (.ok (.number x, literalEnd text i))
  | none => some (.error (.invalidNumber literal))

def name? (text : String) (i : Nat) : Option (Except TextFault (Token × Nat)) := do
  let name ← slice? text i (skip isNameChar text i)
  some (.ok (.identifier name, skip isNameChar text i))

def operation? (text : String) (i : Nat) (c : Char) :
    Option (Except TextFault (Token × Nat)) := do
  let rest ← slice? text i text.utf8ByteSize
  match operator? rest.toList with
  | some op => some (.ok (.operator op, i + op.spelling.utf8ByteSize))
  | none => some (.error (.unexpectedCharacter c))

/-- The token at index `i`, whose byte is `c`, and the index behind it. -/
def word? (text : String) (i : Nat) (c : Char) : Option (Except TextFault (Token × Nat)) :=
  if c.isDigit ∨ (c = '.' ∧ passes Char.isDigit text (i + 1)) then number? text i
  else if isNameStart c then name? text i
  else if c = '(' then some (.ok (.openParen, i + 1))
  else if c = ')' then some (.ok (.closeParen, i + 1))
  else if c = ',' then some (.ok (.comma, i + 1))
  else operation? text i c

def loop (text : String) : (rounds i : Nat) → Option (Except EquationError (List Lexeme))
  | 0, _ => none
  | rounds + 1, i =>
    match char? text i with
    | none => some (.ok [])
    | some c =>
      if isGap c then loop text rounds (i + 1)
      else match word? text i c with
        | none => none
        | some (.error fault) => some (.error (.malformed i fault))
        | some (.ok (token, stop)) =>
          (loop text rounds stop).map (Except.map (⟨i, stop, token⟩ :: ·))

def tokenize (rounds : Nat) (text : String) : Option (Except EquationError (List Lexeme)) :=
  loop text rounds 0

/-! ## Tests on bytes -/

theorem isAscii_isExponentMark : IsAscii isExponentMark :=
  (isAscii_eq (by decide)).or (isAscii_eq (by decide))

theorem isAscii_isSign : IsAscii isSign := (isAscii_eq (by decide)).or (isAscii_eq (by decide))

theorem char?_cons (h : At text i (c :: rest)) : char? text i = some (leadByte c) := by
  have hbyte := h.byte?_eq 0
  rw [Nat.add_zero, encoding, List.flatMap_cons] at hbyte
  rw [char?, hbyte, leadByte]
  cases hc : String.utf8EncodeChar c with
  | nil => exact absurd hc String.utf8EncodeChar_ne_nil
  | cons b bytes => rfl

theorem char?_nil (h : At text i []) : char? text i = none := by
  have hbyte := h.byte?_eq 0
  rw [Nat.add_zero] at hbyte
  rw [char?, hbyte]
  rfl

theorem passes_eq (hp : IsAscii p) (h : At text i cs) : passes p text i = cs.head?.any p := by
  cases cs with
  | nil =>
      rw [passes, char?_nil h]
      rfl
  | cons c rest =>
      rw [passes, char?_cons h]
      exact hp.leadByte c

theorem leadByte_eq_iff {d : Char} (hd : d.toNat < 128) : leadByte c = d ↔ c = d := by
  have hsame := (isAscii_eq hd).leadByte c
  rw [decide_eq_decide] at hsame
  exact hsame

/-! ## Indices behind words -/

/-- The index `j` stands behind the first `n` characters of those at `i`, which take `n` bytes. -/
def Spans (text : String) (i : Nat) (cs : List Char) (n j : Nat) : Prop :=
  j = i + n ∧ At text j (cs.drop n)

theorem Spans.eq_add_width (hn : Spans text i cs n j) (h : At text i cs) :
    j = i + width (cs.take n) := by
  obtain ⟨rfl, hj⟩ := hn
  have hcs : At text i (cs.take n ++ cs.drop n) := by rwa [List.take_append_drop]
  have hsize := hcs.append.add_width
  rw [← hj.add_width] at hsize
  exact (Nat.add_right_cancel hsize).symm

theorem Spans.slice?_eq (hn : Spans text i cs n j) (h : At text i cs) :
    slice? text i j = some (String.ofList (cs.take n)) := by
  have hcs : At text i (cs.take n ++ cs.drop n) := by rwa [List.take_append_drop]
  rw [hn.eq_add_width h]
  exact hcs.slice?_eq

theorem spans_skip (hp : IsAscii p) (h : At text i cs) :
    Spans text i cs (cs.takeWhile p).length (skip p text i) := by
  induction cs generalizing i with
  | nil =>
      rw [skip, dif_neg (by simp [passes_eq hp h])]
      exact ⟨rfl, h⟩
  | cons c rest ih =>
      have hpasses : passes p text i = p c := passes_eq hp h
      cases hc : p c with
      | false =>
          rw [skip, dif_neg (by simp [hpasses, hc]), List.takeWhile_cons_of_neg (by simp [hc])]
          exact ⟨rfl, h⟩
      | true =>
          obtain ⟨hskip, hrest⟩ := ih (h.cons_ascii (hp c hc))
          rw [skip, dif_pos (hpasses.trans hc), List.takeWhile_cons_of_pos hc]
          refine ⟨?_, hrest⟩
          rw [hskip, List.length_cons, Nat.add_assoc, Nat.add_comm 1]

/-- Behind the words at `i` there are further ones. -/
theorem Spans.trans {k m : Nat} (h : Spans text i cs n j) (h' : Spans text j (cs.drop n) m k) :
    Spans text i cs (n + m) k := by
  obtain ⟨rfl, -⟩ := h
  obtain ⟨rfl, hk⟩ := h'
  refine ⟨Nat.add_assoc _ _ _, ?_⟩
  rwa [List.drop_drop] at hk

theorem exponentLength_cons (e : Char) (rest : List Char) :
    exponentLength (e :: rest) =
      let sign := if rest.head?.any isSign then 1 else 0
      let digits := ((rest.drop sign).takeWhile Char.isDigit).length
      if isExponentMark e ∧ digits ≠ 0 then 1 + sign + digits else 0 := by
  unfold exponentLength
  simp only [isExponentMark, Bool.or_eq_true, decide_eq_true_eq]
  cases rest with
  | nil => rfl
  | cons s tail =>
      by_cases hs : s = '+' ∨ s = '-'
      · rcases hs with rfl | rfl <;> rfl
      · have hunsigned : isSign s = false := by simpa [isSign] using hs
        rw [List.head?_cons, Option.any_some, hunsigned]
        split
        · rename_i heq
          exact absurd (.inl (List.cons.inj heq).1) hs
        · rename_i heq
          exact absurd (.inr (List.cons.inj heq).1) hs
        · rfl

theorem length_takeWhile_ne_zero {ds : List Char} :
    (ds.takeWhile p).length ≠ 0 ↔ ds.head?.any p = true := by
  cases ds with
  | nil => simp
  | cons d ds => cases hd : p d <;> simp [hd]

/-- An exponent has digits behind its sign, or nothing of it belongs to the literal. -/
theorem spans_digits {e : Char} {sign : Nat} (h : At text i (e :: rest))
    (hsign : At text (i + 1 + sign) (rest.drop sign)) :
    Spans text i (e :: rest)
      (if ((rest.drop sign).takeWhile Char.isDigit).length ≠ 0 then
        1 + sign + ((rest.drop sign).takeWhile Char.isDigit).length else 0)
      (if passes Char.isDigit text (i + 1 + sign) then skip Char.isDigit text (i + 1 + sign)
        else i) := by
  rw [passes_eq isAscii_isDigit hsign]
  by_cases hdigits : (rest.drop sign).head?.any Char.isDigit = true
  · rw [if_pos (length_takeWhile_ne_zero.mpr hdigits), if_pos hdigits]
    have hbefore : Spans text i (e :: rest) (1 + sign) (i + 1 + sign) := by
      rw [Nat.add_comm 1 sign]
      exact ⟨by rw [Nat.add_assoc, Nat.add_comm 1 sign], hsign⟩
    refine hbefore.trans ?_
    rw [Nat.add_comm 1 sign]
    exact spans_skip isAscii_isDigit hsign
  · rw [if_neg (mt length_takeWhile_ne_zero.mp hdigits), if_neg hdigits]
    exact ⟨rfl, h⟩

theorem spans_exponentEnd (h : At text i cs) :
    Spans text i cs (exponentLength cs) (exponentEnd text i) := by
  cases cs with
  | nil =>
      rw [exponentEnd, passes_eq isAscii_isExponentMark h]
      exact ⟨rfl, h⟩
  | cons e rest =>
      have hmark : passes isExponentMark text i = isExponentMark e :=
        passes_eq isAscii_isExponentMark h
      rw [exponentLength_cons, exponentEnd, hmark]
      by_cases he : isExponentMark e = true
      · have hrest : At text (i + 1) rest := h.cons_ascii (isAscii_isExponentMark e he)
        simp only [he, true_and, if_true, passes_eq isAscii_isSign hrest]
        cases rest with
        | nil => exact spans_digits h hrest
        | cons s tail =>
            by_cases hs : isSign s = true
            · have htail := hrest.cons_ascii (isAscii_isSign s hs)
              simp only [List.head?_cons, Option.any_some, hs, if_true]
              exact spans_digits h htail
            · simp only [List.head?_cons, Option.any_some, hs]
              exact spans_digits h hrest
      · rw [if_neg he]
        dsimp only
        rw [if_neg fun hexponent => he hexponent.1]
        exact ⟨rfl, h⟩

theorem spans_literalEnd (h : At text i cs) :
    Spans text i cs (literalLength cs) (literalEnd text i) := by
  have hskip := spans_skip isAscii_isNumberChar h
  have hdrop : cs.drop (cs.takeWhile isNumberChar).length = cs.dropWhile isNumberChar := by
    have happend : (cs.takeWhile isNumberChar ++ cs.dropWhile isNumberChar).drop
        (cs.takeWhile isNumberChar).length = cs.dropWhile isNumberChar := List.drop_left
    rwa [List.takeWhile_append_dropWhile] at happend
  rw [literalLength, ← hdrop]
  exact hskip.trans (spans_exponentEnd hskip.2)

/-! ## The same tokens -/

theorem number?_eq (h : At text i (c :: rest)) (hc : isNumberChar c = true) :
    number? text i =
      let tail := rest.take (literalLength (c :: rest) - 1)
      some (match Decimal.read? (String.ofList (c :: tail)) with
        | some x => .ok (.number x, i + width (c :: tail))
        | none => .error (.invalidNumber (String.ofList (c :: tail)))) := by
  obtain ⟨n, hn⟩ : ∃ n, literalLength (c :: rest) = n + 1 := by
    rw [literalLength, List.takeWhile_cons_of_pos hc, List.length_cons, Nat.add_right_comm]
    exact ⟨_, rfl⟩
  have hspans := spans_literalEnd h
  have hslice := hspans.slice?_eq h
  have hend := hspans.eq_add_width h
  rw [hn, List.take_succ_cons] at hslice hend
  rw [hn, Nat.add_sub_cancel, number?, hslice, hend]
  dsimp only [bind, Option.bind_some]
  cases Decimal.read? (String.ofList (c :: rest.take n)) <;> rfl

theorem isNameChar_of_isNameStart (h : isNameStart c = true) : isNameChar c = true := by
  rcases (Bool.or_eq_true _ _).mp h with hc | hc
  · rw [isNameChar, Char.isAlphanum, hc]
    rfl
  · rw [isNameChar, hc, Bool.or_true]

theorem name?_eq (h : At text i (c :: rest)) (hc : isNameChar c = true) :
    name? text i =
      let tail := rest.takeWhile isNameChar
      some (.ok (.identifier (String.ofList (c :: tail)), i + width (c :: tail))) := by
  have hspans := spans_skip isAscii_isNameChar h
  have htake : (c :: rest).take ((c :: rest).takeWhile isNameChar).length =
      c :: rest.takeWhile isNameChar := by
    rw [take_takeWhile, List.takeWhile_cons_of_pos hc]
  have hslice := hspans.slice?_eq h
  have hend := hspans.eq_add_width h
  rw [htake] at hslice hend
  rw [name?, hslice, hend]
  rfl

theorem operation?_eq (h : At text i (c :: rest)) (d : Char) :
    operation? text i d =
      some (match operator? (c :: rest) with
        | some op => .ok (.operator op, i + width (c :: rest.take (op.spelling.length - 1)))
        | none => .error (.unexpectedCharacter d)) := by
  have hrest : slice? text i text.utf8ByteSize = some (String.ofList (c :: rest)) := by
    rw [← h.add_width]
    have hall : At text i ((c :: rest) ++ []) := by rwa [List.append_nil]
    exact hall.slice?_eq
  rw [operation?, hrest]
  dsimp only [bind, Option.bind_some]
  rw [String.toList_ofList]
  cases hop : operator? (c :: rest) with
  | none => rfl
  | some op =>
      dsimp only
      rw [spelling_of_operator? hop, width_toList]

/-- At a character, the token and the index behind it are those of its scan. -/
theorem word?_eq (h : At text i (c :: rest)) :
    word? text i (leadByte c) =
      some ((scan c rest).map fun (token, n) => (token, i + width (c :: rest.take n))) := by
  have hfirst : (leadByte c).isDigit ∨ (leadByte c = '.' ∧ passes Char.isDigit text (i + 1)) ↔
      c.isDigit ∨ (c = '.' ∧ rest.head?.any Char.isDigit) := by
    rw [isAscii_isDigit.leadByte, leadByte_eq_iff (by decide)]
    refine or_congr_right (and_congr_right ?_)
    rintro rfl
    rw [passes_eq isAscii_isDigit (h.cons_ascii (by decide))]
  unfold word? scan
  -- the first byte of a longer character passes no test, as the character itself
  by_cases hnumber : c.isDigit ∨ (c = '.' ∧ rest.head?.any Char.isDigit)
  · have hc : isNumberChar c = true := by
      rcases hnumber with hc | ⟨rfl, -⟩
      · rw [isNumberChar, hc, Bool.true_or]
      · rfl
    rw [if_pos (hfirst.mpr hnumber), if_pos hnumber, number?_eq h hc]
    dsimp only
    cases Decimal.read? (String.ofList (c :: rest.take (literalLength (c :: rest) - 1))) <;> rfl
  rw [if_neg (mt hfirst.mp hnumber), if_neg hnumber, isAscii_isNameStart.leadByte]
  by_cases hname : isNameStart c = true
  · have hc : isNameChar c = true := isNameChar_of_isNameStart hname
    rw [if_pos hname, if_pos hname, name?_eq h hc]
    dsimp only [Except.map]
    rw [take_takeWhile]
  rw [if_neg hname, if_neg hname]
  by_cases hopen : c = '('
  · subst hopen
    rfl
  rw [if_neg (mt (leadByte_eq_iff (by decide)).mp hopen), if_neg hopen]
  by_cases hclose : c = ')'
  · subst hclose
    rfl
  rw [if_neg (mt (leadByte_eq_iff (by decide)).mp hclose), if_neg hclose]
  by_cases hcomma : c = ','
  · subst hcomma
    rfl
  rw [if_neg (mt (leadByte_eq_iff (by decide)).mp hcomma), if_neg hcomma, operation?_eq h]
  cases operator? (c :: rest) <;> rfl

/-- What is left behind a word is shorter than the text at the word. -/
theorem width_lt_of_append {mid : List Char} {k : Nat} (hmid : mid ≠ [])
    (h : width (mid ++ rest) < k + 1) : width rest < k := by
  have hpos := width_pos hmid
  rw [width_append] at h
  omega

theorem loop_eq {rounds : Nat} (h : At text i cs) (hrounds : width cs < rounds) :
    loop text rounds i = some (lexemes i cs) := by
  induction rounds generalizing i cs with
  | zero => exact absurd hrounds (Nat.not_lt_zero _)
  | succ rounds ih =>
      rw [loop]
      cases cs with
      | nil => rw [char?_nil h, lexemes]
      | cons c rest =>
          rw [char?_cons h, lexemes]
          dsimp only
          rw [isAscii_isGap.leadByte]
          by_cases hgap : isGap c = true
          · rw [if_pos hgap, if_pos hgap, utf8Size_of_lt (isAscii_isGap c hgap)]
            have hshorter : width rest < rounds :=
              width_lt_of_append (List.cons_ne_nil c []) hrounds
            exact ih (h.cons_ascii (isAscii_isGap c hgap)) hshorter
          · rw [if_neg hgap, if_neg hgap, word?_eq h]
            cases hscan : scan c rest with
            | error fault => rfl
            | ok scanned =>
                obtain ⟨token, n⟩ := scanned
                dsimp only [Except.map]
                have hsplit : c :: rest = (c :: rest.take n) ++ rest.drop n := by
                  rw [List.cons_append, List.take_append_drop]
                rw [hsplit] at h hrounds
                rw [ih h.append (width_lt_of_append (List.cons_ne_nil _ _) hrounds)]
                rfl

/-- The index finds the tokens of the text. -/
theorem tokenize_eq {rounds : Nat} (h : text.utf8ByteSize < rounds) :
    tokenize rounds text = some (Equation.tokenize text) := by
  refine loop_eq (at_zero text) ?_
  rwa [width_toList]

end Telemetry.Equation.Cursor
