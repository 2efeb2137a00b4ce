import Telemetry.Equation.Lexer
import Telemetry.Proofs.Decimal.Plain

/-!
# Words of a text

What begins a text is scanned as one token if the rest does not go on with it: a name before what is
no character of names, a plain number before what is no character of numbers either, an operator
before anything but an equality sign. So the tokens of a text are those of its words
(`Equation.Scans`), wherever it begins in a longer one. In return every token of a text comes from a
scan, and identifiers are names (`Equation.isName_of_mem_lexemes`).
-/

namespace Telemetry.Equation

open Decimal

variable {c : Char} {tail rest cs : List Char} {token : Token} {ts : List Token} {x : Float}
  {word : String} {length offset : Nat} {ls : List Lexeme} {l : Lexeme}

/-! ## Texts and their tokens -/

def Scans (cs : List Char) (ts : List Token) : Prop :=
  ∀ offset, ∃ ls, lexemes offset cs = .ok ls ∧ ls.map Lexeme.token = ts

theorem scans_nil : Scans [] [] := by
  intro offset
  exact ⟨[], by rw [lexemes], rfl⟩

theorem Scans.gap (h : Scans rest ts) (hc : isGap c = true) : Scans (c :: rest) ts := by
  intro offset
  rw [lexemes, if_pos hc]
  exact h _

theorem Scans.cons (h : Scans rest ts) (hc : isGap c = false)
    (hscan : scan c (tail ++ rest) = .ok (token, tail.length)) :
    Scans (c :: (tail ++ rest)) (token :: ts) := by
  intro offset
  obtain ⟨ls, hls, rfl⟩ := h (offset + width (c :: (tail ++ rest).take tail.length))
  rw [lexemes, if_neg (by simp [hc]), hscan]
  dsimp only
  rw [List.drop_left, hls]
  exact ⟨_, rfl, rfl⟩

/-- Every token of a text was scanned. -/
theorem exists_scan_of_mem_lexemes (h : lexemes offset cs = .ok ls) (hl : l ∈ ls) :
    ∃ c rest length, scan c rest = .ok (l.token, length) := by
  fun_induction lexemes offset cs generalizing ls with
  | case1 =>
      cases h
      cases hl
  | case2 offset c rest hgap ih => exact ih h hl
  | case3 => cases h
  | case4 offset c rest hgap token length hscan stop =>
      rename_i ih
      cases hmore : lexemes stop (rest.drop length) with
      | error e =>
          rw [hmore] at h
          cases h
      | ok more =>
          rw [hmore] at h
          cases h
          rcases List.mem_cons.mp hl with rfl | hl
          · exact ⟨c, rest, length, hscan⟩
          · exact ih hmore hl

/-! ## Marks and operators -/

def mark? : Char → Option Token
  | '(' => some .openParen
  | ')' => some .closeParen
  | ',' => some .comma
  | _ => none

theorem Scans.mark (h : Scans rest ts) (hc : mark? c = some token) :
    Scans (c :: rest) (token :: ts) := by
  have hmark : Scans (c :: ([] ++ rest)) (token :: ts) := by
    unfold mark? at hc
    split at hc
    · cases hc
      exact h.cons rfl rfl
    · cases hc
      exact h.cons rfl rfl
    · cases hc
      exact h.cons rfl rfl
    · cases hc
  exact hmark

/-- A character that begins neither a number nor a name, and is no mark and no blank. -/
def isSymbol (c : Char) : Bool :=
  !(c.isDigit || c = '.' || isNameStart c || c = '(' || c = ')' || c = ',' || isGap c)

theorem exists_spelling_eq (op : Operator) :
    ∃ c tail, op.spelling.toList = c :: tail ∧ isSymbol c = true := by
  cases op <;> exact ⟨_, _, rfl, rfl⟩

/-- An operator is found at the head of a text if it cannot be the beginning of a longer one. -/
theorem operator?_spelling (op : Operator) (hrest : rest.head? ≠ some '=') :
    operator? (op.spelling.toList ++ rest) = some op := by
  cases rest with
  | nil => cases op <;> rfl
  | cons next rest =>
      have hnext : '=' ≠ next := by simpa [eq_comm] using hrest
      cases op <;> simp [operator?, Operator.all, Operator.spelling, List.isPrefixOf, hnext]

theorem Scans.operator (op : Operator) (h : Scans rest ts) (hrest : rest.head? ≠ some '=') :
    Scans (op.spelling.toList ++ rest) (.operator op :: ts) := by
  have hfound := operator?_spelling op hrest
  obtain ⟨c, tail, hspelling, hc⟩ := exists_spelling_eq op
  have hlength : op.spelling.length - 1 = tail.length := by
    rw [← String.length_toList, hspelling, List.length_cons, Nat.add_sub_cancel]
  rw [hspelling, List.cons_append] at hfound ⊢
  simp only [isSymbol, Bool.not_eq_true', Bool.or_eq_false_iff, decide_eq_false_iff_not] at hc
  obtain ⟨⟨⟨⟨⟨⟨hdigit, hpoint⟩, hname⟩, hopen⟩, hclose⟩, hcomma⟩, hgap⟩ := hc
  refine h.cons hgap ?_
  rw [scan, if_neg (by simp [hdigit, hpoint]), if_neg (by simp [hname]), if_neg hopen,
    if_neg hclose, if_neg hcomma, hfound]
  dsimp only
  rw [hlength]

/-! ## Names -/

def isName (word : String) : Bool :=
  match word.toList with
  | [] => false
  | c :: tail => isNameStart c && tail.all isNameChar

theorem isName_iff : isName word = true ↔
    ∃ c tail, word.toList = c :: tail ∧ isNameStart c = true ∧ ∀ d ∈ tail, isNameChar d = true := by
  unfold isName
  cases word.toList with
  | nil => simp
  | cons c tail => simp

def EndsWord (rest : List Char) : Prop := ∀ c ∈ rest.head?, isNameChar c = false ∧ c ≠ '.'

theorem endsWord_nil : EndsWord [] := by
  intro c hc
  cases hc

theorem endsWord_cons (hc : isNameChar c = false ∧ c ≠ '.') : EndsWord (c :: rest) := by
  intro c' hc'
  cases hc'
  exact hc

theorem isDigit_of_isNameStart (hc : isNameStart c = true) : c.isDigit = false := by
  rw [Bool.eq_false_iff]
  intro hdigit
  simp only [isNameStart, Char.isAlpha, Char.isUpper, Char.isLower, Char.isDigit, Bool.or_eq_true,
    Bool.and_eq_true, decide_eq_true_eq, ge_iff_le, UInt32.le_iff_toNat_le] at hc hdigit
  rcases hc with (hc | hc) | rfl <;> simp at * <;> omega

/-- No blank begins a name or a number. -/
theorem isGap_eq_false (hc : isNameStart c = true ∨ c.isDigit = true) : isGap c = false := by
  rw [Bool.eq_false_iff]
  intro hgap
  simp only [isGap, Bool.or_eq_true, decide_eq_true_eq] at hgap
  rcases hgap with (((rfl | rfl) | rfl) | rfl) | rfl <;> rcases hc with hc | hc <;> cases hc

/-- A name is no part of a longer operator. -/
theorem head?_ne_of_isName (hname : isName word = true) (rest : List Char) :
    (word.toList ++ rest).head? ≠ some '=' := by
  obtain ⟨c, tail, htext, hc, -⟩ := isName_iff.mp hname
  rw [htext]
  intro heq
  cases heq
  cases hc

theorem Scans.name (h : Scans rest ts) (hname : isName word = true) (hrest : EndsWord rest) :
    Scans (word.toList ++ rest) (.identifier word :: ts) := by
  obtain ⟨c, tail, htext, hc, htail⟩ := isName_iff.mp hname
  have hpoint : c ≠ '.' := by
    rintro rfl
    cases hc
  have htoken : String.ofList (c :: tail) = word := by rw [← htext, String.ofList_toList]
  rw [htext]
  refine h.cons (isGap_eq_false (.inl hc)) ?_
  rw [scan, if_neg (by simp [isDigit_of_isNameStart hc, hpoint]), if_pos hc,
    takeWhile_run htail fun d hd => (hrest d hd).1]
  dsimp only
  rw [htoken]

theorem isName_of_scan (h : scan c rest = .ok (.identifier word, length)) : isName word = true := by
  unfold scan at h
  split at h
  · dsimp only at h
    split at h <;> cases h
  split at h
  · rename_i hc
    cases h
    refine isName_iff.mpr ⟨c, rest.takeWhile isNameChar, String.toList_ofList, hc, ?_⟩
    exact fun d hd => List.all_eq_true.mp List.all_takeWhile d hd
  repeat' split at h
  all_goals cases h

theorem isName_of_mem_lexemes (h : lexemes offset cs = .ok ls) (hl : l ∈ ls)
    (hname : l.token = .identifier word) : isName word = true := by
  obtain ⟨c, rest, length, hscan⟩ := exists_scan_of_mem_lexemes h hl
  rw [hname] at hscan
  exact isName_of_scan hscan

/-! ## Numbers -/

theorem exponentLength_eq_zero (hrest : EndsWord rest) : exponentLength rest = 0 := by
  cases rest with
  | nil => rfl
  | cons c rest =>
      have hc : ¬(c = 'e' ∨ c = 'E') := by
        rintro (rfl | rfl)
        · cases (hrest 'e' rfl).1
        · cases (hrest 'E' rfl).1
      unfold exponentLength
      exact if_neg fun h => hc h.1

theorem head?_ne_of_unsigned (hcs : Unsigned cs x) (rest : List Char) :
    (cs ++ rest).head? ≠ some '=' := by
  obtain ⟨c, tail, rfl, hc⟩ := hcs.head
  intro heq
  cases heq
  cases hc

theorem Scans.number (h : Scans rest ts) (hcs : Unsigned cs x) (hrest : EndsWord rest) :
    Scans (cs ++ rest) (.number x :: ts) := by
  obtain ⟨⟨c, tail, rfl, hc⟩, hchars, hreads⟩ := hcs
  have hrun : ∀ d ∈ c :: tail, isNumberChar d = true := by
    intro d hd
    simpa [isNumberChar] using hchars d hd
  have hstop : ∀ d ∈ rest.head?, isNumberChar d = false := by
    intro d hd
    obtain ⟨hname, hpoint⟩ := hrest d hd
    simp only [isNameChar, Char.isAlphanum, Bool.or_eq_false_iff] at hname
    simp [isNumberChar, hname.1.2, hpoint]
  have hlength : literalLength (c :: (tail ++ rest)) = tail.length + 1 := by
    rw [literalLength, ← List.cons_append, takeWhile_run hrun hstop, dropWhile_run hrun hstop,
      exponentLength_eq_zero hrest, List.length_cons, Nat.add_zero]
  refine h.cons (isGap_eq_false (.inr hc)) ?_
  rw [scan, if_pos (.inl hc)]
  dsimp only
  rw [hlength, Nat.add_sub_cancel, List.take_left, hreads]

end Telemetry.Equation
