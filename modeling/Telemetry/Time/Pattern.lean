import Telemetry.Text.Blank
import Telemetry.Time.Fields

/-!
# Date and time patterns

A pattern is a text with specifiers: a percent sign, an optional padding mark, and a letter. It is
read into items, and the items read fields from a text. Blanks of a pattern match any blanks, also
none, and a number may have blanks in front.
-/

namespace Telemetry.TimePattern

/-- A field that is read as a number of at most so many digits. -/
structure NumberItem where
  width : Option Nat
  signed : Bool
  set? : Fields → Int → Option Fields

inductive Item
  | literal (s : List Char)
  | blank
  | number (n : NumberItem)
  | monthName (long : Bool)
  | weekdayName (long : Bool)
  | half
  /-- A point and digits, if there is a point; a count of digits is exact. -/
  | fraction (digits : Option Nat)
  /-- Digits without a point. -/
  | fractionDigits (digits : Nat)
  | zoneName
  | zoneOffset (permissive : Bool)
  | standard

/-! ## Items of a pattern -/

namespace Item

open Fields in
/-- The number that a letter stands for. -/
def number? : Char → Option NumberItem
  | 'Y' => some ⟨some 4, true, Setters.year⟩
  | 'C' => some ⟨some 2, false, Setters.century⟩
  | 'y' => some ⟨some 2, false, Setters.yearOfCentury⟩
  | 'G' => some ⟨some 4, true, Setters.isoYear⟩
  | 'g' => some ⟨some 2, false, Setters.isoYearOfCentury⟩
  | 'q' => some ⟨some 1, false, Setters.quarter⟩
  | 'm' => some ⟨some 2, false, Setters.month⟩
  | 'd' | 'e' => some ⟨some 2, false, Setters.day⟩
  | 'U' => some ⟨some 2, false, Setters.weekFromSunday⟩
  | 'W' => some ⟨some 2, false, Setters.weekFromMonday⟩
  | 'V' => some ⟨some 2, false, Setters.isoWeek⟩
  | 'w' => some ⟨some 1, false, Setters.daysFromSunday⟩
  | 'u' => some ⟨some 1, false, Setters.numberFromMonday⟩
  | 'j' => some ⟨some 3, false, Setters.ordinal⟩
  | 'H' | 'k' => some ⟨some 2, false, Setters.hour⟩
  | 'I' | 'l' => some ⟨some 2, false, Setters.hour12⟩
  | 'M' => some ⟨some 2, false, Setters.minute⟩
  | 'S' => some ⟨some 2, false, Setters.second⟩
  | 'f' => some ⟨some 9, false, Setters.nanos⟩
  | 's' => some ⟨none, false, Setters.timestamp⟩
  | _ => none

def numbers (letters : List Char) (between : Item) : List Item :=
  ((letters.filterMap number?).map .number).intersperse between

def mark (c : Char) : Item := .literal [c]

/-- The items that a letter stands for, other than a single number. -/
def group? : Char → Option (List Item)
  | 'A' => some [.weekdayName true]
  | 'a' => some [.weekdayName false]
  | 'B' => some [.monthName true]
  | 'b' | 'h' => some [.monthName false]
  | 'P' | 'p' => some [.half]
  | 'D' | 'x' => some (numbers ['m', 'd', 'y'] (mark '/'))
  | 'F' => some (numbers ['Y', 'm', 'd'] (mark '-'))
  | 'R' => some (numbers ['H', 'M'] (mark ':'))
  | 'T' | 'X' => some (numbers ['H', 'M', 'S'] (mark ':'))
  | 'r' => some (numbers ['I', 'M', 'S'] (mark ':') ++ [.blank, .half])
  | 'c' => some ([.weekdayName false, .blank, .monthName false, .blank] ++ numbers ['d'] .blank ++
      [.blank] ++ numbers ['H', 'M', 'S'] (mark ':') ++ [.blank] ++ numbers ['Y'] .blank)
  | 'v' => some (numbers ['e'] .blank ++ [mark '-', .monthName false, mark '-'] ++
      numbers ['Y'] .blank)
  | 'n' | 't' => some [.blank]
  | 'Z' => some [.zoneName]
  | 'z' => some [.zoneOffset false]
  | '+' => some [.standard]
  | '%' => some [mark '%']
  | _ => none

/-- What follows a percent sign. -/
def specifier? : List Char → Option (List Item × List Char)
  | '-' :: c :: rest | '0' :: c :: rest | '_' :: c :: rest =>
    (number? c).map fun n => ([.number n], rest)
  | '#' :: 'z' :: rest => some ([.zoneOffset true], rest)
  | ':' :: ':' :: ':' :: 'z' :: rest | ':' :: ':' :: 'z' :: rest | ':' :: 'z' :: rest =>
    some ([.zoneOffset false], rest)
  | '.' :: 'f' :: rest => some ([.fraction none], rest)
  | '.' :: '3' :: 'f' :: rest => some ([.fraction (some 3)], rest)
  | '.' :: '6' :: 'f' :: rest => some ([.fraction (some 6)], rest)
  | '.' :: '9' :: 'f' :: rest => some ([.fraction (some 9)], rest)
  | '3' :: 'f' :: rest => some ([.fractionDigits 3], rest)
  | '6' :: 'f' :: rest => some ([.fractionDigits 6], rest)
  | '9' :: 'f' :: rest => some ([.fractionDigits 9], rest)
  | c :: rest =>
    match number? c with
    | some n => some ([.number n], rest)
    | none => (group? c).map (·, rest)
  | [] => none

theorem specifier_length {cs : List Char} {items : List Item} {rest : List Char}
    (h : specifier? cs = some (items, rest)) : rest.length < cs.length := by
  revert h
  fun_cases specifier? cs <;> simp +contextual [Option.map_eq_some_iff] <;> intros <;> omega

end Item

/-- The items of a pattern, unless a percent sign begins no specifier. -/
def items? (cs : List Char) : Option (List Item) :=
  match cs with
  | [] => some []
  | '%' :: rest =>
    match h : Item.specifier? rest with
    | none => none
    | some (items, rest') =>
      have := Item.specifier_length h
      (items? rest').map (items ++ ·)
  | c :: rest =>
    (items? rest).map ((if Text.isBlank c then .blank else Item.mark c) :: ·)
termination_by cs.length

/-! ## Reading fields

Every reader gives what it read and the rest of the text.
-/

def dropBlanks (cs : List Char) : List Char := cs.dropWhile Text.isBlank

/-- At least `least` and at most `most` digits, whose number fits 64 bits with a sign. -/
def takeDigits (least : Nat) (most : Option Nat) (cs : List Char) : Option (Int × List Char) :=
  let run := cs.takeWhile Char.isDigit
  let run := match most with
    | some m => run.take m
    | none => run
  let n := run.foldl (fun n c => 10 * n + (c.toNat - '0'.toNat)) 0
  if least ≤ run.length ∧ n ≤ greatestOf 63 then some (n, cs.drop run.length) else none

def takeLiteral (wanted cs : List Char) : Option (List Char) :=
  if wanted.isPrefixOf cs then some (cs.drop wanted.length) else none

/-- The same in any case of ASCII letters. -/
def takeWord (wanted : String) (cs : List Char) : Option (List Char) :=
  if wanted.toList.isPrefixOf (cs.map Char.toLower) then some (cs.drop wanted.length) else none

def NumberItem.read (n : NumberItem) (f : Fields) (cs : List Char) :
    Option (Fields × List Char) := do
  let (value, rest) ← match n.signed, dropBlanks cs with
    | true, '-' :: rest => (takeDigits 1 none rest).map fun (v, rest) => (-v, rest)
    | true, '+' :: rest => takeDigits 1 none rest
    | _, cs => takeDigits 1 n.width cs
  return (← n.set? f value, rest)

/-- The names of months and weekdays: three letters, and the letters that may follow. -/
def months : List (String × String) := [
  ("jan", "uary"), ("feb", "ruary"), ("mar", "ch"), ("apr", "il"), ("may", ""), ("jun", "e"),
  ("jul", "y"), ("aug", "ust"), ("sep", "tember"), ("oct", "ober"), ("nov", "ember"),
  ("dec", "ember")]

def weekdays : List (String × String) := [
  ("mon", "day"), ("tue", "sday"), ("wed", "nesday"), ("thu", "rsday"), ("fri", "day"),
  ("sat", "urday"), ("sun", "day")]

/-- The place of a name in a table. The letters after the third are taken only when `long`. -/
def takeName (table : List (String × String)) (long : Bool) (cs : List Char) :
    Option (Nat × List Char) :=
  (table.zipIdx.findSome? fun (entry, i) =>
    (takeWord entry.1 cs).map fun rest => (i, entry.2, rest)).map fun (i, more, rest) =>
      (i, if long then (takeWord more rest).getD rest else rest)

/-- Digits of a fraction, in nanoseconds; digits after the ninth count for nothing. -/
def takeFraction (cs : List Char) : Option (Int × List Char) :=
  (takeDigits 1 (some 9) cs).map fun (n, rest) =>
    (n * pow10 (9 - (cs.length - rest.length)), rest.dropWhile Char.isDigit)

def takeFractionOf (count : Nat) (cs : List Char) : Option (Int × List Char) :=
  (takeDigits count (some count) cs).map fun (n, rest) => (n * pow10 (9 - count), rest)

/-- How an offset may be written. -/
structure OffsetStyle where
  /-- What stands between hours and minutes. -/
  separator : List Char → Option (List Char)
  allowZulu : Bool
  allowNoMinutes : Bool

def dropColons (cs : List Char) : List Char := cs.dropWhile fun c => c = ':' || Text.isBlank c

/-- Two digits, or `none` within `some` if there are no two bytes left to hold them. -/
def twoDigits? (cs : List Char) : Option (Option (Nat × Nat)) :=
  match cs with
  | a :: b :: _ =>
    if a.isDigit && b.isDigit then some (some (a.toNat - '0'.toNat, b.toNat - '0'.toNat)) else none
  | [c] => if c.utf8Size = 1 then some none else none
  | [] => some none

/-- Seconds to the east of universal time. -/
def takeOffset (style : OffsetStyle) (cs : List Char) : Option (Int × List Char) := do
  match cs with
  | 'Z' :: rest | 'z' :: rest => if style.allowZulu then some (0, rest) else none
  | sign :: rest =>
    if sign ≠ '+' ∧ sign ≠ '-' ∧ sign ≠ '−' then none
    else
      let (h, h') ← (← twoDigits? rest)
      let rest ← style.separator (rest.drop 2)
      let minutes ← match ← twoDigits? rest with
        | some (m, m') => if m < 6 then some (10 * m + m') else none
        | none => if style.allowNoMinutes && rest.isEmpty then some 0 else none
      let seconds : Int := (10 * h + h') * 3600 + minutes * 60
      some (if sign = '+' then seconds else -seconds, rest.drop 2)
  | [] => none

def looseOffset (permissive : Bool) : OffsetStyle :=
  ⟨fun cs => some (dropColons cs), permissive, permissive⟩

/-- Fields that numbers between marks stand for, with blanks allowed before the marks. -/
def takeSpaced (f : Fields) (cs : List Char) : List (Char × Char) →
    Option (Fields × List Char)
  | [] => some (f, cs)
  | (mark, letter) :: more => do
    let rest ← takeLiteral [mark] (dropBlanks cs)
    let (f, rest) ← (← Item.number? letter).read f rest
    takeSpaced f rest more

/-- A fraction of a second, if there is a point. -/
def takeOptionalFraction (read : List Char → Option (Int × List Char)) (f : Fields)
    (cs : List Char) : Option (Fields × List Char) := do
  match cs with
  | '.' :: rest =>
    let (n, rest) ← read rest
    return (← Fields.Setters.nanos f n, rest)
  | cs => return (f, cs)

/-- The standard form of a date and time with some freedom: numbers need not be padded, blanks
may stand between the parts, and `UTC` may stand for the offset. -/
def takeStandard (f : Fields) (cs : List Char) : Option (Fields × List Char) := do
  let (f, rest) ← (← Item.number? 'Y').read f cs
  let (f, rest) ← takeSpaced f rest [('-', 'm'), ('-', 'd')]
  match rest with
  | [] => none
  | t :: rest =>
    if t ≠ 'T' ∧ t ≠ 't' ∧ t ≠ ' ' then none
    else
      let (f, rest) ← (← Item.number? 'H').read f rest
      let (f, rest) ← takeSpaced f rest [(':', 'M'), (':', 'S')]
      let (f, rest) ← takeOptionalFraction takeFraction f rest
      let rest := dropBlanks rest
      match takeWord "utc" rest with
      | some rest => return (← Fields.Setters.offset f 0, rest)
      | none =>
        let (n, rest) ← takeOffset ⟨fun cs => some (dropColons cs), true, false⟩ rest
        return (← Fields.Setters.offset f n, rest)

def Item.read (f : Fields) (cs : List Char) : Item → Option (Fields × List Char)
  | .literal wanted => (takeLiteral wanted cs).map (f, ·)
  | .blank => some (f, dropBlanks cs)
  | .number n => n.read f cs
  | .monthName long => do
    let (i, rest) ← takeName months long cs
    return (← Fields.Setters.month f (i + 1), rest)
  | .weekdayName long => do
    let (i, rest) ← takeName weekdays long cs
    return (← Fields.Setters.weekday f i, rest)
  | .half =>
    match takeWord "am" cs, takeWord "pm" cs with
    | some rest, _ => (Fields.Setters.half f 0).map (·, rest)
    | _, some rest => (Fields.Setters.half f 1).map (·, rest)
    | _, _ => none
  | .fraction none => takeOptionalFraction takeFraction f cs
  | .fraction (some count) => takeOptionalFraction (takeFractionOf count) f cs
  | .fractionDigits count => do
    let (n, rest) ← takeFractionOf count cs
    return (← Fields.Setters.nanos f n, rest)
  | .zoneName => some (f, cs.dropWhile fun c => !Text.isBlank c)
  | .zoneOffset permissive => do
    let (n, rest) ← takeOffset (looseOffset permissive) (dropBlanks cs)
    return (← Fields.Setters.offset f n, rest)
  | .standard => takeStandard f cs

/-- The fields that the whole of a text gives. -/
def readAll (items : List Item) (cs : List Char) : Option Fields := do
  let (f, rest) ← items.foldlM (fun (f, cs) item => item.read f cs) (Fields.empty, cs)
  if rest.isEmpty then some f else none

/-- The instant that a text gives by a pattern; a time without an offset is universal. -/
def read? (items : List Item) (s : String) : Option Instant :=
  (readAll items s.toList).bind fun f => f.instant?.or f.universal?

end Telemetry.TimePattern
