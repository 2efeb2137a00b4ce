import Telemetry.Json.Printer
import Telemetry.Json.Written

/-!
# Quoted strings

A text within quotes is read back as it was, whatever characters it has.
-/

namespace Telemetry

open Json Written

/-- How a character that stands in quotes is read: control characters without a letter of their own
are written as units. -/
def Written.partOf (c : Char) : Part :=
  if c.toNat < 0x20 ∧ c ∉ ['\x08', '\x0c', '\n', '\r', '\t'] then .unit c.toNat else .char c

theorem unit?_hexDigits :
    ∀ n < 0x20, unit? '0' '0' (hexDigit (n / 16)) (hexDigit (n % 16)) = some n := by
  decide

theorem takeString_plain {c : Char} (hquote : c ≠ '"') (hslash : c ≠ '\\') (hc : ¬c.toNat < 0x20)
    (cs : List Char) : takeString (c :: cs) = after (.char c) (takeString cs) := by
  rw [takeString.eq_def]
  split
  · rename_i heq
    cases heq
  · rename_i heq
    exact absurd (List.cons.inj heq).1 hquote
  · rename_i heq
    exact absurd (List.cons.inj heq).1 hslash
  · rename_i heq
    exact absurd (List.cons.inj heq).1 hslash
  · rename_i heq
    cases heq
    rw [if_neg (by simp [hc, hslash])]

theorem takeString_escape (c : Char) (cs : List Char) :
    takeString (escape c ++ cs) = after (partOf c) (takeString cs) := by
  unfold escape
  split
  case h_8 hquote hslash hb hf hn hr ht =>
    split
    · rename_i hcontrol
      have hpart : partOf c = .unit c.toNat := by
        refine if_pos ⟨hcontrol, ?_⟩
        simp only [List.mem_cons, List.not_mem_nil, or_false, not_or]
        exact ⟨hb, hf, hn, hr, ht⟩
      show (unit? '0' '0' _ _).bind (fun n => after (.unit n) (takeString cs)) = _
      rw [unit?_hexDigits _ hcontrol, hpart]
      rfl
    · rename_i hcontrol
      rw [partOf, if_neg fun h => hcontrol h.1]
      exact takeString_plain hquote hslash hcontrol cs
  all_goals rfl

theorem takeString_quoted (cs rest : List Char) :
    takeString (cs.flatMap escape ++ '"' :: rest) = some (cs.map partOf, rest) := by
  induction cs with
  | nil => rfl
  | cons c cs ih =>
      rw [List.flatMap_cons, List.append_assoc, takeString_escape, ih]
      rfl

theorem joinParts?_map (cs : List Char) : joinParts? (cs.map partOf) = some cs := by
  induction cs with
  | nil => rfl
  | cons c cs ih =>
      rw [List.map_cons, partOf]
      split
      · rename_i hcontrol
        rw [joinParts?.eq_def]
        dsimp only
        rw [if_pos (Or.inl (by omega)), ih, Char.ofNat_toNat]
        rfl
      · rw [joinParts?, ih]
        rfl

/-- **A quoted text is the token of the text**, whatever follows it. -/
theorem takeToken_quoted [NumeralReader] (s : String) (rest : List Char) :
    takeToken (quoted s ++ rest) = some (.string (some s), rest) := by
  have hquoted : quoted s ++ rest = '"' :: (s.toList.flatMap escape ++ '"' :: rest) := by
    simp [quoted]
  rw [hquoted]
  show (takeString _).map _ = _
  rw [takeString_quoted]
  show some (Token.string ((joinParts? _).map String.ofList), rest) = _
  rw [joinParts?_map, Option.map_some, String.ofList_toList]

end Telemetry
