import Telemetry.Equation.Lexer

/-!
# Places in a text

A text is a list of characters and an array of bytes, where a character takes one byte or several.
`At` relates the two: the characters that begin at a byte. Bytes at which characters begin, and the
end of the text, are the ones at which a text may be cut (`At.boundary`, `At.slice?`).

A test that passes no character but those of one byte can be made on bytes
(`IsAscii.leadByte`), since all bytes of other characters are greater.
-/

namespace Telemetry.Equation

variable {text : String} {i : Nat} {c : Char} {cs before mid rest : List Char} {p : Char → Bool}

/-! ## Widths -/

theorem width_append (cs ds : List Char) : width (cs ++ ds) = width cs + width ds := by
  induction cs with
  | nil => rw [List.nil_append, width, Nat.zero_add]
  | cons c cs ih => rw [List.cons_append, width, width, ih, Nat.add_assoc]

theorem width_singleton (c : Char) : width [c] = c.utf8Size := by
  rw [width, width, Nat.add_zero]

theorem width_pos (h : cs ≠ []) : 0 < width cs := by
  cases cs with
  | nil => exact absurd rfl h
  | cons c cs => exact Nat.lt_of_lt_of_le c.utf8Size_pos (Nat.le_add_right _ _)

theorem utf8ByteSize_ofList (cs : List Char) : (String.ofList cs).utf8ByteSize = width cs := by
  induction cs with
  | nil => rfl
  | cons c cs ih =>
      rw [← List.singleton_append, String.ofList_append, String.utf8ByteSize_append, ih]
      show (String.singleton c).utf8ByteSize + width cs = _
      rw [String.utf8ByteSize_singleton]
      rfl

theorem width_toList (text : String) : width text.toList = text.utf8ByteSize := by
  rw [← utf8ByteSize_ofList, String.ofList_toList]

/-! ## Bytes -/

def encoding (cs : List Char) : List UInt8 := cs.flatMap String.utf8EncodeChar

theorem length_encoding (cs : List Char) : (encoding cs).length = width cs := by
  induction cs with
  | nil => rfl
  | cons c cs ih =>
      rw [encoding, List.flatMap_cons, List.length_append, String.length_utf8EncodeChar, width]
      exact congrArg _ ih

def byte? (text : String) (i : Nat) : Option UInt8 := text.toByteArray.data[i]?

theorem byte?_eq (text : String) (i : Nat) : byte? text i = (encoding text.toList)[i]? := by
  have hbytes : text.toByteArray.data.toList = encoding text.toList := by
    rw [← String.ofList_toList (s := text)]
    simp [List.utf8Encode, encoding, -String.ofList_toList]
  rw [byte?, ← hbytes, Array.getElem?_toList]

theorem toNat_ofNat_byte (b : UInt8) : (Char.ofNat b.toNat).toNat = b.toNat := by
  have hvalid : b.toNat.isValidChar := .inl (Nat.lt_trans b.toNat_lt (by decide))
  rw [Char.ofNat, dif_pos hvalid]
  rfl

def IsAscii (p : Char → Bool) : Prop := ∀ c, p c = true → c.toNat < 128

theorem utf8Size_of_lt (h : c.toNat < 128) : c.utf8Size = 1 := by
  rw [Char.utf8Size, if_pos]
  show c.toNat ≤ 127
  exact Nat.le_of_lt_succ h

theorem leadByte_of_lt (h : c.toNat < 128) : leadByte c = c := by
  rw [leadByte, String.utf8EncodeChar_eq_singleton (utf8Size_of_lt h)]
  have hbyte : c.val.toUInt8.toNat = c.toNat := by
    rw [UInt32.toNat_toUInt8]
    exact Nat.mod_eq_of_lt (Nat.lt_trans h (by decide))
  show Char.ofNat c.val.toUInt8.toNat = c
  rw [hbyte, Char.ofNat_toNat]

theorem le_toNat_ofNat {n : Nat} (hle : 128 ≤ n) (hlt : n < 256) :
    128 ≤ (UInt8.ofNat n).toNat := by
  rw [UInt8.toNat_ofNat']
  rwa [Nat.mod_eq_of_lt hlt]

theorem le_leadByte (h : 128 ≤ c.toNat) : 128 ≤ (leadByte c).toNat := by
  rw [leadByte, toNat_ofNat_byte]
  fun_cases String.utf8EncodeChar c with
  | case1 v hle => exact absurd h (Nat.not_le.mpr (Nat.lt_succ_of_le hle))
  | case2 | case3 | case4 =>
      -- the upper bits of a first byte say how many bytes follow
      apply le_toNat_ofNat
      · exact Nat.le_trans (by decide) (Nat.le_add_left _ _)
      · omega

theorem IsAscii.leadByte (hp : IsAscii p) (c : Char) : p (leadByte c) = p c := by
  rcases Nat.lt_or_ge c.toNat 128 with hlt | hge
  · rw [leadByte_of_lt hlt]
  · have hno : ∀ d : Char, 128 ≤ d.toNat → p d = false := by
      intro d hd
      rw [Bool.eq_false_iff]
      intro h
      exact absurd (hp d h) (Nat.not_lt.mpr hd)
    rw [hno c hge, hno _ (le_leadByte hge)]

theorem IsAscii.width (hp : IsAscii p) (h : ∀ c ∈ cs, p c = true) : width cs = cs.length := by
  induction cs with
  | nil => rfl
  | cons c cs ih =>
      rw [Equation.width, ih fun d hd => h d (List.mem_cons_of_mem _ hd),
        utf8Size_of_lt (hp c (h c List.mem_cons_self)), Nat.add_comm, List.length_cons]

/-! ### Tests of one byte -/

theorem isAscii_isGap : IsAscii isGap := by
  intro c h
  simp only [isGap, Bool.or_eq_true, decide_eq_true_eq] at h
  rcases h with (((rfl | rfl) | rfl) | rfl) | rfl <;> decide

theorem isAscii_isDigit : IsAscii Char.isDigit := by
  intro c h
  have hle : c.val ≤ '9'.val := of_decide_eq_true ((Bool.and_eq_true _ _).mp h).2
  exact Nat.lt_of_le_of_lt (UInt32.le_iff_toNat_le.mp hle) (by decide)

theorem isAscii_isAlpha : IsAscii Char.isAlpha := by
  intro c h
  rcases (Bool.or_eq_true _ _).mp h with h | h
  · have hle : c.val ≤ 'Z'.val := (of_decide_eq_true h).2
    exact Nat.lt_of_le_of_lt (UInt32.le_iff_toNat_le.mp hle) (by decide)
  · have hle : c.val ≤ 'z'.val := of_decide_eq_true ((Bool.and_eq_true _ _).mp h).2
    exact Nat.lt_of_le_of_lt (UInt32.le_iff_toNat_le.mp hle) (by decide)

theorem isAscii_eq {d : Char} (hd : d.toNat < 128) : IsAscii fun c => c = d := by
  intro c h
  rw [of_decide_eq_true h]
  exact hd

theorem IsAscii.or {q : Char → Bool} (hp : IsAscii p) (hq : IsAscii q) :
    IsAscii fun c => p c || q c := by
  intro c h
  rcases (Bool.or_eq_true _ _).mp h with h | h
  · exact hp c h
  · exact hq c h

theorem isAscii_isNameStart : IsAscii isNameStart := isAscii_isAlpha.or (isAscii_eq (by decide))

theorem isAscii_isNameChar : IsAscii isNameChar :=
  (isAscii_isAlpha.or isAscii_isDigit).or (isAscii_eq (by decide))

theorem isAscii_isNumberChar : IsAscii isNumberChar := isAscii_isDigit.or (isAscii_eq (by decide))

/-! ## Characters at a byte -/

/-- From byte `i` on, the text is `cs`. -/
def At (text : String) (i : Nat) (cs : List Char) : Prop :=
  ∃ before, text.toList = before ++ cs ∧ width before = i

theorem at_zero (text : String) : At text 0 text.toList := ⟨[], rfl, rfl⟩

theorem At.append (h : At text i (mid ++ rest)) : At text (i + width mid) rest := by
  obtain ⟨before, htext, rfl⟩ := h
  refine ⟨before ++ mid, ?_, width_append _ _⟩
  rw [htext, List.append_assoc]

theorem At.cons (h : At text i (c :: rest)) : At text (i + c.utf8Size) rest := by
  have hsplit : At text i ([c] ++ rest) := h
  rw [← width_singleton]
  exact hsplit.append

theorem At.cons_ascii (h : At text i (c :: rest)) (hc : c.toNat < 128) : At text (i + 1) rest := by
  rw [← utf8Size_of_lt hc]
  exact h.cons

theorem At.add_width (h : At text i cs) : i + width cs = text.utf8ByteSize := by
  obtain ⟨before, htext, rfl⟩ := h
  rw [← width_append, ← htext, width_toList]

theorem at_end (text : String) : At text text.utf8ByteSize [] :=
  ⟨text.toList, (List.append_nil _).symm, width_toList text⟩

def Boundary (text : String) (i : Nat) : Prop :=
  i ≤ text.utf8ByteSize ∧ String.Pos.Raw.IsValid text ⟨i⟩

theorem At.boundary (h : At text i cs) : Boundary text i := by
  refine ⟨?_, ?_⟩
  · rw [← h.add_width]
    exact Nat.le_add_right _ _
  · obtain ⟨before, htext, rfl⟩ := h
    refine String.Pos.Raw.isValid_iff_exists_append.mpr
      ⟨String.ofList before, String.ofList cs, ?_, ?_⟩
    · rw [← String.ofList_append, ← htext, String.ofList_toList]
    · rw [String.Pos.Raw.ext_iff]
      exact (utf8ByteSize_ofList before).symm

theorem At.byte?_eq (h : At text i cs) (j : Nat) : byte? text (i + j) = (encoding cs)[j]? := by
  obtain ⟨before, htext, rfl⟩ := h
  rw [Equation.byte?_eq, htext, encoding, List.flatMap_append, ← length_encoding, encoding,
    List.getElem?_append_right (Nat.le_add_right _ _), Nat.add_sub_cancel_left]
  rfl

/-! ## Slices -/

/-- The text between two bytes, unless the cut is inside of a character. -/
def slice? (text : String) (start stop : Nat) : Option String :=
  if h : start ≤ stop ∧ String.Pos.Raw.IsValid text ⟨start⟩ ∧
      String.Pos.Raw.IsValid text ⟨stop⟩ then
    some (text.extract (text.pos ⟨start⟩ h.2.1) (text.pos ⟨stop⟩ h.2.2))
  else none

theorem boundary_of_slice? {s : String} {start stop : Nat} (h : slice? text start stop = some s) :
    Boundary text start ∧ Boundary text stop := by
  unfold slice? at h
  split at h
  · rename_i hcut
    obtain ⟨-, hstart, hstop⟩ := hcut
    exact ⟨⟨hstart.le_utf8ByteSize, hstart⟩, hstop.le_utf8ByteSize, hstop⟩
  · cases h

theorem At.slice?_eq (h : At text i (mid ++ rest)) :
    slice? text i (i + width mid) = some (String.ofList mid) := by
  rw [slice?, dif_pos ⟨Nat.le_add_right _ _, h.boundary.2, h.append.boundary.2⟩]
  obtain ⟨before, htext, rfl⟩ := h
  refine congrArg some (String.toByteArray_inj.mp ?_)
  have hbytes : text.toByteArray =
      (String.ofList before).toByteArray ++ ((String.ofList mid).toByteArray ++
        (String.ofList rest).toByteArray) := by
    rw [← String.toByteArray_append, ← String.toByteArray_append, ← String.ofList_append,
      ← String.ofList_append, ← htext, String.ofList_toList]
  rw [String.toByteArray_extract, hbytes]
  show ByteArray.extract _ (width before + 0) (width before + width mid) = _
  rw [ByteArray.extract_append_size_add' (utf8ByteSize_ofList before).symm,
    ByteArray.extract_append_eq_left (utf8ByteSize_ofList mid).symm]

end Telemetry.Equation
