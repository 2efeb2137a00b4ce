import Telemetry.Proofs.Definition.Storable
import Telemetry.Proofs.Json.Numbers
import Telemetry.Proofs.Time.Stamp
import Telemetry.State.Store

/-!
# Stored states are read back

The bytes of a state are read as the state exactly if its numbers are read back from their own texts
and its instants from their stamps (`Store.held_put_iff`), whatever doubles numerals are read as.
Where the nearest doubles are read, a state with finite numbers can be read; with a leap second in
the middle of a minute it is another then (`Stores.IsStorable.exists_ofBytes?`).

A state is followed through its document: what is read of the document is said by `asWritten`, first
for values, then for samples, variables and whole states.
-/

namespace Telemetry

/-! ## Values -/

section Values

variable [Written.NumeralReader]

def Value.IsReadBack : Value → Prop
  | .numeric x => (Number.double x).IsReadBack
  | .boolean _ | .exception _ | .absent => True

theorem Value.ofWritten?_numeric (x : Float) :
    Value.ofWritten? (numeric x).toJson.asWritten =
      (Written.double? (Number.double x).asWritten).map numeric := by
  have hasWritten : (Value.numeric x).toJson.asWritten =
      .object [(some "type", .string (some "numeric")),
        (some "value", (Number.double x).asWritten)] := by
    simp [Value.toJson, Json.asWritten, Json.membersAsWritten]
  rw [hasWritten]
  rfl

theorem Value.ofWritten?_eq_self (v : Value) :
    ofWritten? v.toJson.asWritten = some v ↔ v.IsReadBack := by
  cases v with
  | numeric x =>
      rw [IsReadBack, ← Number.double?_asWritten_eq_self, ofWritten?_numeric]
      simp
  | boolean b => exact iff_of_true rfl trivial
  | exception m => exact iff_of_true rfl trivial
  | absent => exact iff_of_true rfl trivial

theorem Value.IsReadBack.isFinite {v : Value} (h : v.IsReadBack) : v.isFinite = true := by
  cases v with
  | numeric x => exact Number.IsReadBack.isFinite h
  | boolean | exception | absent => rfl

end Values

/-- Where the nearest doubles are read, a value is read if it is finite. -/
theorem Value.ofWritten?_of_isFinite {v : Value} (h : v.isFinite = true) :
    ofWritten? v.toJson.asWritten = some v := by
  rw [ofWritten?_eq_self]
  cases v with
  | numeric x => exact Number.isReadBack_double.mpr h
  | boolean | exception | absent => trivial

/-! ## Samples -/

theorem Written.fields?_pair {a b : String} (h : a ≠ b) (v w : Written) :
    fields? [a, b] (.object [(some a, v), (some b, w)]) = some [some v, some w] := by
  simp [fields?, onlyMember, h, h.symm]

section Samples

variable [Written.NumeralReader]

theorem Sample.ofWritten?_asWritten (s : Sample) :
    Sample.ofWritten? s.toJson.asWritten = (Instant.ofStored? s.timestamp.stored).bind fun t =>
      (Value.ofWritten? s.value.toJson.asWritten).map (Sample.mk t) := by
  have hasWritten : s.toJson.asWritten = .object
      [(some "timestamp", .string (some s.timestamp.stored)),
        (some "value", s.value.toJson.asWritten)] := by
    simp [Sample.toJson, Json.asWritten, Json.membersAsWritten]
  rw [hasWritten, Sample.ofWritten?, Written.fields?_pair (by decide)]
  simp only [Option.bind_eq_bind, Option.bind_some, Instant.ofWritten?, Written.text?]
  refine congrArg _ (funext fun t => ?_)
  cases Value.ofWritten? s.value.toJson.asWritten <;> rfl

theorem Sample.ofWritten?_eq_self {s : Sample} : ofWritten? s.toJson.asWritten = some s ↔
    s.value.IsReadBack ∧ Instant.ofStored? s.timestamp.stored = some s.timestamp := by
  rw [ofWritten?_asWritten, Option.bind_eq_some_iff, ← Value.ofWritten?_eq_self]
  constructor
  · rintro ⟨t, ht, h⟩
    obtain ⟨v, hv, heq⟩ := Option.map_eq_some_iff.mp h
    subst heq
    exact ⟨hv, ht⟩
  · rintro ⟨hv, ht⟩
    exact ⟨s.timestamp, ht, by rw [hv]; rfl⟩

end Samples

theorem Sample.ofWritten?_of_isStorable {s : Sample} (h : s.IsStorable) :
    ofWritten? s.toJson.asWritten = some ⟨s.timestamp.named, s.value⟩ := by
  rw [ofWritten?_asWritten, Instant.ofStored?_stored h.inCalendar, Option.bind_some,
    Value.ofWritten?_of_isFinite h.isFinite]
  rfl

/-! ## States of variables -/

namespace VariableState

variable [Written.NumeralReader]

theorem ofWritten?_last (s : Sample) : ofWritten? (last s).toJson.asWritten =
    (Sample.ofWritten? s.toJson.asWritten).map .last := by
  rw [toJson, Json.asWritten, Json.membersAsWritten, Json.membersAsWritten, ofWritten?]

theorem ofWritten?_series (m : NameMap Sample) : ofWritten? (series m).toJson.asWritten =
    (Written.map? Sample.ofWritten? (Json.ofMap Sample.toJson m).asWritten).map .series := by
  rw [toJson, Json.asWritten, Json.membersAsWritten, Json.membersAsWritten, ofWritten?]

theorem ofWritten?_eq_self (v : VariableState) : ofWritten? v.toJson.asWritten = some v ↔
    ∀ s ∈ v.samples, Sample.ofWritten? s.toJson.asWritten = some s := by
  cases v with
  | last s =>
      rw [ofWritten?_last]
      simp [samples]
  | series m =>
      rw [ofWritten?_series, samples, ← Json.map?_ofMap_eq_self]
      simp

theorem isSome_ofWritten? (v : VariableState) :
    (ofWritten? v.toJson.asWritten).isSome = true ↔
      ∀ s ∈ v.samples, (Sample.ofWritten? s.toJson.asWritten).isSome = true := by
  cases v with
  | last s =>
      rw [ofWritten?_last]
      simp [samples]
  | series m =>
      rw [ofWritten?_series, Option.isSome_map]
      exact Json.isSome_map?_ofMap

theorem exists_of_mem_samples {v v' : VariableState} {x : Sample}
    (h : ofWritten? v.toJson.asWritten = some v') (hx : x ∈ v'.samples) :
    ∃ y ∈ v.samples, Sample.ofWritten? y.toJson.asWritten = some x := by
  cases v with
  | last s =>
      rw [ofWritten?_last] at h
      obtain ⟨t, ht, rfl⟩ := Option.map_eq_some_iff.mp h
      obtain rfl := List.mem_singleton.mp hx
      exact ⟨s, List.mem_singleton_self s, ht⟩
  | series m =>
      rw [ofWritten?_series] at h
      obtain ⟨m', hm', rfl⟩ := Option.map_eq_some_iff.mp h
      exact Json.exists_of_mem_map? hm' hx

end VariableState

/-! ## Stores -/

namespace Stores

section Texts

variable [Written.NumeralReader]

/-- All numbers of a stored state are doubles. -/
theorem reads_numbers (s : Stores) : ∀ n ∈ s.toJson.numbers, n.Reads := by
  have hvalue : ∀ (v : Value) n, n ∈ v.toJson.numbers → n.Reads := by
    intro v n hn
    cases v <;> simp [Value.toJson, Json.numbers, Json.numbersOfMembers] at hn
    exact hn ▸ Number.reads_double _
  have hsample : ∀ (x : Sample) n, n ∈ x.toJson.numbers → n.Reads := by
    intro x n hn
    simp only [Sample.toJson, Json.numbers, Json.numbersOfMembers, List.append_nil,
      List.nil_append] at hn
    exact hvalue x.value n hn
  intro n hn
  obtain ⟨v, -, hn⟩ := Json.mem_numbers_ofMap.mp hn
  cases v with
  | last x =>
      simp only [VariableState.toJson, Json.numbers, Json.numbersOfMembers, List.append_nil] at hn
      exact hsample x n hn
  | series m =>
      simp only [VariableState.toJson, Json.numbers, Json.numbersOfMembers, List.append_nil] at hn
      obtain ⟨x, -, hn⟩ := Json.mem_numbers_ofMap.mp hn
      exact hsample x n hn

theorem ofText?_text (s : Stores) : ofText? s.text = ofWritten? s.toJson.asWritten := by
  rw [ofText?, text, Json.read?_compact _ s.reads_numbers, Option.bind_some]

theorem ofBytes?_bytes (s : Stores) : ofBytes? s.bytes = ofWritten? s.toJson.asWritten := by
  have hdecode : String.fromUTF8? s.text.toUTF8 = some s.text := dif_pos s.text.isValidUTF8
  rw [ofBytes?, bytes, hdecode, Option.bind_some, ofText?_text]

theorem ofBytes?_bytes_eq_self (s : Stores) : ofBytes? s.bytes = some s ↔
    ∀ x ∈ s.samples, Sample.ofWritten? x.toJson.asWritten = some x := by
  rw [ofBytes?_bytes]
  refine Json.map?_ofMap_eq_self.trans ?_
  simp only [VariableState.ofWritten?_eq_self, samples, List.mem_flatMap]
  constructor
  · rintro h x ⟨v, hv, hx⟩
    exact h v hv x hx
  · intro h v hv x hx
    exact h x ⟨v, hv, hx⟩

theorem isSome_ofBytes?_bytes (s : Stores) : (ofBytes? s.bytes).isSome = true ↔
    ∀ x ∈ s.samples, (Sample.ofWritten? x.toJson.asWritten).isSome = true := by
  rw [ofBytes?_bytes]
  refine Json.isSome_map?_ofMap.trans ?_
  simp only [VariableState.isSome_ofWritten?, samples, List.mem_flatMap]
  constructor
  · rintro h x ⟨v, hv, hx⟩
    exact h v hv x hx
  · intro h v hv x hx
    exact h x ⟨v, hv, hx⟩

end Texts

/-- Storable stores are read, and what is read of them is storable. -/
theorem IsStorable.exists_ofBytes? {s : Stores} (h : s.IsStorable) :
    ∃ s', ofBytes? s.bytes = some s' ∧ s'.IsStorable := by
  have hsome : (ofBytes? s.bytes).isSome = true := by
    rw [isSome_ofBytes?_bytes]
    intro x hx
    rw [Sample.ofWritten?_of_isStorable (h x hx)]
    rfl
  obtain ⟨s', hs'⟩ := Option.isSome_iff_exists.mp hsome
  refine ⟨s', hs', fun x hx => ?_⟩
  obtain ⟨v', hv', hx⟩ := List.mem_flatMap.mp hx
  rw [ofBytes?_bytes] at hs'
  obtain ⟨v, hv, hread⟩ := Json.exists_of_mem_map? hs' hv'
  obtain ⟨y, hy, heq⟩ := VariableState.exists_of_mem_samples hread hx
  have hy' := h y (List.mem_flatMap.mpr ⟨v, hv, hy⟩)
  rw [Sample.ofWritten?_of_isStorable hy', Option.some.injEq] at heq
  subst heq
  exact ⟨hy'.isFinite, hy'.inCalendar.named⟩

end Stores

/-! ## Stores of states -/

namespace Store

variable [Written.NumeralReader]

theorem held_putBytes_self (s : Store) (now : Instant) (key : StateKey) (bytes : ByteArray) :
    (s.putBytes now key bytes).held key =
      match Stores.ofBytes? bytes with
      | some stores => .state stores
      | none => .unreadable := by
  have hstored : (s.putBytes now key bytes)[key]? = some ⟨bytes, now⟩ :=
    Std.HashMap.getElem?_insert_self
  cases hbytes : Stores.ofBytes? bytes <;> simp [held, hstored, hbytes]

/-- **States are read back as they were put.** Of any variables, with last samples or series, the
bytes are read as the state that they were written of, and so the store then has this state for the
key, if and only if the number of each sample is read back from its own text, and its instant from
its own stamp. That is so for all instants of the calendar but leap seconds in the middle of a
minute; and for all finite numbers and no others, if every finite double is read back from its
text. -/
theorem held_put_iff (stores : Stores) :
    (Stores.ofBytes? stores.bytes = some stores ↔ ∀ x ∈ stores.samples,
      x.value.IsReadBack ∧ Instant.ofStored? x.timestamp.stored = some x.timestamp) ∧
    (∀ (s : Store) (now : Instant) (key : StateKey),
      (s.put now key stores).held key = .state stores ↔ ∀ x ∈ stores.samples,
        x.value.IsReadBack ∧ Instant.ofStored? x.timestamp.stored = some x.timestamp) ∧
    (∀ i : Instant, Instant.ofStored? i.stored = some i ↔
      i.InCalendar ∧ (i.isLeap → i.seconds % 60 = 59)) ∧
    ((∀ x : Float, x.isFinite = true → (Number.double x).IsReadBack) →
      ∀ v : Value, v.IsReadBack ↔ v.isFinite = true) := by
  have hbytes : Stores.ofBytes? stores.bytes = some stores ↔ ∀ x ∈ stores.samples,
      x.value.IsReadBack ∧ Instant.ofStored? x.timestamp.stored = some x.timestamp := by
    rw [Stores.ofBytes?_bytes_eq_self]
    simp only [Sample.ofWritten?_eq_self]
  refine ⟨hbytes, fun s now key => ?_, fun i => Instant.ofStored?_stored_eq_self, fun hread v =>
    ⟨Value.IsReadBack.isFinite, fun hv => ?_⟩⟩
  · rw [← hbytes, put, held_putBytes_self]
    cases Stores.ofBytes? stores.bytes <;> simp
  · cases v with
    | numeric x => exact hread x hv
    | boolean | exception | absent => trivial

end Store

end Telemetry
