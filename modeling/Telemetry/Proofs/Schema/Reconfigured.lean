import Telemetry.Proofs.Configuration.Checked
import Telemetry.Proofs.Schema.Output

/-!
# Schemas that are configured again

A configuration that cannot read its sources, its time or its filter keeps the former ones
(`Schema.configure_eq_build`). Nothing comes of them while the configuration is in error, and a
configuration without error reads them all, so a schema does not tell what it was before
(`Schema.configured_forgets`).
-/

namespace Telemetry.Schema

variable {s t : Schema} {p : Properties}

theorem id_configured (id : String) (history : List Properties) :
    (configured id history).id = id := by
  induction history using List.reverseRecOn with
  | nil => rfl
  | append_singleton history p ih =>
      rw [configured_concat]
      exact ih

/-- What a configuration may keep of the former ones. -/
theorem configure_eq_build (s : Schema) (p : Properties) :
    (s.configure p).2 = { build s.id p with
      sources := (Sections.ofProperties p).sources.toOption.getD s.sources
      timestamp := (Sections.ofProperties p).timestamp.toOption.getD s.timestamp
      filter := (Sections.ofProperties p).filter.toOption.getD s.filter } := rfl

/-- A configuration without error keeps nothing. -/
theorem configure_of_isOk (h : (s.configure p).1 = .ok ()) :
    (s.configure p).2 = build s.id p := by
  have herrors := errors_eq_nil (show (s.configure p).1.isOk = true by rw [h]; rfl)
  simp only [Sections.errors, List.append_eq_nil_iff] at herrors
  obtain ⟨⟨⟨⟨⟨⟨hsources, htimestamp⟩, -⟩, -⟩, -⟩, hfilter⟩, -⟩ := herrors
  obtain ⟨sources, hsources⟩ := exists_ok_of_faults hsources
  obtain ⟨timestamp, htimestamp⟩ := exists_ok_of_faults htimestamp
  obtain ⟨filter, hfilter⟩ := exists_ok_of_faults hfilter
  rw [configure_eq_build, build, configure_eq_build, hsources, htimestamp, hfilter]
  rfl

theorem configure_fst (s : Schema) (p : Properties) :
    (s.configure p).1 = ConfigurationError.collect (Sections.ofProperties p).errors := rfl

/-- The error of the last configuration is the error of the schema. -/
theorem error_configure {error : ConfigurationError} (h : (s.configure p).1 = .error error) :
    (s.configure p).2.error = some error := by
  rw [configure_fst] at h
  unfold configure
  dsimp only
  rw [h]

/-- A schema in error gives nothing but its error. -/
theorem extract_congr_of_error {error : ConfigurationError} (hs : s.error = some error)
    (ht : t.error = some error) (hid : s.id = t.id) (hfixed : s.fixed = t.fixed) (now : Instant)
    (record : Json) (e : Exceptions) : s.extract now record e = t.extract now record e := by
  unfold extract
  rw [hs, ht]
  show e.raise .. = e.raise ..
  rw [hid, hfixed]

theorem extract_configure (s : Schema) (p : Properties) (now : Instant) (record : Json)
    (e : Exceptions) :
    (s.configure p).2.extract now record e = (build s.id p).extract now record e := by
  cases hresult : (s.configure p).1 with
  | ok => rw [configure_of_isOk hresult]
  | error error =>
      refine extract_congr_of_error (error_configure hresult) ?_ ?_ ?_ now record e
      · exact error_configure hresult
      · rw [configure_eq_build]
      · rw [configure_eq_build]

/-- **A schema does not tell what it was before.** Take a schema that was configured any number of
times, with or without error, and last with some properties. The outcome of the last configuration
and the error that it leaves are those of a schema that has these properties from the start; so is
what it extracts from any record, at any time and whatever was reported before, and what is
remembered of this; and if the last configuration was without error, so are its sources and its
filter, and all else. -/
theorem configured_forgets (id : String) (history : List Properties) (p : Properties) :
    let s := configured id (history ++ [p])
    ((configured id history).configure p).1 = ((unconfigured id).configure p).1 ∧
      s.error = (build id p).error ∧
      (∀ now record e, s.extract now record e = (build id p).extract now record e) ∧
      (((configured id history).configure p).1 = .ok () →
        s.sources = (build id p).sources ∧ s.filter = (build id p).filter ∧ s = build id p) := by
  dsimp only
  rw [configured_concat]
  have hid := id_configured id history
  generalize configured id history = s at hid ⊢
  subst hid
  refine ⟨rfl, ?_, extract_configure s p, fun hok => ?_⟩
  · rw [configure_eq_build]
  · rw [configure_of_isOk hok]
    exact ⟨rfl, rfl, rfl⟩

def singleValue (source : String) : Properties :=
  .ofList [("filter.attribute.host", "h1|h2"), ("sources", source), ("value.cpu.key", "cpu")]

def sourceless : Properties := (singleValue "events").erase "sources"

/-- A schema in error for want of sources has those that it had before, and tells nothing of them
when it is given others. -/
theorem configured_forgets_sources :
    (configured "s" [singleValue "events", sourceless]).error.isSome = true ∧
      (configured "s" [singleValue "events", sourceless]).sources = ["events"] ∧
      (configured "s" [singleValue "events", sourceless, singleValue "audit"]).sources = ["audit"] ∧
      configured "s" [singleValue "events", sourceless, singleValue "audit"] =
        build "s" (singleValue "audit") := by
  have herror : (configured "s" [singleValue "events", sourceless]).error.isSome = true := by
    decide +kernel
  have hkept : (configured "s" [singleValue "events", sourceless]).sources = ["events"] := by
    decide +kernel
  have hok : ((configured "s" [singleValue "events", sourceless]).configure
      (singleValue "audit")).1.isOk = true := by decide +kernel
  have hsources : (build "s" (singleValue "audit")).sources = ["audit"] := by decide +kernel
  obtain ⟨hsame, -, hall⟩ := (configured_forgets "s" [singleValue "events", sourceless]
    (singleValue "audit")).2.2.2 (eq_ok_of_isOk hok)
  exact ⟨herror, hkept, hsame.trans hsources, hall⟩

end Telemetry.Schema
