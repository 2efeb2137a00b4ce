import Telemetry.Proofs.NameMap
import Telemetry.Schema.Set

/-!
# Configured schemas

A configuration has one schema for each id under `metrics.schema`, built from the properties under
that id. The metrics of a record are those of the schemas that have its source.
-/

namespace Telemetry.Schemas

variable {now : Instant} {record : Json} {m : Metric} {e : Exceptions}

def block (p : Properties) (id : String) : Properties := (p.subset "metrics.schema").subset id

theorem get?_ofProperties (p : Properties) (id : String) :
    (ofProperties p).get? id =
      if id ∈ (p.subset "metrics.schema").ids then some (Schema.build id (block p id)) else none :=
  NameMap.get?_ofList_map (fun id => Schema.build id (block p id)) _ id

theorem values_ofProperties_of_single {p : Properties} {id : String}
    (h : (p.subset "metrics.schema").ids = [id]) :
    (ofProperties p).values = [Schema.build id (block p id)] := by
  unfold ofProperties
  simp only [h]
  exact NameMap.values_ofList_single id _

theorem mem_extractAll {schemas : List Schema} (h : m ∈ (extractAll now record schemas e).1) :
    ∃ schema ∈ schemas, ∃ e', m ∈ (schema.extract now record e').1 := by
  induction schemas generalizing e with
  | nil => cases h
  | cons schema rest ih =>
      rcases List.mem_append.mp h with hfirst | hmore
      · exact ⟨schema, List.mem_cons_self, e, hfirst⟩
      · obtain ⟨other, hother, e', hm⟩ := ih hmore
        exact ⟨other, List.mem_cons_of_mem _ hother, e', hm⟩

theorem mem_extractAll_cons {schema : Schema} {rest : List Schema}
    (h : m ∈ (schema.extract now record e).1) :
    m ∈ (extractAll now record (schema :: rest) e).1 :=
  List.mem_append_left _ h

end Telemetry.Schemas
