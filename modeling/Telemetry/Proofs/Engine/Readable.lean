import Telemetry.Proofs.Engine.Orphan
import Telemetry.Proofs.Schema.Storable
import Telemetry.Proofs.State.Readable

/-!
# An engine can read what it wrote

No request, in whatever order and over whatever records, leads an engine to a state that it cannot
read, and it never comes upon one while it handles a record (`Reachable.held_ne_unreadable`). The
invariant is that every stored text is that of a storable state; records keep it because the metrics
that are extracted from them are storable.
-/

namespace Telemetry.Engine

/-- The engines that requests lead to, while the clock shows instants of the calendar. -/
inductive Reachable (settings : Settings) : Engine → Prop
  | start (p : Properties) : Reachable settings (.ofProperties settings p)
  | process {g : Engine} {now : Instant} (h : Reachable settings g) (hnow : now.InCalendar)
      (source : String) (record : Json) : Reachable settings (g.process now source record).2
  /-- A text that is no document changes nothing. -/
  | processText {g g' : Engine} {now : Instant} {source text : String} {ms : List Metric}
      (h : Reachable settings g) (hnow : now.InCalendar)
      (hg : g.processText now source text = some (ms, g')) : Reachable settings g'
  | reload {g : Engine} (h : Reachable settings g) (p : Properties) :
      Reachable settings (g.reload p)
  | expire {g : Engine} (h : Reachable settings g) (now : Instant) :
      Reachable settings (g.expire now).2

/-- The deliveries that a record leads to, in the order in which the states are read and written. -/
def deliveries (g : Engine) (now : Instant) (source : String) (record : Json) :
    List Store.Delivery :=
  (g.extract now source record).1.flatMap (Store.routed g.definitions now)

variable {settings : Settings} {g : Engine} {now : Instant} {source : String} {record : Json}

theorem definitions_process (g : Engine) (now : Instant) (source : String) (record : Json) :
    (g.process now source record).2.definitions = g.definitions := rfl

theorem store_process : (g.process now source record).2.store =
    (g.store.run g.definitions (g.deliveries now source record)).2 :=
  congrArg Prod.snd (Store.processAll_eq_run _)

theorem isStorable_of_mem_deliveries (hnow : now.InCalendar) :
    ∀ d ∈ g.deliveries now source record, d.event.IsStorable := by
  intro d hd
  obtain ⟨m, hm, hd⟩ := List.mem_flatMap.mp hd
  obtain ⟨key, -, rfl⟩ := List.mem_map.mp hd
  exact Schemas.isStorable_of_mem_extract hnow hm

theorem isReadable_store_process (h : g.store.IsReadable) (hnow : now.InCalendar) :
    (g.process now source record).2.store.IsReadable := by
  rw [store_process]
  exact h.run (isStorable_of_mem_deliveries hnow)

namespace Reachable

theorem isReadable_store (h : Reachable settings g) : g.store.IsReadable := by
  induction h with
  | start p => exact Store.isReadable_empty
  | process _ hnow source record ih => exact isReadable_store_process ih hnow
  | processText _ hnow hg ih =>
      obtain ⟨record, -, heq⟩ := Option.map_eq_some_iff.mp hg
      obtain rfl := congrArg Prod.snd heq
      exact isReadable_store_process ih hnow
  | reload _ p ih => exact ih
  | expire _ now ih => exact ih.expire _ now _

theorem named_definitions (h : Reachable settings g) : g.definitions.Named := by
  induction h with
  | start p => exact named_ofProperties settings p
  | process _ _ _ _ ih => exact ih
  | processText _ _ hg ih =>
      obtain ⟨record, -, heq⟩ := Option.map_eq_some_iff.mp hg
      obtain rfl := congrArg Prod.snd heq
      exact ih
  | reload _ p _ => exact named_reload _ p
  | expire _ _ ih => exact ih

/-- **An engine never comes upon a state that it cannot read.** Neither when it waits for a request,
nor when a metric of a record is about to update a state; and what the update leaves can be read. -/
theorem held_ne_unreadable (h : Reachable settings g) :
    (∀ key, g.store.held key ≠ .unreadable) ∧
    ∀ (now : Instant) (source : String) (record : Json), now.InCalendar →
      ∀ before d after, g.deliveries now source record = before ++ d :: after →
        (g.store.run g.definitions before).2.held d.key ≠ .unreadable ∧
        ∃ stores, (g.store.run g.definitions (before ++ [d])).2.held d.key = .state stores := by
  refine ⟨h.isReadable_store.held_ne, fun now source record hnow before d after hsplit => ?_⟩
  have hall : ∀ d' ∈ before ++ d :: after, d'.event.IsStorable := by
    rw [← hsplit]
    exact isStorable_of_mem_deliveries hnow
  have hbefore : (g.store.run g.definitions before).2.IsReadable :=
    h.isReadable_store.run fun d' hd' => hall d' (List.mem_append_left _ hd')
  refine ⟨hbefore.held_ne d.key, ?_⟩
  -- the delivery brings a metric to a key that a definition has
  have hd : d ∈ g.deliveries now source record := by
    rw [hsplit]
    exact List.mem_append_right _ List.mem_cons_self
  obtain ⟨m, hm, hd⟩ := List.mem_flatMap.mp hd
  obtain ⟨key, hkey, rfl⟩ := List.mem_map.mp hd
  obtain ⟨definition, hvalid, -⟩ := h.named_definitions.valid?_of_mem_keys hkey
  rw [Store.run_append]
  exact hbefore.held_apply (Schemas.isStorable_of_mem_extract hnow hm) hvalid

end Reachable

theorem cpuMetric_mem_extract_counted :
    cpuMetric ∈ (counted.extract .epoch "events" cpuRecord).1 := by
  decide +kernel

/-- An engine that has counted a record reads its state when the next one comes. -/
theorem counted_reads_total : Reachable {} counted ∧ counted.store[totalKey]?.isSome ∧
    counted.store.held totalKey ≠ .unreadable ∧
    ∃ before after, counted.deliveries .epoch "events" cpuRecord =
      before ++ ⟨.epoch, totalKey, .metric cpuMetric⟩ :: after ∧
      (counted.store.run counted.definitions before).2.held totalKey ≠ .unreadable := by
  have h : Reachable {} counted := .process (.start countingProperties) (by decide) _ _
  have hmem : ⟨.epoch, totalKey, .metric cpuMetric⟩ ∈
      counted.deliveries .epoch "events" cpuRecord := by
    refine List.mem_flatMap.mpr ⟨cpuMetric, cpuMetric_mem_extract_counted, ?_⟩
    rw [counted, definitions_process]
    exact List.mem_map_of_mem totalKey_mem_keys
  obtain ⟨before, after, hsplit⟩ := List.append_of_mem hmem
  obtain ⟨hidle, hhandling⟩ := h.held_ne_unreadable
  exact ⟨h, isSome_counted, hidle totalKey, before, after, hsplit,
    (hhandling .epoch "events" cpuRecord (by decide) before _ after hsplit).1⟩

end Telemetry.Engine
