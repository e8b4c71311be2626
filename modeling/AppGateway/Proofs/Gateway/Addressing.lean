import AppGateway.Proofs.Gateway.Listing
import AppGateway.Proofs.Sample

/-!
# Whether what is listed can be got

A list goes by the chart of a release, a get by its name.  The two agree on the releases that are named with the prefix.
A release that is named otherwise is listed under its own name, and a get of this name asks for another record.

* `listed_are_addressable`: which of the applications of a list are got by their names, and which of them can share one;
* `unprefixed_is_only_listed`: a release without the prefix that is listed and not got.
-/

namespace AppGateway

namespace ResourceDefinition

variable {σ : Type} {b : BackingStore σ} {s : σ} {ns : String}

/-- A list succeeds.  What it shows of a record with the prefix is got by its name; what it shows of another record has
the name of this record, under which the record that adds the prefix is got, if any.  Two names are the same only when one
record lacks the prefix and the other adds it. -/
theorem listed_are_addressable (h : b.Reads) (d : ResourceDefinition) (hns : ns ≠ "") (hlegible : b.Legible s ns)
    (options : ListOptions) :
    ∃ (list : ApplicationList) (shown : List (String × Application)),
      (d.perform b (some ns) (.list options) s).1 = .ok (.many list) ∧ list.items = shown.map (·.2) ∧
      d.Listed b s ns shown ∧
      (options.labels = none → options.fields = none →
        ∀ name app, d.shownAt b s ns name = some app → (name, app) ∈ shown) ∧
      (∀ p ∈ shown, d.names.Prefixed p.1 → (d.perform b (some ns) (.get p.2.name) s).1 = .ok (.one p.2)) ∧
      (∀ p ∈ shown, ¬ d.names.Prefixed p.1 → p.2.name = p.1 ∧
        ∀ app, (d.perform b (some ns) (.get p.2.name) s).1 = .ok (.one app) ↔
          d.shownAt b s ns (d.names.toBacking p.1) = some app) ∧
      shown.Pairwise fun p q => p.2.name = q.2.name →
        (¬ d.names.Prefixed p.1 ∧ q.1 = d.names.toBacking p.1) ∨
          (¬ d.names.Prefixed q.1 ∧ p.1 = d.names.toBacking q.1) := by
  obtain ⟨list, shown, hlist, hitems, hlisted, hall⟩ := list_perform (d := d) h hns hlegible options
  have hname : ∀ p ∈ shown, p.2.name = d.names.toSynthetic p.1 :=
    fun p hp => name_of_shownAt hlegible (hlisted.shows p hp)
  refine ⟨list, shown, hlist, hitems, hlisted, hall, fun p hp hprefixed => ?_, fun p hp hnot => ?_,
    hlisted.pairwise hlegible⟩
  · rw [get_perform h hns, hname p hp, d.names.toBacking_toSynthetic hprefixed]
    exact hlisted.shows p hp
  · have hown : p.2.name = p.1 := (hname p hp).trans (d.names.toSynthetic_of_not_prefixed hnot)
    refine ⟨hown, fun app => ?_⟩
    rw [get_perform h hns, hown]

/-- A listed application whose release has the prefix is got by its name. -/
theorem web_shop_is_addressable :
    MemoryStore.backing.Reads ∧ "tenant" ≠ "" ∧
      MemoryStore.backing.Legible (MemoryStore.holding "tenant" webShop) "tenant" ∧
      ∃ (list : ApplicationList) (app : Application),
        (sampleType.perform MemoryStore.backing (some "tenant") (.list {}) (MemoryStore.holding "tenant" webShop)).1 =
          .ok (.many list) ∧ app ∈ list.items ∧ app.name = "shop" ∧
        (sampleType.perform MemoryStore.backing (some "tenant") (.get "shop") (MemoryStore.holding "tenant" webShop)).1 =
          .ok (.one app) := by
  have hns : "tenant" ≠ "" := by decide
  have hlegible : MemoryStore.backing.Legible (MemoryStore.holding "tenant" webShop) "tenant" :=
    MemoryStore.legible_holding rereads_webShop
  obtain ⟨list, shown, hlist, hitems, hlisted, hall, hget, -⟩ :=
    listed_are_addressable MemoryStore.reads_backing sampleType hns hlegible {}
  obtain ⟨app, happ⟩ : ∃ app, sampleType.shownAt MemoryStore.backing (MemoryStore.holding "tenant" webShop) "tenant"
      "web-shop" = some app :=
    ⟨_, (shownAt_holding rereads_webShop _).trans (if_pos ⟨rfl, inScope_webShop⟩)⟩
  have hmem : ("web-shop", app) ∈ shown := hall rfl rfl _ _ happ
  have hprefixed : sampleType.names.Prefixed "web-shop" := ⟨"shop", by decide⟩
  have hgot := hget _ hmem hprefixed
  have hname : app.name = "shop" := (name_of_shownAt hlegible happ).trans (by decide)
  rw [hname] at hgot
  refine ⟨MemoryStore.reads_backing, hns, hlegible, list, app, hlist, ?_, hname, hgot⟩
  rw [hitems]
  exact List.mem_map_of_mem hmem

/-- The release of the sample application under a name without the prefix. -/
def plainShop : Release := { webShop with metadata := { webShop.metadata with name := some "shop" } }

private theorem rereads_plainShop : plainShop.Rereads :=
  ⟨⟨rereads_webShop.metadata.creation, rereads_webShop.metadata.grace, rereads_webShop.metadata.deletion,
    rereads_webShop.metadata.generation, rereads_webShop.metadata.managed⟩, rereads_webShop.spec, rereads_webShop.status⟩

/-- A release without the prefix is listed under its name, and nothing is got by this name. -/
theorem unprefixed_is_only_listed :
    MemoryStore.backing.Legible (MemoryStore.holding "tenant" plainShop) "tenant" ∧
      ∃ (list : ApplicationList) (app : Application),
        (sampleType.perform MemoryStore.backing (some "tenant") (.list {}) (MemoryStore.holding "tenant" plainShop)).1 =
          .ok (.many list) ∧ app ∈ list.items ∧
        ∀ app', (sampleType.perform MemoryStore.backing (some "tenant") (.get app.name)
          (MemoryStore.holding "tenant" plainShop)).1 ≠ .ok (.one app') := by
  have hns : "tenant" ≠ "" := by decide
  have hlegible : MemoryStore.backing.Legible (MemoryStore.holding "tenant" plainShop) "tenant" :=
    MemoryStore.legible_holding rereads_plainShop
  obtain ⟨list, shown, hlist, hitems, -, hall⟩ :=
    list_perform (d := sampleType) MemoryStore.reads_backing hns hlegible {}
  obtain ⟨app, happ⟩ : ∃ app, sampleType.shownAt MemoryStore.backing (MemoryStore.holding "tenant" plainShop) "tenant"
      "shop" = some app :=
    ⟨_, (shownAt_holding rereads_plainShop _).trans (if_pos ⟨rfl, inScope_webShop⟩)⟩
  have hmem : ("shop", app) ∈ shown := hall rfl rfl _ _ happ
  have hname : app.name = "shop" := (name_of_shownAt hlegible happ).trans (by decide)
  refine ⟨hlegible, list, app, hlist, ?_, fun app' hget => ?_⟩
  · rw [hitems]
    exact List.mem_map_of_mem hmem
  · -- A get of the name asks for the record that adds the prefix, and there is none.
    rw [hname, get_perform MemoryStore.reads_backing hns, shownAt_holding rereads_plainShop,
      if_neg fun hboth => absurd hboth.1 (by decide)] at hget
    cases hget

end ResourceDefinition

end AppGateway
