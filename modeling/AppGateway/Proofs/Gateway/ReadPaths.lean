import AppGateway.Proofs.Gateway.Listing
import AppGateway.Proofs.Sample
import AppGateway.Proofs.Watch.Items

/-!
# The ways to read a record

A get, a list and a watch each read records on their own.  What a record adds to a list (`contribution`) is what a get
gives and what the events of a watch carry; when a get fails, the list and the watch pass over the record.

* (contents) `BackingStore.records`: the records of a namespace, in the order of the store;
* (list) `list_items`: a list is put together of what each record adds to it;
* (get) `get_cases`: a get shows the record, or does not find it because it is of another type, or cannot read it;
* (result) `read_paths_agree`.
-/

namespace AppGateway

namespace BackingStore

variable {σ : Type} (b : BackingStore σ)

/-- The records of a namespace, in the order of the store. -/
def records (s : σ) (ns : String) : List Record := (b.contents s ns).entries.filterMap fun e => Record.ofJson? e.2

variable {b} {s s' : σ} {ns : String}

/-- In a legible namespace objects are read as records one by one. -/
private theorem Legible.mapM_ofJson? (h : b.Legible s ns) {listed : List (String × Json)}
    (hlisted : ∀ e ∈ listed, e ∈ (b.contents s ns).entries) :
    (listed.map (·.2)).mapM Record.ofJson? = some (listed.filterMap fun e => Record.ofJson? e.2) := by
  induction listed with
  | nil => rfl
  | cons e rest ih =>
    obtain ⟨record, hread, -⟩ := h.record_of_mem (hlisted e (by simp))
    rw [List.map_cons, List.mapM_cons, hread, ih fun e' he' => hlisted e' (by simp [he']),
      List.filterMap_cons, hread]
    rfl

/-- A record stored under a name has a place among the records, and none of the others has the name. -/
private theorem split_records {name : String} {record : Record} (hrecord : b.record? s ns name = some record) :
    ∃ earlier later, b.records s ns = earlier ++ record :: later ∧
      ∀ s', b.contents s' ns = (b.contents s ns).erase name → b.records s' ns = earlier ++ later := by
  obtain ⟨j, hj, hread⟩ := Option.bind_eq_some_iff.mp hrecord
  obtain ⟨before, after, hsplit⟩ := List.append_of_mem (Directory.mem_of_lookup hj)
  refine ⟨before.filterMap fun e => Record.ofJson? e.2, after.filterMap fun e => Record.ofJson? e.2, ?_, ?_⟩
  · rw [records, hsplit, List.filterMap_append, List.filterMap_cons, hread]
  · intro s' hs'
    rw [records, hs', Directory.entries_erase hsplit, List.filterMap_append]

private theorem Legible.of_erase (h : b.Legible s ns) {name : String}
    (hs' : b.contents s' ns = (b.contents s ns).erase name) : b.Legible s' ns := by
  intro name' j hj
  rw [BackingStore.find?, hs', Directory.find?_erase] at hj
  split at hj
  · cases hj
  · exact h name' j hj

end BackingStore

namespace ResourceDefinition

variable {σ : Type} (d : ResourceDefinition)

/-- What a record adds to a list. -/
def contribution (record : Record) : List Application := (d.shown? record).toList

variable {d} {b : BackingStore σ} {s : σ} {ns n : String} {record : Record}

private theorem filterMap_shown? (records : List Record) : records.filterMap d.shown? =
    records.flatMap d.contribution := by
  induction records with
  | nil => rfl
  | cons record rest ih =>
    rw [List.flatMap_cons, contribution, ← ih]
    cases h : d.shown? record with
    | none => rw [List.filterMap_cons_none h]; rfl
    | some app => rw [List.filterMap_cons_some h]; rfl

/-- A list of a legible namespace succeeds, and is put together of what the listed records add to it. -/
theorem list_items (h : b.Reads) (hns : ns ≠ "") (hlegible : b.Legible s ns) (options : ListOptions) :
    ∃ version listed, listed.Sublist (b.records s ns) ∧
      (options.labels = none → options.fields = none → listed = b.records s ns) ∧
      (d.perform b (some ns) (.list options) s).1 =
        .ok (.many (.ofItems d.application.kind version (listed.flatMap d.contribution))) := by
  obtain ⟨version, listed, hsub, hwhole, hreply⟩ := h.list s ns options.labels options.fields
  have hanswer : b.reply (.list ns options.labels options.fields) s =
      .ok ⟨version, listed.filterMap fun e => Record.ofJson? e.2⟩ := by
    rw [hreply, MemoryStore.asList, hlegible.mapM_ofJson? hsub.subset]
  refine ⟨version, _, hsub.filterMap _, fun hlabels hfields => ?_, ?_⟩
  · rw [hwhole hlabels hfields, BackingStore.records]
  · rw [← filterMap_shown?, perform_list b hns, hanswer]
    rfl

/-- What a get makes of the record with the prefixed name. -/
theorem get_cases (h : b.Reads) (hns : ns ≠ "") (hrecord : b.record? s ns (d.names.toBacking n) = some record) :
    (∃ r, Release.ofRecord record = .ok r ∧ d.inScope r = true ∧ d.shown? record = some (d.toApplication r) ∧
      (d.perform b (some ns) (.get n) s).1 = .ok (.one (d.toApplication r))) ∨
    (∃ r, Release.ofRecord record = .ok r ∧ d.inScope r = false ∧ d.shown? record = none ∧
      (d.perform b (some ns) (.get n) s).1 = .error (.notFound d.groupResource n)) ∨
    (∃ fault, Release.ofRecord record = .error fault ∧ d.shown? record = none ∧
      (d.perform b (some ns) (.get n) s).1 = .error (.conversion .get n fault.message)) := by
  obtain ⟨j, hj, hread⟩ := Option.bind_eq_some_iff.mp hrecord
  have hreply : b.reply (.get ns (d.names.toBacking n)) s = .ok record := by
    rw [h.get_present hj, MemoryStore.asRecord_ok, hread]
  have hperform : (d.perform b (some ns) (.get n) s).1 =
      ((d.readInScope .get n record).map d.toApplication).map .one := by
    rw [perform_get b hns, hreply]
    rfl
  rw [hperform, readInScope, readRelease, shown?]
  cases hr : Release.ofRecord record with
  | error fault => exact .inr (.inr ⟨fault, rfl, rfl, rfl⟩)
  | ok r =>
    simp only [Except.mapError_ok, Except.ok_bind]
    cases hscope : d.inScope r with
    | true => exact .inl ⟨r, rfl, hscope, rfl, rfl⟩
    | false => exact .inr (.inl ⟨r, rfl, hscope, rfl, rfl⟩)

/-- What a watch of these items gives, when nobody closes it. -/
def watched (d : ResourceDefinition) (items : List WatchItem) : List ApplicationEvent :=
  (Session.onItems d items false).events

/-- A watch passes over an item without an event. -/
private theorem watched_skip {item : WatchItem} (h : d.eventOf? item = none) (before after : List WatchItem) :
    d.watched (before ++ item :: after) = d.watched (before ++ after) := by
  simp only [watched, Session.events_onItems, List.filterMap_append, List.filterMap_cons, h]

/-- A list is put together of what its records add to it, in their order.  A get gives an application exactly when this
is all that its record adds to a list, and exactly when it is what the events carry that report the record.  When a get
fails, the record is of another type or unreadable, and neither a list nor a watch is any different for it. -/
theorem read_paths_agree (h : b.Reads) (d : ResourceDefinition) (hns : ns ≠ "") (hlegible : b.Legible s ns)
    {n : String} {record : Record} (hrecord : b.record? s ns (d.names.toBacking n) = some record) :
    let got := (d.perform b (some ns) (.get n) s).1
    (∀ options : ListOptions, ∃ version listed, listed.Sublist (b.records s ns) ∧
      (options.labels = none → options.fields = none → listed = b.records s ns) ∧
      (d.perform b (some ns) (.list options) s).1 =
        .ok (.many (.ofItems d.application.kind version (listed.flatMap d.contribution)))) ∧
    (∃ earlier later, b.records s ns = earlier ++ record :: later) ∧
    (∀ app, got = .ok (.one app) ↔ d.contribution record = [app]) ∧
    (∀ app, got = .ok (.one app) ↔ d.eventOf? (.ok (.added record)) = some (.added app)) ∧
    (∀ app, got = .ok (.one app) ↔ d.eventOf? (.ok (.modified record)) = some (.modified app)) ∧
    (∀ app, got = .ok (.one app) ↔ d.eventOf? (.ok (.deleted record)) = some (.deleted app)) ∧
    (∀ failure, got = .error failure →
      ((∃ r, Release.ofRecord record = .ok r ∧ d.inScope r = false ∧ failure = .notFound d.groupResource n) ∨
        (∃ fault, Release.ofRecord record = .error fault ∧ failure = .conversion .get n fault.message)) ∧
      d.contribution record = [] ∧
      (∀ s', b.contents s' ns = (b.contents s ns).erase (d.names.toBacking n) → ∃ version version' items,
        (d.perform b (some ns) (.list {}) s).1 = .ok (.many (.ofItems d.application.kind version items)) ∧
        (d.perform b (some ns) (.list {}) s').1 = .ok (.many (.ofItems d.application.kind version' items))) ∧
      ∀ event ∈ [RecordEvent.added record, .modified record, .deleted record], ∀ before after,
        d.watched (before ++ .ok event :: after) = d.watched (before ++ after)) := by
  intro got
  have hlist := list_items (d := d) h hns hlegible
  obtain ⟨earlier, later, hsplit, herased⟩ := BackingStore.split_records hrecord
  refine ⟨hlist, ⟨earlier, later, hsplit⟩, ?_⟩
  rcases get_cases h hns hrecord with
    ⟨r, -, -, hshown, hgot⟩ | hfailed
  · -- The record is shown: all of them give the same application.
    have hone : ∀ app, got = .ok (.one app) ↔ d.toApplication r = app := by
      intro app
      rw [show got = .ok (.one (d.toApplication r)) from hgot]
      simp
    simp only [hone, contribution, hshown, eventOf?]
    refine ⟨by simp, by simp, by simp, by simp, fun failure hfailure => ?_⟩
    cases hgot.symm.trans hfailure
  · obtain ⟨failure, hgot, hshown, hcause⟩ : ∃ failure, got = .error failure ∧ d.shown? record = none ∧
        ((∃ r, Release.ofRecord record = .ok r ∧ d.inScope r = false ∧ failure = .notFound d.groupResource n) ∨
          (∃ fault, Release.ofRecord record = .error fault ∧ failure = .conversion .get n fault.message)) := by
      rcases hfailed with ⟨r, hr, hscope, hshown, hgot⟩ | ⟨fault, hr, hshown, hgot⟩
      · exact ⟨_, hgot, hshown, .inl ⟨r, hr, hscope, rfl⟩⟩
      · exact ⟨_, hgot, hshown, .inr ⟨fault, hr, rfl⟩⟩
    have hevents : ∀ event ∈ [RecordEvent.added record, .modified record, .deleted record],
        d.eventOf? (.ok event) = none := by
      simp [eventOf?, hshown]
    have hnothing : d.contribution record = [] := by rw [contribution, hshown]; rfl
    simp only [hgot, hnothing, eventOf?, hshown]
    refine ⟨by simp, by simp, by simp, by simp, ?_⟩
    rintro _ ⟨⟩
    refine ⟨hcause, trivial, fun s' hs' => ?_, fun event hevent => watched_skip (hevents event hevent)⟩
    obtain ⟨version, listed, -, hwhole, hitems⟩ := hlist {}
    obtain ⟨version', listed', -, hwhole', hitems'⟩ := list_items (d := d) h hns (hlegible.of_erase hs') {}
    refine ⟨version, version', (earlier ++ later).flatMap d.contribution, ?_, ?_⟩
    · rw [hitems, hwhole rfl rfl, hsplit, List.flatMap_append, List.flatMap_cons, hnothing, List.nil_append,
        List.flatMap_append]
    · rw [hitems', hwhole' rfl rfl, herased s' hs']

/-- A record whose chart is no chart. -/
def unreadableRecord : Record where
  metadata := { name := some "web-bad" }
  data := [("spec", .object [("chart", .int 7)])]

/-- The release of the sample application under another name and with another chart. -/
def otherChart : Release :=
  { sampleType with release := { sampleType.release with chart.name := "blog" } }.toRelease
    { sampleApp with metadata := { sampleApp.metadata with name := some "blog" } } none

/-- A namespace with a record of the type, a record of another type, and an unreadable one. -/
def mixedStore : {s : MemoryStore // s.Sound} :=
  ⟨.ofRecords "tenant" [otherChart.toStored, unreadableRecord, webShop.toStored],
    MemoryStore.sound_ofRecords "tenant" (by decide)⟩

/-- An unreadable record is passed over by the list that shows the record behind it, and cannot be got. -/
theorem unreadable_record_is_passed_over :
    MemoryStore.backing.Reads ∧ "tenant" ≠ "" ∧ MemoryStore.backing.Legible mixedStore "tenant" ∧
      MemoryStore.backing.record? mixedStore "tenant" (sampleType.names.toBacking "bad") = some unreadableRecord ∧
      ∃ failure version,
        (sampleType.perform MemoryStore.backing (some "tenant") (.get "bad") mixedStore).1 = .error failure ∧
        (∃ message, failure = .conversion .get "bad" message) ∧
        (sampleType.perform MemoryStore.backing (some "tenant") (.list {}) mixedStore).1 =
          .ok (.many (.ofItems "Web" version [sampleType.toApplication webShop])) := by
  have hread : ∀ r ∈ [otherChart.toStored, unreadableRecord, webShop.toStored], Record.ofJson? r.toJson = some r := by
    intro r hr
    simp only [List.mem_cons, List.not_mem_nil, or_false] at hr
    rcases hr with rfl | rfl | rfl <;> rfl
  have hlegible : MemoryStore.backing.Legible mixedStore "tenant" := MemoryStore.legible_ofRecords (by decide) hread
  have hrecord : MemoryStore.backing.record? mixedStore "tenant" (sampleType.names.toBacking "bad") =
      some unreadableRecord := rfl
  have hns : "tenant" ≠ "" := by decide
  obtain ⟨hlist, -, -, -, -, -, hfailed⟩ :=
    read_paths_agree MemoryStore.reads_backing sampleType hns hlegible hrecord
  obtain ⟨version, listed, -, hwhole, hitems⟩ := hlist {}
  rw [hwhole rfl rfl] at hitems
  obtain ⟨failure, hgot⟩ : ∃ failure,
      (sampleType.perform MemoryStore.backing (some "tenant") (.get "bad") mixedStore).1 = .error failure := ⟨_, rfl⟩
  obtain ⟨hcause, -⟩ := hfailed failure hgot
  refine ⟨MemoryStore.reads_backing, hns, hlegible, hrecord, failure, version, hgot, ?_, hitems⟩
  rcases hcause with ⟨r, hr, -⟩ | ⟨fault, -, hconversion⟩
  · cases hr
  · exact ⟨_, hconversion⟩

end ResourceDefinition

end AppGateway
