import AppGateway.Proofs.Backing.Memory
import AppGateway.Proofs.Gateway.Request
import AppGateway.Proofs.Mapping

/-!
# What a namespace shows

A list shows every record that it can, a get the one record that has the prefixed name; both name an application by what
is left of the name of its record.

* (records) `BackingStore.Legible`: every object of a namespace is a record with the name that it is stored under;
* (names) `NameScheme.eq_or_of_toSynthetic_eq`: two records show the same name only if one of them lacks the prefix and
  the other has it before the name of the first;
* (reads) `list_perform`, `get_perform`: a list of a legible namespace succeeds, and both show what `shownAt` tells of
  the records;
* (lookup) `Listed.find?`: when all records are named with the prefix, the item of a name is what the record with the
  prefixed name shows.
-/

namespace AppGateway

namespace NameScheme

variable (s : NameScheme)

/-- A name that begins with the prefix. -/
def Prefixed (name : String) : Prop := ∃ rest, name = s.toBacking rest

private theorem eq_append_of_dropStart? {p cs rest : List Char} (h : dropStart? p cs = some rest) : cs = p ++ rest := by
  induction p generalizing cs with
  | nil => exact Option.some.inj h
  | cons c p ih =>
    cases cs with
    | nil => cases h
    | cons c' cs =>
      rw [dropStart?] at h
      split at h
      · rename_i hc
        rw [hc, ih h, List.cons_append]
      · cases h

/-- A name with the prefix is shown as its rest, any other name as it is. -/
theorem toSynthetic_cases (name : String) :
    name = s.toBacking (s.toSynthetic name) ∨ (¬ s.Prefixed name ∧ s.toSynthetic name = name) := by
  by_cases h : s.Prefixed name
  · obtain ⟨rest, rfl⟩ := h
    rw [s.toSynthetic_toBacking]
    exact .inl rfl
  · refine .inr ⟨h, ?_⟩
    rw [toSynthetic]
    split
    · rename_i rest hrest
      refine absurd ⟨String.ofList rest, ?_⟩ h
      rw [toBacking, ← String.toList_inj, String.toList_append, String.toList_ofList]
      exact eq_append_of_dropStart? hrest
    · rfl

/-- The prefix that was taken off a name is put on again. -/
theorem toBacking_toSynthetic {name : String} (h : s.Prefixed name) : s.toBacking (s.toSynthetic name) = name := by
  rcases s.toSynthetic_cases name with hname | ⟨hnot, -⟩
  · exact hname.symm
  · exact absurd h hnot

theorem toSynthetic_of_not_prefixed {name : String} (h : ¬ s.Prefixed name) : s.toSynthetic name = name := by
  rcases s.toSynthetic_cases name with hname | ⟨-, hname⟩
  · exact absurd ⟨_, hname⟩ h
  · exact hname

/-- Names that are shown as the same name are equal, or one of them lacks the prefix and the other adds it. -/
theorem eq_or_of_toSynthetic_eq {name name' : String} (h : s.toSynthetic name = s.toSynthetic name') :
    name = name' ∨ (¬ s.Prefixed name ∧ name' = s.toBacking name) ∨ (¬ s.Prefixed name' ∧ name = s.toBacking name') := by
  rcases s.toSynthetic_cases name with hname | ⟨hnot, hname⟩ <;>
    rcases s.toSynthetic_cases name' with hname' | ⟨hnot', hname'⟩
  · exact .inl (by rw [hname, h, ← hname'])
  · exact .inr (.inr ⟨hnot', by rw [hname, h, hname']⟩)
  · exact .inr (.inl ⟨hnot, by rw [hname', ← h, hname]⟩)
  · exact .inl (by rw [← hname, h, hname'])

end NameScheme

namespace BackingStore

variable {σ : Type} (b : BackingStore σ)

/-- The record stored under a namespace and a name. -/
def record? (s : σ) (ns name : String) : Option Record := (b.find? s ns name).bind Record.ofJson?

/-- Every object of a namespace is a record with the name that it is stored under. -/
def Legible (s : σ) (ns : String) : Prop :=
  ∀ name j, b.find? s ns name = some j → ∃ record, Record.ofJson? j = some record ∧ record.name = name

/-- A read answers what is stored, and a list that selects answers a part of it. -/
structure Reads : Prop where
  get_missing : ∀ {s ns name}, b.find? s ns name = none → ∃ e, b.reply (.get ns name) s = .error e
  get_present : ∀ {s ns name j}, b.find? s ns name = some j →
    b.reply (.get ns name) s = MemoryStore.asRecord (.ok j)
  list : ∀ s ns labels fields, ∃ version listed, listed.Sublist (b.contents s ns).entries ∧
    (labels = none → fields = none → listed = (b.contents s ns).entries) ∧
      b.reply (.list ns labels fields) s = MemoryStore.asList version (listed.map (·.2))

variable {b} {s : σ} {ns : String}

private theorem Legible.name_of_record? (h : b.Legible s ns) {name : String} {record : Record}
    (hrecord : b.record? s ns name = some record) : record.name = name := by
  obtain ⟨j, hj, hread⟩ := Option.bind_eq_some_iff.mp hrecord
  obtain ⟨record', hread', hname⟩ := h name j hj
  cases hread.symm.trans hread'
  exact hname

theorem Legible.record_of_mem (h : b.Legible s ns) {e : String × Json} (he : e ∈ (b.contents s ns).entries) :
    ∃ record, Record.ofJson? e.2 = some record ∧ b.record? s ns e.1 = some record := by
  have hfind : b.find? s ns e.1 = some e.2 := Directory.find?_of_mem _ he
  obtain ⟨record, hrecord, -⟩ := h e.1 e.2 hfind
  exact ⟨record, hrecord, by rw [record?, hfind, Option.bind_some, hrecord]⟩

end BackingStore

/-- The store in memory reads as it should. -/
theorem MemoryStore.reads_backing : backing.Reads where
  get_missing h := by
    obtain ⟨e, -, hreply⟩ := (faithful_backing.get_missing h).1
    exact ⟨_, hreply⟩
  get_present h := (faithful_backing.get_present h).1
  list s ns _ _ := by
    obtain ⟨version, hreply⟩ := (faithful_backing.list_all s ns).1
    exact ⟨version, _, .refl _, fun _ _ => rfl, hreply⟩

namespace MemoryStore

variable {ns : String} {r : Release}

/-- The store that holds one release, with the version that numbers start from. -/
def holding (ns : String) (r : Release) : {s : MemoryStore // s.Sound} :=
  ⟨single ns r.name r.toStored.toJson, sound_single ns r.name (tidy_toJson r.toStored)⟩

private theorem find?_holding (r : Release) (name : String) :
    backing.find? (holding ns r) ns name = if r.name = name then some (r.versioned "100").toJson else none := by
  rw [backing_find?, find?_eq_lookup, holding, entriesIn_single, if_pos rfl, Directory.lookup_cons,
    Release.toStored_toJson, Release.withVersion_toJson]
  rfl

private theorem ofJson?_versioned (h : r.Rereads) :
    Record.ofJson? (r.versioned "100").toJson = some (r.versioned "100").toStored := by
  rw [Release.record_ofJson?_toJson, ObjectMeta.ofJson?_toJson (h.versioned "100").metadata]
  rfl

theorem record?_holding (h : r.Rereads) (name : String) :
    backing.record? (holding ns r) ns name = if r.name = name then some (r.versioned "100").toStored else none := by
  rw [BackingStore.record?, find?_holding]
  split
  · exact ofJson?_versioned h
  · rfl

theorem legible_holding (h : r.Rereads) : backing.Legible (holding ns r) ns := by
  intro name j hj
  rw [find?_holding, Option.ite_none_right_eq_some] at hj
  obtain ⟨hname, hj⟩ := hj
  cases hj
  exact ⟨_, ofJson?_versioned h, hname⟩

theorem legible_ofRecords {records : List Record} (hnodup : (records.map Record.name).Nodup)
    (hread : ∀ r ∈ records, Record.ofJson? r.toJson = some r) :
    backing.Legible ⟨ofRecords ns records, sound_ofRecords ns hnodup⟩ ns := by
  intro name j hj
  rw [backing_find?, find?_eq_lookup, entriesIn_ofRecords, if_pos rfl] at hj
  obtain ⟨r, hr, he⟩ := List.mem_map.mp (Directory.mem_of_lookup hj)
  cases he
  exact ⟨r, hread r hr, rfl⟩

end MemoryStore

/-- The item of a name. -/
def ApplicationList.find? (list : ApplicationList) (name : String) : Option Application :=
  list.items.find? (·.name == name)

namespace ResourceDefinition

variable {σ : Type} (d : ResourceDefinition)

/-- The application that is shown of the record with a name. -/
def shownAt (b : BackingStore σ) (s : σ) (ns name : String) : Option Application :=
  (b.record? s ns name).bind d.shown?

variable {d} {b : BackingStore σ} {s : σ} {ns : String}

/-- A record is shown if it is read as a release in scope. -/
theorem shown?_eq_some {record : Record} {app : Application} :
    d.shown? record = some app ↔
      ∃ r, Release.ofRecord record = .ok r ∧ d.inScope r = true ∧ d.toApplication r = app := by
  rw [shown?]
  cases Release.ofRecord record with
  | error fault => simp
  | ok r => by_cases hscope : d.inScope r = true <;> simp [hscope]

/-- A written release is shown when it is of the type. -/
theorem shown?_toStored {r : Release} (h : r.Rereads) :
    d.shown? r.toStored = if d.inScope r then some (d.toApplication r) else none := by
  rw [shown?, Release.ofRecord_toStored h]

theorem name_of_shown? {record : Record} {app : Application} (h : d.shown? record = some app) :
    app.name = d.names.toSynthetic record.name := by
  obtain ⟨r, hr, -, rfl⟩ := shown?_eq_some.mp h
  have hname : r.metadata.name = record.metadata.name :=
    (ObjectMeta.text_of_ofJson?_toJson (Release.metadata_of_ofRecord hr)).1
  show d.names.toSynthetic (r.metadata.name.getD "") = d.names.toSynthetic (record.metadata.name.getD "")
  rw [hname]

/-- What is shown of a record has its name without the prefix. -/
theorem name_of_shownAt (h : b.Legible s ns) {name : String} {app : Application}
    (happ : d.shownAt b s ns name = some app) : app.name = d.names.toSynthetic name := by
  obtain ⟨record, hrecord, hshown⟩ := Option.bind_eq_some_iff.mp happ
  rw [name_of_shown? hshown, h.name_of_record? hrecord]

theorem shownAt_holding {r : Release} (h : r.Rereads) (name : String) :
    d.shownAt MemoryStore.backing (MemoryStore.holding ns r) ns name =
      if r.name = name ∧ d.inScope r = true then some (d.toApplication (r.versioned "100")) else none := by
  rw [shownAt, MemoryStore.record?_holding h]
  by_cases hname : r.name = name
  · rw [if_pos hname, Option.bind_some, shown?_toStored (h.versioned "100"), d.inScope_versioned]
    simp only [hname, true_and]
  · rw [if_neg hname, if_neg fun hboth => hname hboth.1, Option.bind_none]

/-! ### Lists -/

variable (d b s ns) in
/-- Applications under the names of the records that they are shown of, each record at most once. -/
structure Listed (shown : List (String × Application)) : Prop where
  nodup : (shown.map (·.1)).Nodup
  shows : ∀ p ∈ shown, d.shownAt b s ns p.1 = some p.2

/-- The records of a list that can be shown. -/
private theorem shown_of_listed (h : b.Legible s ns) {listed : List (String × Json)}
    (hlisted : listed.Sublist (b.contents s ns).entries) :
    ∃ (records : List Record) (shown : List (String × Application)),
      (listed.map (·.2)).mapM Record.ofJson? = some records ∧
      records.filterMap d.shown? = shown.map (·.2) ∧ (shown.map (·.1)).Sublist (listed.map (·.1)) ∧
      (∀ p ∈ shown, d.shownAt b s ns p.1 = some p.2) ∧
      ∀ name app, name ∈ listed.map (·.1) → d.shownAt b s ns name = some app → (name, app) ∈ shown := by
  have hmem : ∀ e ∈ listed, e ∈ (b.contents s ns).entries := hlisted.subset
  clear hlisted
  induction listed with
  | nil => exact ⟨[], [], rfl, rfl, .refl _, by simp, by simp⟩
  | cons e rest ih =>
    obtain ⟨record, hread, hrecord⟩ := h.record_of_mem (hmem e (by simp))
    obtain ⟨records, shown, hrecords, hitems, hkeys, hshows, hall⟩ := ih fun e' he' => hmem e' (by simp [he'])
    have hshown : d.shownAt b s ns e.1 = d.shown? record := by rw [shownAt, hrecord, Option.bind_some]
    have hmapM : ((e :: rest).map (·.2)).mapM Record.ofJson? = some (record :: records) := by
      rw [List.map_cons, List.mapM_cons, hread, hrecords]
      rfl
    cases happ : d.shown? record with
    | none =>
      refine ⟨record :: records, shown, hmapM, ?_, hkeys.cons _, hshows, ?_⟩
      · rw [List.filterMap_cons_none happ, hitems]
      · intro name app hname hat
        rcases List.mem_cons.mp hname with rfl | hname
        · rw [hshown, happ] at hat
          cases hat
        · exact hall name app hname hat
    | some app =>
      refine ⟨record :: records, (e.1, app) :: shown, hmapM, ?_, hkeys.cons_cons _, ?_, ?_⟩
      · rw [List.filterMap_cons_some happ, hitems, List.map_cons]
      · intro p hp
        rcases List.mem_cons.mp hp with rfl | hp
        · exact hshown.trans happ
        · exact hshows p hp
      · intro name app' hname hat
        rcases List.mem_cons.mp hname with rfl | hname
        · rw [hshown, happ] at hat
          cases hat
          exact List.mem_cons_self
        · exact List.mem_cons_of_mem _ (hall name app' hname hat)

/-- A list of a legible namespace succeeds with applications that its records show, and with all of them when nothing is
selected. -/
theorem list_perform (h : b.Reads) (hns : ns ≠ "") (hlegible : b.Legible s ns) (options : ListOptions) :
    ∃ (list : ApplicationList) (shown : List (String × Application)),
      (d.perform b (some ns) (.list options) s).1 = .ok (.many list) ∧ list.items = shown.map (·.2) ∧
      d.Listed b s ns shown ∧
      (options.labels = none → options.fields = none →
        ∀ name app, d.shownAt b s ns name = some app → (name, app) ∈ shown) := by
  obtain ⟨version, listed, hsub, hwhole, hreply⟩ := h.list s ns options.labels options.fields
  obtain ⟨records, shown, hrecords, hitems, hkeys, hshows, hall⟩ := shown_of_listed (d := d) hlegible hsub
  have hnodup : (listed.map (·.1)).Nodup := (b.contents s ns).nodup.sublist (hsub.map _)
  have hlist : b.reply (.list ns options.labels options.fields) s = .ok ⟨version, records⟩ := by
    rw [hreply, MemoryStore.asList, hrecords]
  refine ⟨.ofItems d.application.kind version (records.filterMap d.shown?), shown, ?_, hitems,
    ⟨hnodup.sublist hkeys, hshows⟩, ?_⟩
  · rw [perform_list b hns, hlist]
    rfl
  · intro hlabels hfields name app happ
    refine hall name app ?_ happ
    obtain ⟨record, hrecord, -⟩ := Option.bind_eq_some_iff.mp happ
    obtain ⟨j, hj, -⟩ := Option.bind_eq_some_iff.mp hrecord
    rw [hwhole hlabels hfields]
    exact List.mem_map_of_mem (Directory.mem_of_lookup hj)

namespace Listed

variable {shown : List (String × Application)}

/-- Two applications have the same name only if the record of one lacks the prefix and that of the other adds it. -/
theorem pairwise (h : d.Listed b s ns shown) (hlegible : b.Legible s ns) :
    shown.Pairwise fun p q => p.2.name = q.2.name →
      (¬ d.names.Prefixed p.1 ∧ q.1 = d.names.toBacking p.1) ∨
        (¬ d.names.Prefixed q.1 ∧ p.1 = d.names.toBacking q.1) := by
  refine (List.pairwise_map.mp h.nodup).imp_of_mem fun {p q} hp hq hne hsame => ?_
  rw [name_of_shownAt hlegible (h.shows p hp), name_of_shownAt hlegible (h.shows q hq)] at hsame
  exact (d.names.eq_or_of_toSynthetic_eq hsame).resolve_left hne

/-- When all records have the prefix, no name is listed twice. -/
theorem names_nodup (h : d.Listed b s ns shown) (hlegible : b.Legible s ns)
    (hprefixed : ∀ p ∈ shown, d.names.Prefixed p.1) : (shown.map (·.2.name)).Nodup := by
  refine List.pairwise_map.mpr ((h.pairwise hlegible).imp_of_mem fun {p q} hp hq hshared hsame => ?_)
  rcases hshared hsame with ⟨hnot, -⟩ | ⟨hnot, -⟩
  · exact hnot (hprefixed p hp)
  · exact hnot (hprefixed q hq)

/-- When all records have the prefix, the item of a name is what the record with the prefixed name shows. -/
theorem find? {list : ApplicationList} (h : d.Listed b s ns shown) (hitems : list.items = shown.map (·.2))
    (hlegible : b.Legible s ns)
    (hprefixed : ∀ name app, d.shownAt b s ns name = some app → d.names.Prefixed name)
    (hall : ∀ name app, d.shownAt b s ns name = some app → (name, app) ∈ shown) (name : String) :
    list.find? name = d.shownAt b s ns (d.names.toBacking name) := by
  -- The name of an item leads back to its record, since all records have the prefix.
  have hitem : ∀ app ∈ list.items, app.name = name → d.shownAt b s ns (d.names.toBacking name) = some app := by
    intro app hmem hname
    rw [hitems] at hmem
    obtain ⟨p, hp, rfl⟩ := List.mem_map.mp hmem
    have hshows := h.shows p hp
    rw [← hname, name_of_shownAt hlegible hshows, d.names.toBacking_toSynthetic (hprefixed _ _ hshows)]
    exact hshows
  rw [ApplicationList.find?]
  cases hfind : list.items.find? (·.name == name) with
  | some app =>
    have hname : app.name = name := by simpa using List.find?_some hfind
    exact (hitem app (List.mem_of_find?_eq_some hfind) hname).symm
  | none =>
    cases happ : d.shownAt b s ns (d.names.toBacking name) with
    | none => rfl
    | some app =>
      have hmem : app ∈ list.items := by
        rw [hitems]
        exact List.mem_map_of_mem (hall _ _ happ)
      have hname : app.name = name := by
        rw [name_of_shownAt hlegible happ, d.names.toSynthetic_toBacking]
      exact absurd (beq_iff_eq.mpr hname) (List.find?_eq_none.mp hfind app hmem)

end Listed

/-! ### Gets -/

theorem fetched_of_ofRecord {operation : Operation} {name : String} {record : Record} {r : Release}
    (hr : Release.ofRecord record = .ok r) (hscope : d.inScope r = true) :
    d.fetched operation name (.ok record) = .ok r := by
  rw [fetched, Except.mapError_ok, Except.ok_bind, readInScope, readRelease, hr, Except.mapError_ok, Except.ok_bind,
    if_pos hscope]

/-- A get shows the record with the prefixed name, and fails when this shows nothing. -/
theorem get_perform (h : b.Reads) (hns : ns ≠ "") {name : String} {app : Application} :
    (d.perform b (some ns) (.get name) s).1 = .ok (.one app) ↔
      d.shownAt b s ns (d.names.toBacking name) = some app := by
  rw [perform_get b hns]
  constructor
  · intro hget
    obtain ⟨app', hshown, heq⟩ := Except.of_map_eq_ok hget
    cases heq
    obtain ⟨r, hfetched, rfl⟩ := Except.of_map_eq_ok hshown
    obtain ⟨record, hreply, hr, hscope⟩ := d.of_fetched hfetched
    cases hj : b.find? s ns (d.names.toBacking name) with
    | none =>
      obtain ⟨e, he⟩ := h.get_missing hj
      cases he.symm.trans hreply
    | some j =>
      obtain ⟨j', hj', hread⟩ := MemoryStore.asRecord_eq_ok ((h.get_present hj).symm.trans hreply)
      cases hj'
      rw [shownAt, BackingStore.record?, hj, Option.bind_some, hread, Option.bind_some, shown?_eq_some]
      exact ⟨r, hr, hscope, rfl⟩
  · intro happ
    obtain ⟨record, hrecord, hshown⟩ := Option.bind_eq_some_iff.mp happ
    obtain ⟨j, hj, hread⟩ := Option.bind_eq_some_iff.mp hrecord
    obtain ⟨r, hr, hscope, rfl⟩ := shown?_eq_some.mp hshown
    have hreply : b.reply (.get ns (d.names.toBacking name)) s = .ok record := by
      rw [h.get_present hj, MemoryStore.asRecord_ok, hread]
    rw [hreply, fetched_of_ofRecord hr hscope]
    rfl

end ResourceDefinition

end AppGateway
