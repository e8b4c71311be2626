import AppGateway.Proofs.Backing.Versions
import Std.Data.String.ToNat

/-!
# The store in memory obeys the laws

`MemoryStore.backing` is the store in memory as a `BackingStore`, on the states that are `Sound`: no two records have
the same key, and the metadata of every object has its members in key order.  Every call keeps a state sound
(`Sound.answer`).

What a call does to the state is said once (`effect`): it leaves the state, or it writes the object that it addresses,
or it removes it.  The laws `keyed_backing`, `versioned_backing` and `faithful_backing` follow from that.
-/

namespace AppGateway

namespace MemoryStore

open Directory (setEntry)

/-- The objects stored in a namespace under their names. -/
def entriesIn (ns : String) (records : List StoredRecord) : List (String × Json) :=
  (records.filter (·.ns == ns)).map fun r => (r.name, r.value)

private theorem entriesIn_cons (ns : String) (r : StoredRecord) (rest : List StoredRecord) :
    entriesIn ns (r :: rest) = if r.ns = ns then (r.name, r.value) :: entriesIn ns rest else entriesIn ns rest := by
  by_cases h : r.ns = ns <;> simp [entriesIn, h]

private theorem isAt_iff {r : StoredRecord} {ns name : String} :
    StoredRecord.isAt r ns name = true ↔ r.ns = ns ∧ r.name = name := by
  simp [StoredRecord.isAt]

private theorem find?_isAt_cons (ns name : String) (r : StoredRecord) (rest : List StoredRecord) :
    (r :: rest).find? (StoredRecord.isAt · ns name) =
      if r.ns = ns ∧ r.name = name then some r else rest.find? (StoredRecord.isAt · ns name) := by
  split
  · rename_i h
    simp [isAt_iff.mpr h]
  · rename_i h
    have hf : StoredRecord.isAt r ns name = false := by simpa using mt isAt_iff.mp h
    simp [hf]

private theorem lookup_entriesIn (ns name : String) (records : List StoredRecord) :
    (entriesIn ns records).lookup name = (records.find? (StoredRecord.isAt · ns name)).map (·.value) := by
  induction records with
  | nil => rfl
  | cons r rest ih =>
    rw [entriesIn_cons, find?_isAt_cons]
    by_cases hns : r.ns = ns
    · rw [if_pos hns, Directory.lookup_cons]
      by_cases hname : r.name = name
      · simp [hns, hname]
      · simp [hname, ih]
    · simp [hns, ih]

theorem find?_eq_lookup (s : MemoryStore) (ns name : String) :
    s.find? ns name = (entriesIn ns s.records).lookup name :=
  (lookup_entriesIn ns name s.records).symm

private theorem entriesIn_put {ns name : String} {records : List StoredRecord}
    (h : (entriesIn ns records).lookup name ≠ none) (j : Json) (ns' : String) :
    entriesIn ns' (put ns name j records) =
      if ns' = ns then setEntry name j (entriesIn ns records) else entriesIn ns' records := by
  induction records with
  | nil => exact absurd rfl h
  | cons r rest ih =>
    rw [put]
    by_cases hat : r.ns = ns ∧ r.name = name
    · obtain ⟨rfl, rfl⟩ := hat
      rw [if_pos (isAt_iff.mpr ⟨rfl, rfl⟩)]
      by_cases hns : ns' = r.ns
      · simp [entriesIn_cons, hns, setEntry]
      · simp [entriesIn_cons, hns, Ne.symm hns]
    · rw [if_neg (fun he => hat (isAt_iff.mp he))]
      have hrest : (entriesIn ns rest).lookup name ≠ none := by
        rwa [lookup_entriesIn, find?_isAt_cons, if_neg hat, ← lookup_entriesIn] at h
      rw [entriesIn_cons, ih hrest, entriesIn_cons, entriesIn_cons]
      by_cases hns' : ns' = ns
      · subst hns'
        by_cases hns : r.ns = ns'
        · have hname : r.name ≠ name := fun he => hat ⟨hns, he⟩
          simp [hns, setEntry, hname]
        · simp [hns]
      · simp [hns']

private theorem entriesIn_append {ns name : String} {records : List StoredRecord}
    (h : (entriesIn ns records).lookup name = none) (j : Json) (ns' : String) :
    entriesIn ns' (records ++ [⟨ns, name, j⟩]) =
      if ns' = ns then setEntry name j (entriesIn ns records) else entriesIn ns' records := by
  have happend : entriesIn ns' (records ++ [⟨ns, name, j⟩]) =
      entriesIn ns' records ++ entriesIn ns' [⟨ns, name, j⟩] := by simp [entriesIn]
  rw [happend]
  by_cases hns : ns' = ns
  · subst hns
    rw [if_pos rfl, Directory.setEntry_of_lookup_none h]
    simp [entriesIn]
  · rw [if_neg hns]
    simp [entriesIn, Ne.symm hns]

private theorem entriesIn_remove {ns : String} {records : List StoredRecord}
    (h : ((entriesIn ns records).map (·.1)).Nodup) (name ns' : String) :
    entriesIn ns' (remove ns name records) =
      if ns' = ns then (entriesIn ns records).filter (·.1 ≠ name) else entriesIn ns' records := by
  induction records with
  | nil => simp [remove, entriesIn]
  | cons r rest ih =>
    rw [remove]
    by_cases hat : r.ns = ns ∧ r.name = name
    · obtain ⟨rfl, rfl⟩ := hat
      rw [if_pos (isAt_iff.mpr ⟨rfl, rfl⟩)]
      rw [entriesIn_cons, if_pos rfl, List.map_cons, List.nodup_cons] at h
      by_cases hns : ns' = r.ns
      · -- No other record of the namespace has the name.
        have hkeep : (entriesIn r.ns rest).filter (·.1 ≠ r.name) = entriesIn r.ns rest := by
          rw [List.filter_eq_self]
          intro e he
          have hne : e.1 ≠ r.name := fun hn => h.1 (hn ▸ List.mem_map.mpr ⟨e, he, rfl⟩)
          simpa using hne
        rw [if_pos hns, hns, entriesIn_cons, if_pos rfl, List.filter_cons_of_neg (by simp), hkeep]
      · rw [if_neg hns, entriesIn_cons, if_neg (Ne.symm hns)]
    · rw [if_neg (fun he => hat (isAt_iff.mp he))]
      have hrest : ((entriesIn ns rest).map (·.1)).Nodup := by
        rw [entriesIn_cons] at h
        split at h
        · exact (List.nodup_cons.mp h).2
        · exact h
      rw [entriesIn_cons, ih hrest, entriesIn_cons, entriesIn_cons]
      by_cases hns' : ns' = ns
      · subst hns'
        by_cases hns : r.ns = ns'
        · have hname : r.name ≠ name := fun he => hat ⟨hns, he⟩
          simp [hns, hname]
        · simp [hns]
      · simp [hns']

/-! ### What a call does -/

/-- No two records have the same key, and all objects are tidy. -/
structure Sound (s : MemoryStore) : Prop where
  nodup : ∀ ns, ((entriesIn ns s.records).map (·.1)).Nodup
  tidy : ∀ ns, ∀ e ∈ entriesIn ns s.records, Tidy e.2

/-- A state in which an object was written. -/
structure Wrote (s : MemoryStore) (ns name : String) (j : Json) (s' : MemoryStore) : Prop where
  revision : s'.revision = s.revision + 1
  entries : ∀ ns', entriesIn ns' s'.records =
    if ns' = ns then setEntry name j (entriesIn ns s.records) else entriesIn ns' s.records

/-- A state in which an object was removed. -/
structure Removed (s : MemoryStore) (ns name : String) (s' : MemoryStore) : Prop where
  revision : s'.revision = s.revision
  entries : ∀ ns', entriesIn ns' s'.records =
    if ns' = ns then (entriesIn ns s.records).filter (·.1 ≠ name) else entriesIn ns' s.records

variable {s s' : MemoryStore} {ns name : String} {j : Json}

private theorem Sound.wrote (h : s.Sound) (hj : Tidy j) (hw : s.Wrote ns name j s') : s'.Sound where
  nodup ns' := by
    rw [hw.entries]
    split
    · exact Directory.nodup_setEntry (h.nodup ns)
    · exact h.nodup ns'
  tidy ns' e he := by
    rw [hw.entries] at he
    split at he
    · rcases Directory.mem_setEntry he with rfl | he
      · exact hj
      · exact h.tidy ns e he
    · exact h.tidy ns' e he

private theorem Sound.removed (h : s.Sound) (hr : s.Removed ns name s') : s'.Sound where
  nodup ns' := by
    rw [hr.entries]
    split
    · exact (h.nodup ns).sublist (List.filter_sublist.map _)
    · exact h.nodup ns'
  tidy ns' e he := by
    rw [hr.entries] at he
    split at he
    · exact h.tidy ns e (List.mem_of_mem_filter he)
    · exact h.tidy ns' e he

theorem wrote_overwrite {stored : Json} (h : s.find? ns name = some stored) (value : Json) :
    s.Wrote ns name (withVersion s.nextVersion value) (s.overwrite ns name value).2 where
  revision := rfl
  entries := entriesIn_put (by rw [← find?_eq_lookup, h]; simp) _

private theorem wrote_create {value : Json} (h : s.find? ns (metadataText value "name") = none) :
    s.Wrote ns (metadataText value "name") (withVersion s.nextVersion value) (s.create ns value).2 := by
  have hcreate : (s.create ns value).2 = { s with
      records := s.records ++ [⟨ns, metadataText value "name", withVersion s.nextVersion value⟩]
      revision := s.revision + 1 } := by
    simp [create, h]
  rw [hcreate]
  exact ⟨rfl, entriesIn_append (by rw [← find?_eq_lookup, h]) _⟩

private theorem removed_delete (hs : s.Sound) (h : s.find? ns name = some j) : s.Removed ns name (s.delete ns name).2 :=
    by
  have hdelete : (s.delete ns name).2 = { s with records := remove ns name s.records } := by simp [delete, h]
  rw [hdelete]
  exact ⟨rfl, entriesIn_remove (hs.nodup ns) name⟩

private theorem tidy_of_find? (hs : s.Sound) (h : s.find? ns name = some j) : Tidy j := by
  rw [find?_eq_lookup] at h
  exact hs.tidy ns _ (Directory.mem_of_lookup h)

private theorem replace_eq_of_missing (h : s.find? ns name = none) (value : Json) :
    s.replace ns name value = (.error (missing name), s) := by
  simp [replace, h]

private theorem replace_eq_of_stale (h : s.find? ns name = some j) {value : Json}
    (hv : metadataText value "resourceVersion" ≠ "" ∧ metadataText value "resourceVersion" ≠ storedVersion j) :
    s.replace ns name value = (.error (changed name), s) := by
  rw [storedVersion] at hv
  simp [replace, h, hv]

private theorem replace_eq_of_current (h : s.find? ns name = some j) {value : Json}
    (hv : ¬ (metadataText value "resourceVersion" ≠ "" ∧ metadataText value "resourceVersion" ≠ storedVersion j)) :
    s.replace ns name value = s.overwrite ns name value := by
  rw [storedVersion] at hv
  simp only [replace, h]
  exact if_neg hv

private theorem create_eq_of_present {value stored : Json} (h : s.find? ns (metadataText value "name") = some stored) :
    s.create ns value = (.error (present (metadataText value "name")), s) := by
  simp [create, h]

/-- A patch writes the object, merged or not, or finds none. -/
private theorem patch_effect (hs : s.Sound) (ns name : String) (document : Option Json) :
    (∃ e, s.patch ns name document = (.error e, s)) ∨
      ∃ base, Tidy base ∧ s.Wrote ns name (withVersion s.nextVersion base) (s.patch ns name document).2 := by
  cases h : s.find? ns name with
  | none => exact .inl ⟨missing name, by simp [patch, h]⟩
  | some stored =>
    have hstored := tidy_of_find? hs h
    cases document with
    | none =>
      have hpatch : s.patch ns name none = s.overwrite ns name stored := by simp [patch, h]
      exact .inr ⟨stored, hstored, hpatch ▸ wrote_overwrite h stored⟩
    | some document =>
      have hpatch : s.patch ns name (some document) = s.overwrite ns name (stored.merge document) := by
        simp [patch, h]
      exact .inr ⟨_, tidy_merge hstored document, hpatch ▸ wrote_overwrite h _⟩

/-- A call leaves the state and does not succeed in writing, or it writes or removes the object that it addresses. -/
theorem effect (hs : s.Sound) (c : BackingCall) :
    ((answer c s).2 = s ∧ (c.target? = none ∨ ∃ e, (answer c s).1 = .error e)) ∨
      (∃ ns name base, c.target? = some (ns, name) ∧ Tidy base ∧
        s.Wrote ns name (withVersion s.nextVersion base) (answer c s).2) ∨
      ∃ ns name, c.target? = some (ns, name) ∧ s.Removed ns name (answer c s).2 := by
  cases c with
  | list ns labels fields => exact .inl ⟨rfl, .inl rfl⟩
  | get ns name => exact .inl ⟨rfl, .inl rfl⟩
  | watch ns labels fields version => exact .inl ⟨rfl, .inl rfl⟩
  | create ns record =>
    cases h : s.find? ns (metadataText record.toJson "name") with
    | some stored =>
      simp only [answer, create_eq_of_present h]
      exact .inl ⟨rfl, .inr ⟨_, rfl⟩⟩
    | none =>
      refine .inr (.inl ⟨ns, record.name, record.toJson, rfl, tidy_toJson record, ?_⟩)
      have hw := wrote_create h
      rwa [name_toJson] at hw
  | replace ns name record =>
    cases h : s.find? ns name with
    | none =>
      simp only [answer, replace_eq_of_missing h]
      exact .inl ⟨rfl, .inr ⟨_, rfl⟩⟩
    | some stored =>
      by_cases hv : metadataText record.toJson "resourceVersion" ≠ "" ∧
          metadataText record.toJson "resourceVersion" ≠ storedVersion stored
      · simp only [answer, replace_eq_of_stale h hv]
        exact .inl ⟨rfl, .inr ⟨_, rfl⟩⟩
      · simp only [answer, replace_eq_of_current h hv]
        exact .inr (.inl ⟨ns, name, record.toJson, rfl, tidy_toJson record, wrote_overwrite h _⟩)
  | patch ns name p =>
    have hpatch : ∃ document, (answer (.patch ns name p) s) = (s.patch ns name document).map asRecord id := by
      cases p with
      -- Only the version is new: such patches are not applied in memory.
      | json operations => exact ⟨none, rfl⟩
      | merge document => exact ⟨some document, rfl⟩
      | strategic document => exact ⟨some document, rfl⟩
      | apply document => exact ⟨some document, rfl⟩
    obtain ⟨document, hdocument⟩ := hpatch
    rw [hdocument]
    rcases patch_effect hs ns name document with ⟨e, he⟩ | ⟨base, hbase, hw⟩
    · rw [he]
      exact .inl ⟨rfl, .inr ⟨e, rfl⟩⟩
    · exact .inr (.inl ⟨ns, name, base, rfl, hbase, hw⟩)
  | delete ns name =>
    cases h : s.find? ns name with
    | none =>
      simp only [answer, delete, h]
      exact .inl ⟨trivial, .inr ⟨_, rfl⟩⟩
    | some stored => exact .inr (.inr ⟨ns, name, rfl, removed_delete hs h⟩)

/-- Every call keeps a state sound. -/
theorem Sound.answer (hs : s.Sound) (c : BackingCall) : (MemoryStore.answer c s).2.Sound := by
  rcases effect hs c with ⟨h, _⟩ | ⟨_, _, _, _, hbase, hw⟩ | ⟨_, _, _, hr⟩
  · rw [h]
    exact hs
  · exact hs.wrote (tidy_withVersion hbase _) hw
  · exact hs.removed hr

/-! ### The laws -/

/-- The versions given out so far. -/
def Issued (s : {s : MemoryStore // s.Sound}) (v : String) : Prop := ∃ n ≤ s.1.revision, v = toString n

/-- The store in memory. -/
def backing : BackingStore {s : MemoryStore // s.Sound} where
  answer c s := ((answer c s.1).1, ⟨(answer c s.1).2, s.2.answer c⟩)
  contents s ns := ⟨entriesIn ns s.1.records, s.2.nodup ns⟩

/-- What the store in memory holds is found as it is looked up. -/
theorem backing_find? (s : {s : MemoryStore // s.Sound}) (ns name : String) :
    backing.find? s ns name = s.1.find? ns name :=
  (find?_eq_lookup s.1 ns name).symm

section

variable {s s' : {s : MemoryStore // s.Sound}}

/-- A write puts its object under its name and leaves all else as it is. -/
theorem contents_wrote (hw : s.1.Wrote ns name j s'.1) (ns' : String) :
    backing.contents s' ns' = if ns' = ns then (backing.contents s ns).set name j else backing.contents s ns' := by
  refine Directory.ext_entries ((hw.entries ns').trans ?_)
  split <;> rfl

/-- A removal takes the object of a name out and leaves all else as it is. -/
theorem contents_removed (hr : s.1.Removed ns name s'.1) (ns' : String) :
    backing.contents s' ns' = if ns' = ns then (backing.contents s ns).erase name else backing.contents s ns' := by
  refine Directory.ext_entries ((hr.entries ns').trans ?_)
  split <;> rfl

private theorem find?_wrote (hw : s.1.Wrote ns name j s'.1) (ns' name' : String) :
    backing.find? s' ns' name' = if ns' = ns ∧ name' = name then some j else backing.find? s ns' name' :=
  BackingStore.find?_of_contents (contents_wrote hw) (Directory.find?_set _ _ _) ns' name'

private theorem find?_removed (hr : s.1.Removed ns name s'.1) (ns' name' : String) :
    backing.find? s' ns' name' = if ns' = ns ∧ name' = name then none else backing.find? s ns' name' :=
  BackingStore.find?_of_contents (contents_removed hr) (Directory.find?_erase _ _) ns' name'

private theorem nextVersion_ne_empty (s : MemoryStore) : s.nextVersion ≠ "" := Nat.repr_ne_empty

private theorem not_issued_nextVersion (s : {s : MemoryStore // s.Sound}) : ¬ Issued s s.1.nextVersion := by
  rintro ⟨n, hn, he⟩
  have hlt : s.1.revision + 1 = n := Nat.repr_injective he
  omega

private theorem issued_of_wrote (hw : s.1.Wrote ns name j s'.1) : Issued s' s.1.nextVersion :=
  ⟨s.1.revision + 1, Nat.le_of_eq hw.revision.symm, rfl⟩

end

theorem sound_empty : ({} : MemoryStore).Sound where
  nodup _ := List.nodup_nil
  tidy _ _ he := by cases he

/-- The store that holds one object, which has the version that numbers start from. -/
def single (ns name : String) (j : Json) : MemoryStore where
  records := [⟨ns, name, withVersion "100" j⟩]

theorem entriesIn_single (ns name : String) (j : Json) (ns' : String) :
    entriesIn ns' (single ns name j).records = if ns = ns' then [(name, withVersion "100" j)] else [] :=
  entriesIn_cons ns' ⟨ns, name, withVersion "100" j⟩ []

/-- A store of one tidy object is sound. -/
theorem sound_single (ns name : String) (hj : Tidy j) : (single ns name j).Sound where
  nodup ns' := by
    rw [entriesIn_single]
    split <;> simp
  tidy ns' e he := by
    rw [entriesIn_single] at he
    split at he
    · rw [List.mem_singleton.mp he]
      exact tidy_withVersion hj "100"
    · cases he

theorem stamped_single (ns name : String) (hj : Tidy j) :
    backing.Stamped Issued ⟨single ns name j, sound_single ns name hj⟩ := by
  intro ns' name' j' hfind
  rw [backing_find?, find?_eq_lookup, entriesIn_single] at hfind
  split at hfind
  · have hmem := Directory.mem_of_lookup hfind
    cases List.mem_singleton.mp hmem
    rw [storedVersion_withVersion]
    exact ⟨by decide, 100, Nat.le_refl 100, rfl⟩
  · cases hfind

/-- The store that holds these records in a namespace, with the versions that they have. -/
def ofRecords (ns : String) (records : List Record) : MemoryStore where
  records := records.map fun r => ⟨ns, r.name, r.toJson⟩

theorem entriesIn_ofRecords (ns : String) (records : List Record) (ns' : String) :
    entriesIn ns' (ofRecords ns records).records = if ns = ns' then records.map fun r => (r.name, r.toJson) else [] := by
  show entriesIn ns' (records.map fun r => (⟨ns, r.name, r.toJson⟩ : StoredRecord)) = _
  induction records with
  | nil => simp [entriesIn]
  | cons r rest ih =>
    rw [List.map_cons, entriesIn_cons, ih]
    split <;> rfl

theorem sound_ofRecords (ns : String) {records : List Record} (h : (records.map Record.name).Nodup) :
    (ofRecords ns records).Sound where
  nodup ns' := by
    rw [entriesIn_ofRecords]
    split
    · rwa [List.map_map]
    · exact List.nodup_nil
  tidy ns' e he := by
    rw [entriesIn_ofRecords] at he
    split at he
    · obtain ⟨r, -, rfl⟩ := List.mem_map.mp he
      exact tidy_toJson r
    · cases he

variable {s : {s : MemoryStore // s.Sound}}

theorem asRecord_eq_ok {answer : Except BackingError Json} {record : Record} (h : asRecord answer = .ok record) :
    ∃ j, answer = .ok j ∧ Record.ofJson? j = some record := by
  cases answer with
  | error e => cases h
  | ok j =>
    refine ⟨j, rfl, ?_⟩
    rw [asRecord_ok] at h
    split at h
    · rename_i r hr
      rwa [← Except.ok.inj h]
    · cases h

private theorem backing_answer_of_kept {c : BackingCall} {r : c.Answer} (h : answer c s.1 = (r, s.1)) :
    backing.answer c s = (r, s) := by
  have hreply : (answer c s.1).1 = r := by rw [h]
  have hstate : (answer c s.1).2 = s.1 := by rw [h]
  exact Prod.ext hreply (Subtype.ext hstate)

theorem backing_create_of_present {record : Record} (h : backing.find? s ns record.name = some j) :
    backing.answer (.create ns record) s = (.error (present record.name), s) := by
  rw [backing_find?, ← name_toJson] at h
  refine backing_answer_of_kept ?_
  rw [answer, create_eq_of_present h, name_toJson]
  rfl

/-- The store in memory is a map from namespaces and names to objects. -/
theorem keyed_backing : backing.Keyed where
  get_stored {s ns name record} h := by
    obtain ⟨j, hj, hrecord⟩ := asRecord_eq_ok h
    refine ⟨j, ?_, hrecord⟩
    rw [backing_find?]
    cases hfind : s.1.find? ns name with
    | none => simp [get, hfind] at hj
    | some stored => simpa [get, hfind] using hj
  create_present {s ns record j} h := by
    rw [BackingStore.reply, BackingStore.after, backing_create_of_present h]
    exact ⟨⟨_, rfl⟩, h⟩
  elsewhere {c s ns name} hc := by
    rcases effect s.2 c with ⟨h, _⟩ | ⟨ns', name', base, ht, _, hw⟩ | ⟨ns', name', ht, hr⟩
    · rw [backing_find?, backing_find?]
      exact congrArg (find? · ns name) h
    · rw [find?_wrote hw, if_neg fun hat => hc (by rw [ht, hat.1, hat.2])]
    · rw [find?_removed hr, if_neg fun hat => hc (by rw [ht, hat.1, hat.2])]

private theorem backing_replace_of_missing {record : Record} (h : backing.find? s ns name = none) :
    backing.answer (.replace ns name record) s = (.error (missing name), s) := by
  rw [backing_find?] at h
  refine backing_answer_of_kept ?_
  rw [answer, replace_eq_of_missing h]
  rfl

private theorem backing_replace_of_stale {record : Record} {v : String} (h : backing.find? s ns name = some j)
    (hr : record.metadata.resourceVersion = some v) (hv : v ≠ "") (hne : v ≠ storedVersion j) :
    backing.answer (.replace ns name record) s = (.error (changed name), s) := by
  rw [backing_find?] at h
  have hsent : metadataText record.toJson "resourceVersion" = v := by rw [resourceVersion_toJson, hr, Option.getD_some]
  refine backing_answer_of_kept ?_
  rw [answer, replace_eq_of_stale h (by rw [hsent]; exact ⟨hv, hne⟩)]
  rfl

/-- It gives every write a version of its own. -/
theorem versioned_backing : backing.Versioned Issued where
  toKeyed := keyed_backing
  get_version {s ns name record j} h hj := by
    obtain ⟨j', hj', hrecord⟩ := keyed_backing.get_stored h
    rw [hj, Option.some.injEq] at hj'
    subst hj'
    rw [backing_find?] at hj
    exact resourceVersion_of_ofJson? (tidy_of_find? s.2 hj) hrecord
  issued_mono {s v} c h := by
    obtain ⟨n, hn, rfl⟩ := h
    have hle : s.1.revision ≤ (backing.after c s).1.revision := by
      rcases effect s.2 c with ⟨h, _⟩ | ⟨_, _, _, _, _, hw⟩ | ⟨_, _, _, hr⟩
      · exact Nat.le_of_eq (congrArg revision h.symm)
      · exact Nat.le_trans (Nat.le_succ _) (Nat.le_of_eq hw.revision.symm)
      · exact Nat.le_of_eq hr.revision.symm
    exact ⟨n, Nat.le_trans hn hle, rfl⟩
  written {c s ns name j} h hj := by
    obtain ⟨ht, hdone⟩ := h
    rcases effect s.2 c with ⟨hkept, hfail⟩ | ⟨ns', name', base, ht', _, hw⟩ | ⟨ns', name', ht', hr⟩
    · -- A call that leaves the state and fails writes nothing.
      rcases hdone with ⟨result, hresult⟩ | hchange
      · rcases hfail with hnone | ⟨e, he⟩
        · simp [hnone] at ht
        · cases hresult.symm.trans he
      · refine absurd ?_ hchange
        rw [backing_find?, backing_find?]
        exact congrArg (find? · ns name) hkept
    · rw [ht] at ht'
      cases ht'
      rw [find?_wrote hw, if_pos ⟨rfl, rfl⟩, Option.some.injEq] at hj
      rw [← hj, storedVersion_withVersion]
      exact ⟨nextVersion_ne_empty _, not_issued_nextVersion s, issued_of_wrote hw⟩
    · rw [ht] at ht'
      cases ht'
      rw [find?_removed hr, if_pos ⟨rfl, rfl⟩] at hj
      cases hj
  replace_missing {s ns name record} h := by
    rw [BackingStore.reply, BackingStore.after, backing_replace_of_missing h]
    exact ⟨⟨_, rfl⟩, h⟩
  replace_stale {s ns name record j v} h hr hv hne := by
    rw [BackingStore.reply, BackingStore.after, backing_replace_of_stale h hr hv hne]
    exact ⟨⟨_, rfl⟩, h⟩

private theorem backing_get (s : {s : MemoryStore // s.Sound}) (ns name : String) :
    backing.answer (.get ns name) s = (asRecord (s.1.get ns name), s) := rfl

private theorem backing_delete_of_missing (h : backing.find? s ns name = none) :
    backing.answer (.delete ns name) s = (.error (missing name), s) := by
  rw [backing_find?] at h
  refine backing_answer_of_kept ?_
  rw [answer, delete, h]

/-- An error of the interface that leaves the state is a refusal with its code. -/
private theorem refuses_of_answer {c : BackingCall} {e : ErrorResponse} (h : backing.answer c s = (.error (.api e), s)) :
    backing.Refuses s ns c e.code := by
  rw [BackingStore.Refuses, BackingStore.reply, BackingStore.after, h]
  exact ⟨⟨e, rfl, rfl⟩, rfl⟩

/-- A write that is answered with its object has given it a new version and put it under its name. -/
private theorem numbered_of_wrote {c : BackingCall} {record : Record} {reply : Except BackingError Record}
    (hw : s.1.Wrote ns name (withVersion s.1.nextVersion record.toJson) (backing.after c s).1)
    (hreply : reply = asRecord (.ok (withVersion s.1.nextVersion record.toJson))) :
    ∃ v, v ≠ "" ∧ ¬ Issued s v ∧ Issued (backing.after c s) v ∧
      reply = asRecord (.ok (withVersion v record.toJson)) ∧
      backing.contents (backing.after c s) ns = (backing.contents s ns).set name (withVersion v record.toJson) := by
  refine ⟨s.1.nextVersion, nextVersion_ne_empty _, not_issued_nextVersion s, issued_of_wrote hw, hreply, ?_⟩
  rw [contents_wrote hw, if_pos rfl]

/-- What names no version, or the stored one, is not refused for its version. -/
private theorem not_stale {record : Record}
    (hv : ∀ v, record.metadata.resourceVersion = some v → v = "" ∨ v = storedVersion j) :
    ¬ (metadataText record.toJson "resourceVersion" ≠ "" ∧
      metadataText record.toJson "resourceVersion" ≠ storedVersion j) := by
  rw [resourceVersion_toJson]
  cases hr : record.metadata.resourceVersion with
  | none => simp
  | some v =>
    have hcases := hv v hr
    simp only [Option.getD_some]
    tauto

/-- It does with every call what a map does. -/
theorem faithful_backing : backing.Faithful Issued where
  issued_mono := versioned_backing.issued_mono
  get_missing {s ns name} h := by
    rw [backing_find?] at h
    have hanswer : backing.answer (.get ns name) s = (.error (missing name), s) := by
      rw [backing_get, get, h]
      rfl
    exact refuses_of_answer hanswer
  get_present {s ns name j} h := by
    rw [backing_find?] at h
    rw [BackingStore.reply, BackingStore.after, backing_get, get, h]
    exact ⟨rfl, rfl⟩
  list_all s ns := by
    refine ⟨⟨s.1.listRevision, ?_⟩, rfl⟩
    show asList s.1.listRevision (s.1.list ns) = asList s.1.listRevision ((entriesIn ns s.1.records).map (·.2))
    rw [list, entriesIn, List.map_map]
    rfl
  create_present h := refuses_of_answer (backing_create_of_present h)
  create_absent {s ns record} h := by
    rw [backing_find?, ← name_toJson] at h
    have hw := wrote_create h
    rw [name_toJson] at hw
    have hreply : (s.1.create ns record.toJson).1 = .ok (withVersion s.1.nextVersion record.toJson) := by
      simp [create, h]
    exact numbered_of_wrote hw (congrArg asRecord hreply)
  replace_missing h := refuses_of_answer (backing_replace_of_missing h)
  replace_stale h hr hv hne := refuses_of_answer (backing_replace_of_stale h hr hv hne)
  replace_current {s ns name record j} h hv := by
    rw [backing_find?] at h
    have hanswer : MemoryStore.answer (.replace ns name record) s.1 =
        (s.1.overwrite ns name record.toJson).map asRecord id := by
      rw [answer, replace_eq_of_current h (not_stale hv)]
    have hw : s.1.Wrote ns name (withVersion s.1.nextVersion record.toJson)
        (backing.after (.replace ns name record) s).1 := by
      show s.1.Wrote _ _ _ (MemoryStore.answer (.replace ns name record) s.1).2
      rw [hanswer]
      exact wrote_overwrite h record.toJson
    exact numbered_of_wrote hw (congrArg Prod.fst hanswer)
  delete_missing h := refuses_of_answer (backing_delete_of_missing h)
  delete_present {s ns name j} h := by
    rw [backing_find?] at h
    have hr : s.1.Removed ns name (backing.after (.delete ns name) s).1 := removed_delete s.2 h
    refine ⟨?_, ?_⟩
    · show (s.1.delete ns name).1 = _
      simp [delete, h]
    · rw [contents_removed hr, if_pos rfl]

end MemoryStore

end AppGateway
