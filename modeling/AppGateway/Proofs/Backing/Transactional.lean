import AppGateway.Proofs.Backing.History
import AppGateway.Proofs.Backing.Memory

/-!
# A store whose failed calls leave no trace

`BackingStore.Transactional` is what the gateway needs so that a call of its own either does all it should or nothing:
a call that is answered with an error has changed nothing, and one that is answered with success has put one object, or
removed one.

* `Stored.differAt`, `Erased.differAt`: after a write, exactly the record that it names differs;
* (instance) `MemoryStore.transactional_undoing`: the store in memory, when it takes back a write whose answer it cannot
  read.
-/

namespace AppGateway

namespace BackingStore

variable {σ : Type} (b : BackingStore σ)

/-- Two states differ in one record and in no other. -/
def DifferAt (s s' : σ) (ns name : String) : Prop :=
  ∀ ns' name', b.find? s' ns' name' ≠ b.find? s ns' name' ↔ ns' = ns ∧ name' = name

/-- A state in which the object of a record was put, with a version that the object before it did not have. -/
structure Stored (s s' : σ) (ns name version : String) (record answer : Record) : Prop where
  fresh : ∀ j, b.find? s ns name = some j → storedVersion j ≠ version
  answered : Record.ofJson? (MemoryStore.withVersion version record.toJson) = some answer
  contents : ∀ ns', b.contents s' ns' =
    if ns' = ns then (b.contents s ns).set name (MemoryStore.withVersion version record.toJson)
    else b.contents s ns'

/-- A state in which an object was removed. -/
def Erased (s s' : σ) (ns name : String) : Prop :=
  ∀ ns', b.contents s' ns' = if ns' = ns then (b.contents s ns).erase name else b.contents s ns'

/-- A call changes nothing when it fails, and what it says when it succeeds. -/
structure Transactional : Prop where
  error_keeps : ∀ {c s e}, b.reply c s = .error e → b.contents (b.after c s) = b.contents s
  get_ok : ∀ {s ns name record}, b.reply (.get ns name) s = .ok record →
    b.contents (b.after (.get ns name) s) = b.contents s ∧
      ∃ j, b.find? s ns name = some j ∧ Record.ofJson? j = some record
  create_present : ∀ {s ns record j}, b.find? s ns record.name = some j →
    ∃ e, b.reply (.create ns record) s = .error e
  create_ok : ∀ {s ns record answer}, b.reply (.create ns record) s = .ok answer →
    ∃ version, b.Stored s (b.after (.create ns record) s) ns record.name version record answer
  replace_ok : ∀ {s ns name record answer}, b.reply (.replace ns name record) s = .ok answer →
    ∃ version, b.Stored s (b.after (.replace ns name record) s) ns name version record answer
  delete_ok : ∀ {s ns name}, b.reply (.delete ns name) s = .ok () →
    b.Erased s (b.after (.delete ns name) s) ns name

variable {b} {s s' : σ} {ns name version : String} {record answer : Record}

theorem Stored.find? (h : b.Stored s s' ns name version record answer) (ns' name' : String) :
    b.find? s' ns' name' = if ns' = ns ∧ name' = name then
      some (MemoryStore.withVersion version record.toJson) else b.find? s ns' name' :=
  find?_of_contents h.contents (Directory.find?_set _ _ _) ns' name'

theorem Erased.find? (h : b.Erased s s' ns name) (ns' name' : String) :
    b.find? s' ns' name' = if ns' = ns ∧ name' = name then none else b.find? s ns' name' :=
  find?_of_contents h (Directory.find?_erase _ _) ns' name'

theorem Stored.differAt (h : b.Stored s s' ns name version record answer) : b.DifferAt s s' ns name := by
  intro ns' name'
  rw [h.find?]
  by_cases hat : ns' = ns ∧ name' = name
  · obtain ⟨rfl, rfl⟩ := hat
    simp only [and_self, if_true, iff_true]
    -- The object put has the new version, and the one before it has another.
    intro heq
    refine h.fresh _ heq.symm ?_
    exact MemoryStore.storedVersion_withVersion _ _
  · simp [hat]

theorem Erased.differAt (h : b.Erased s s' ns name) {j : Json} (hj : b.find? s ns name = some j) :
    b.DifferAt s s' ns name := by
  intro ns' name'
  rw [h.find?]
  by_cases hat : ns' = ns ∧ name' = name
  · obtain ⟨rfl, rfl⟩ := hat
    simp [hj]
  · simp [hat]

/-- What is found depends on the contents alone. -/
theorem find?_of_contents_eq (h : b.contents s' = b.contents s) (ns name : String) :
    b.find? s' ns name = b.find? s ns name := by
  rw [BackingStore.find?, h, BackingStore.find?]

theorem Stored.of_contents_eq {s₀ : σ} (hs : b.contents s₀ = b.contents s)
    (h : b.Stored s₀ s' ns name version record answer) : b.Stored s s' ns name version record answer where
  fresh j hj := h.fresh j ((find?_of_contents_eq hs ns name).trans hj)
  answered := h.answered
  contents ns' := by rw [h.contents, hs]

/-- A get changes nothing, whether it succeeds or not. -/
theorem Transactional.contents_after_get (h : b.Transactional) (s : σ) (ns name : String) :
    b.contents (b.after (.get ns name) s) = b.contents s := by
  cases hreply : b.reply (.get ns name) s with
  | error e => exact h.error_keeps hreply
  | ok record => exact (h.get_ok hreply).1

end BackingStore

namespace MemoryStore

/-- The store in memory, which goes back to where it was when it has to answer an error.  All versions that are stored
were given out by the store. -/
def undoing : BackingStore {s : {s : MemoryStore // s.Sound} // backing.Stamped Issued s} where
  answer c s := (backing.reply c s.1,
    match backing.reply c s.1 with
    | .ok _ => ⟨backing.after c s.1, s.2.after versioned_backing c⟩
    | .error _ => s)
  contents s := backing.contents s.1

/-- A call changes nothing in other namespaces. -/
theorem backing_contents_elsewhere {c : BackingCall} {ns' : String}
    (h : ∀ ns name, c.target? = some (ns, name) → ns' ≠ ns) (s : {s : MemoryStore // s.Sound}) :
    backing.contents (backing.after c s) ns' = backing.contents s ns' := by
  rcases effect s.2 c with ⟨hkept, -⟩ | ⟨ns, name, base, ht, -, hw⟩ | ⟨ns, name, ht, hr⟩
  · have hsame : backing.after c s = s := Subtype.ext hkept
    rw [hsame]
  · rw [contents_wrote hw, if_neg (h ns name ht)]
  · rw [contents_removed hr, if_neg (h ns name ht)]

section

variable {c : BackingCall} {s : {s : {s : MemoryStore // s.Sound} // backing.Stamped Issued s}}

theorem undoing_contents_of_ok {result : c.Result} (h : backing.reply c s.1 = .ok result) :
    undoing.contents (undoing.after c s) = backing.contents (backing.after c s.1) := by
  simp [BackingStore.after, undoing, h]

private theorem undoing_contents_of_error {e : BackingError} (h : backing.reply c s.1 = .error e) :
    undoing.contents (undoing.after c s) = undoing.contents s := by
  simp [BackingStore.after, undoing, h]

end

/-- A write that the store in memory answers with success has put what was sent. -/
private theorem stored_undoing {c : BackingCall} {ns name version : String} {record answer : Record}
    {s : {s : {s : MemoryStore // s.Sound} // backing.Stamped Issued s}} (htarget : c.target? = some (ns, name))
    {result : c.Result} (hok : backing.reply c s.1 = .ok result) (hnew : ¬ Issued s.1 version)
    (hanswer : asRecord (.ok (withVersion version record.toJson)) = .ok answer)
    (hcontents : backing.contents (backing.after c s.1) ns =
      (backing.contents s.1 ns).set name (withVersion version record.toJson)) :
    undoing.Stored s (undoing.after c s) ns name version record answer where
  fresh j hj hv := hnew (hv ▸ (s.2 ns name j hj).2)
  answered := by
    obtain ⟨j, hj, hrecord⟩ := asRecord_eq_ok hanswer
    cases hj
    exact hrecord
  contents ns' := by
    rw [undoing_contents_of_ok hok]
    by_cases hns : ns' = ns
    · subst hns
      rw [if_pos rfl, hcontents]
      rfl
    · rw [if_neg hns]
      refine backing_contents_elsewhere (fun ns₀ name₀ ht => ?_) s.1
      cases htarget.symm.trans ht
      exact hns

/-- The store in memory leaves nothing of a call that fails, when it takes back a write whose answer it cannot read. -/
theorem transactional_undoing : undoing.Transactional where
  error_keeps h := undoing_contents_of_error h
  get_ok {s ns name record} h := by
    refine ⟨?_, keyed_backing.get_stored h⟩
    rw [undoing_contents_of_ok h]
    funext ns'
    exact backing_contents_elsewhere (fun _ _ ht => by cases ht) s.1
  create_present h := (keyed_backing.create_present h).1
  create_ok {s ns record answer} h := by
    have h : backing.reply (.create ns record) s.1 = .ok answer := h
    cases hfind : backing.find? s.1 ns record.name with
    | some j =>
      obtain ⟨⟨e, he⟩, -⟩ := keyed_backing.create_present hfind
      cases he.symm.trans h
    | none =>
      obtain ⟨version, -, hnew, -, hreply, hcontents⟩ := faithful_backing.create_absent hfind
      exact ⟨version, stored_undoing rfl h hnew (hreply.symm.trans h) hcontents⟩
  replace_ok {s ns name record answer} h := by
    have h : backing.reply (.replace ns name record) s.1 = .ok answer := h
    cases hfind : backing.find? s.1 ns name with
    | none =>
      have hrefused : backing.Refuses s.1 ns (.replace ns name record) 404 := faithful_backing.replace_missing hfind
      obtain ⟨⟨e, -, he⟩, -⟩ := hrefused
      cases he.symm.trans h
    | some j =>
      by_cases hcurrent : ∀ v, record.metadata.resourceVersion = some v → v = "" ∨ v = storedVersion j
      · obtain ⟨version, -, hnew, -, hreply, hcontents⟩ := faithful_backing.replace_current hfind hcurrent
        exact ⟨version, stored_undoing rfl h hnew (hreply.symm.trans h) hcontents⟩
      · push Not at hcurrent
        obtain ⟨v, hv, hne, hstale⟩ := hcurrent
        obtain ⟨⟨e, -, he⟩, -⟩ := faithful_backing.replace_stale hfind hv hne hstale
        cases he.symm.trans h
  delete_ok {s ns name} h ns' := by
    have h : backing.reply (.delete ns name) s.1 = .ok () := h
    rw [undoing_contents_of_ok h]
    by_cases hns : ns' = ns
    · subst hns
      rw [if_pos rfl]
      cases hfind : backing.find? s.1 ns' name with
      | none =>
        obtain ⟨⟨e, -, he⟩, -⟩ := faithful_backing.delete_missing hfind
        cases he.symm.trans h
      | some j => exact (faithful_backing.delete_present hfind).2
    · rw [if_neg hns]
      refine backing_contents_elsewhere (fun ns₀ name₀ ht => ?_) s.1
      cases ht
      exact hns

end MemoryStore

end AppGateway
