import AppGateway.Proofs.Backing.Transactional

/-!
# A store that merges patches

`BackingStore.Merging` is what a store does with a merge patch: the object that is stored afterwards is the one from
before, merged with the document, under a new version.  As of any call, nothing is left of a patch that fails.

* (lookup) `Merged.find?`: a merge changes the one object that it is about;
* (instance) `MemoryStore.merging_undoing`: the store in memory, when it takes back a write whose answer it cannot
  read.
-/

namespace AppGateway

namespace BackingStore

variable {σ : Type} (b : BackingStore σ)

/-- A state in which a document was merged into the object of a record. -/
structure Merged (s s' : σ) (ns name version : String) (j document : Json) (answer : Record) : Prop where
  found : b.find? s ns name = some j
  answered : Record.ofJson? (MemoryStore.withVersion version (j.merge document)) = some answer
  contents : ∀ ns', b.contents s' ns' =
    if ns' = ns then (b.contents s ns).set name (MemoryStore.withVersion version (j.merge document))
    else b.contents s ns'

/-- The store merges patches into what it holds, and a get shows every record. -/
structure Merging : Prop extends b.Transactional where
  get_present : ∀ {s ns name j record}, b.find? s ns name = some j → Record.ofJson? j = some record →
    b.reply (.get ns name) s = .ok record
  merge_ok : ∀ {s ns name document answer}, b.reply (.patch ns name (.merge document)) s = .ok answer →
    ∃ version j, b.Merged s (b.after (.patch ns name (.merge document)) s) ns name version j document answer

variable {b} {s s' : σ} {ns name version : String} {j document : Json} {answer : Record}

theorem Merged.find? (h : b.Merged s s' ns name version j document answer) (ns' name' : String) :
    b.find? s' ns' name' = if ns' = ns ∧ name' = name then
      some (MemoryStore.withVersion version (j.merge document)) else b.find? s ns' name' :=
  find?_of_contents h.contents (Directory.find?_set _ _ _) ns' name'

theorem Merged.find?_self (h : b.Merged s s' ns name version j document answer) :
    b.find? s' ns name = some (MemoryStore.withVersion version (j.merge document)) :=
  (h.find? ns name).trans (if_pos ⟨rfl, rfl⟩)

theorem Merged.of_contents_eq {s₀ : σ} (hs : b.contents s₀ = b.contents s)
    (h : b.Merged s₀ s' ns name version j document answer) : b.Merged s s' ns name version j document answer where
  found := (find?_of_contents_eq hs ns name).symm.trans h.found
  answered := h.answered
  contents ns' := by rw [h.contents, hs]

end BackingStore

namespace MemoryStore

/-- The store in memory merges patches, when it takes back a write whose answer it cannot read. -/
theorem merging_undoing : undoing.Merging where
  toTransactional := transactional_undoing
  get_present {s ns name j record} hj hrecord := by
    have hreply : backing.reply (.get ns name) s.1 = asRecord (.ok j) := (faithful_backing.get_present hj).1
    rw [asRecord_ok, hrecord] at hreply
    exact hreply
  merge_ok {s ns name document answer} h := by
    have hok : backing.reply (.patch ns name (.merge document)) s.1 = .ok answer := h
    cases hfind : s.1.1.find? ns name with
    | none =>
      have hmissing : backing.reply (.patch ns name (.merge document)) s.1 = .error (missing name) := by
        simp only [BackingStore.reply, backing, MemoryStore.answer, patch, hfind]
        rfl
      cases hmissing.symm.trans hok
    | some j =>
      have hpatch : MemoryStore.answer (.patch ns name (.merge document)) s.1.1 =
          (s.1.1.overwrite ns name (j.merge document)).map asRecord id := by
        simp only [MemoryStore.answer, patch, hfind]
        rfl
      have hreply : asRecord (.ok (withVersion s.1.1.nextVersion (j.merge document))) = .ok answer :=
        (congrArg Prod.fst hpatch).symm.trans hok
      have hwrote : s.1.1.Wrote ns name (withVersion s.1.1.nextVersion (j.merge document))
          (backing.after (.patch ns name (.merge document)) s.1).1 := by
        show s.1.1.Wrote _ _ _ (MemoryStore.answer (.patch ns name (.merge document)) s.1.1).2
        rw [hpatch]
        exact wrote_overwrite hfind _
      obtain ⟨_, hj, hrecord⟩ := asRecord_eq_ok hreply
      cases hj
      refine ⟨s.1.1.nextVersion, j, ⟨(backing_find? s.1 ns name).trans hfind, hrecord, fun ns' => ?_⟩⟩
      rw [undoing_contents_of_ok hok]
      exact contents_wrote hwrote ns'

end MemoryStore

end AppGateway
