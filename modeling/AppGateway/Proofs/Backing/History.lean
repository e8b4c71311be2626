import AppGateway.Proofs.Backing.Store

/-!
# Histories of a backing store

A history lists the calls made to a store, each with the state that it found.  `version_never_returns` is what versions
are for: once a record is written, the version that it had before does not come back.
-/

namespace AppGateway

/-- A call of a history: who made it, if it is one of the parties that are told apart, and the state that it found. -/
structure Event (σ ι : Type) where
  actor : Option ι
  call : BackingCall
  before : σ

namespace BackingStore

variable {σ ι : Type} {b : BackingStore σ} {issued : σ → String → Prop} {s s' : σ} {ns name : String}

variable (b) in
/-- Every call finds the state that the one before it left. -/
def Linked : σ → List (Event σ ι) → σ → Prop
  | s, [], s' => s = s'
  | s, e :: rest, s' => e.before = s ∧ Linked (b.after e.call e.before) rest s'

/-! ### Histories in parts -/

private theorem linked_append {log log' : List (Event σ ι)} :
    b.Linked s (log ++ log') s' ↔ ∃ mid, b.Linked s log mid ∧ b.Linked mid log' s' := by
  induction log generalizing s with
  | nil => simp [Linked]
  | cons e rest ih =>
    simp only [List.cons_append, Linked, ih]
    constructor
    · rintro ⟨he, mid, hrest, hlog⟩
      exact ⟨mid, ⟨he, hrest⟩, hlog⟩
    · rintro ⟨mid, ⟨he, hrest⟩, hlog⟩
      exact ⟨he, mid, hrest, hlog⟩

theorem linked_snoc {log : List (Event σ ι)} (h : b.Linked s log s') (actor : Option ι) (c : BackingCall) :
    b.Linked s (log ++ [⟨actor, c, s'⟩]) (b.after c s') :=
  linked_append.mpr ⟨s', h, rfl, rfl⟩

/-- The part of a history from one of its calls to a later one. -/
theorem linked_between {A B C : List (Event σ ι)} {e e' : Event σ ι} (h : b.Linked s (A ++ e :: (B ++ e' :: C)) s') :
    b.Linked e.before (e :: B) e'.before := by
  obtain ⟨mid, _, he⟩ := linked_append.mp h
  have hmid : e.before = mid := he.1
  obtain ⟨mid', hB, he'⟩ : ∃ mid', b.Linked mid (e :: B) mid' ∧ b.Linked mid' (e' :: C) s' := linked_append.mp he
  have hmid' : e'.before = mid' := he'.1
  rw [hmid, hmid']
  exact hB

/-! ### Versions in a history -/

/-- A call that does not write a record leaves it as it is. -/
theorem find?_after_of_not_writes (h : b.Keyed) {c : BackingCall} (hw : ¬ b.Writes c s ns name) :
    b.find? (b.after c s) ns name = b.find? s ns name := by
  by_cases ht : c.target? = some (ns, name)
  · by_contra hne
    exact hw ⟨ht, .inr hne⟩
  · exact h.elsewhere ht

/-- What is read of a record that has a version carries this version. -/
theorem Stamped.version_read (h : b.Versioned issued) (hs : b.Stamped issued s) {record : Record}
    (hget : b.reply (.get ns name) s = .ok record) :
    ∃ j, b.find? s ns name = some j ∧ storedVersion j ≠ "" ∧
      record.metadata.resourceVersion = some (storedVersion j) := by
  obtain ⟨j, hj, -⟩ := h.get_stored hget
  have hne : storedVersion j ≠ "" := (hs ns name j hj).1
  have hversion := h.get_version hget hj
  refine ⟨j, hj, hne, ?_⟩
  cases hm : record.metadata.resourceVersion with
  | none => exact absurd (by rw [← hversion, hm, Option.getD_none]) hne
  | some v => rw [← hversion, hm, Option.getD_some]

/-- A call keeps every stored object stamped with a version that was issued. -/
theorem Stamped.after (h : b.Versioned issued) (hs : b.Stamped issued s) (c : BackingCall) :
    b.Stamped issued (b.after c s) := by
  intro ns name j hj
  by_cases hw : b.Writes c s ns name
  · obtain ⟨hne, _, hissued⟩ := h.written hw hj
    exact ⟨hne, hissued⟩
  · rw [find?_after_of_not_writes h.toKeyed hw] at hj
    obtain ⟨hne, hissued⟩ := hs ns name j hj
    exact ⟨hne, h.issued_mono c hissued⟩

private theorem Stamped.linked (h : b.Versioned issued) {log : List (Event σ ι)} (hs : b.Stamped issued s)
    (hl : b.Linked s log s') : b.Stamped issued s' := by
  induction log generalizing s with
  | nil =>
    cases hl
    exact hs
  | cons e rest ih =>
    obtain ⟨rfl, hrest⟩ := hl
    exact ih (hs.after h e.call) hrest

/-- The state that a call of a history found is stamped. -/
theorem Stamped.found (h : b.Versioned issued) {A B : List (Event σ ι)} {e : Event σ ι} (hs : b.Stamped issued s)
    (hl : b.Linked s (A ++ e :: B) s') : b.Stamped issued e.before := by
  obtain ⟨mid, hA, he⟩ := linked_append.mp hl
  rw [he.1]
  exact hs.linked h hA

/-- In a history a record is not written at all, or it ends with a version that was not given out before, if it ends
stored. -/
private theorem unwritten_or_fresh (h : b.Versioned issued) {log : List (Event σ ι)} (hl : b.Linked s log s')
    (ns name : String) :
    ((∀ e ∈ log, ¬ b.Writes e.call e.before ns name) ∧ b.find? s' ns name = b.find? s ns name) ∨
      ∀ j, b.find? s' ns name = some j → ¬ issued s (storedVersion j) := by
  induction log generalizing s with
  | nil =>
    cases hl
    exact .inl ⟨by simp, rfl⟩
  | cons e rest ih =>
    obtain ⟨rfl, hrest⟩ := hl
    -- The calls behind the first decide, unless they leave the record alone.
    rcases ih hrest with ⟨hnone, hfind⟩ | hfresh
    · by_cases hw : b.Writes e.call e.before ns name
      · right
        intro j hj
        rw [hfind] at hj
        exact (h.written hw hj).2.1
      · left
        rw [hfind, find?_after_of_not_writes h.toKeyed hw]
        refine ⟨fun e' he' => ?_, rfl⟩
        rcases List.mem_cons.mp he' with rfl | he'
        · exact hw
        · exact hnone e' he'
    · right
      intro j hj hissued
      exact hfresh j hj (h.issued_mono e.call hissued)

/-- A record that has the same version at two points of a history is not written between them. -/
theorem version_never_returns (h : b.Versioned issued) {log : List (Event σ ι)} (hs : b.Stamped issued s)
    (hl : b.Linked s log s') {j j' : Json} (hj : b.find? s ns name = some j) (hj' : b.find? s' ns name = some j')
    (hv : storedVersion j' = storedVersion j) :
    (∀ e ∈ log, ¬ b.Writes e.call e.before ns name) ∧ j' = j := by
  rcases unwritten_or_fresh h hl ns name with ⟨hnone, hfind⟩ | hfresh
  · rw [hfind, hj] at hj'
    exact ⟨hnone, (Option.some.inj hj').symm⟩
  · refine absurd ?_ (hfresh j' hj')
    rw [hv]
    exact (hs ns name j hj).2

end BackingStore

end AppGateway
