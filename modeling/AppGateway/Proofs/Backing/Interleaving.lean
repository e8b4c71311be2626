import AppGateway.Proofs.Backing.History

/-!
# A program among other clients

A program makes its calls to a store one by one, and other clients make calls of their own before, between and after
them.  A `Shared` is such a store with a program in progress; its log tells every call with the state that it found.

* `linked_run`: the log is a history of the store;
* `unwritten_or_left`: at the end of a history a record is as it was at the start, or as the last call that wrote it has
  left it.
-/

namespace AppGateway

/-- A turn at a shared store: the program makes its next call, or another client makes a call. -/
inductive SharedTurn where
  | own
  | other (c : BackingCall)

/-- A store that a program shares with other clients, and the calls made so far. -/
structure Shared (σ α : Type) where
  store : σ
  program : Exchange α
  log : List (Event σ Unit) := []

namespace Shared

variable {σ α : Type} {b : BackingStore σ}

/-- The store after a call of the program, or of another client. -/
def turn (b : BackingStore σ) (x : Shared σ α) : SharedTurn → Shared σ α
  | .own =>
    match x.program with
    | .done _ => x
    | .call c next => {
      store := b.after c x.store
      program := next (b.reply c x.store)
      log := x.log ++ [⟨some (), c, x.store⟩] }
  | .other c => { x with store := b.after c x.store, log := x.log ++ [⟨none, c, x.store⟩] }

/-- The store after a number of turns. -/
def run (b : BackingStore σ) (x : Shared σ α) (turns : List SharedTurn) : Shared σ α := turns.foldl (turn b) x

private theorem linked_turn {s : σ} {x : Shared σ α} (h : b.Linked s x.log x.store) (t : SharedTurn) :
    b.Linked s (x.turn b t).log (x.turn b t).store := by
  cases t with
  | other c => exact BackingStore.linked_snoc h none c
  | own =>
    rw [turn]
    cases x.program with
    | done result => exact h
    | call c next => exact BackingStore.linked_snoc h (some ()) c

/-- The log of a shared store is its history. -/
theorem linked_run {s : σ} {x : Shared σ α} (h : b.Linked s x.log x.store) (turns : List SharedTurn) :
    b.Linked s (x.run b turns).log (x.run b turns).store := by
  induction turns generalizing x with
  | nil => exact h
  | cons t turns ih => exact ih (linked_turn h t)

/-- What every turn keeps of the log and the program, a run keeps. -/
theorem run_keeps {P : List (Event σ Unit) → Exchange α → Prop}
    (hown : ∀ {log c next} s, P log (.call c next) → P (log ++ [⟨some (), c, s⟩]) (next (b.reply c s)))
    (hother : ∀ {log program} c s, P log program → P (log ++ [⟨none, c, s⟩]) program)
    {x : Shared σ α} (h : P x.log x.program) (turns : List SharedTurn) :
    P (x.run b turns).log (x.run b turns).program := by
  induction turns generalizing x with
  | nil => exact h
  | cons t turns ih =>
    refine ih (x := x.turn b t) ?_
    cases t with
    | other c => exact hother c x.store h
    | own =>
      rw [turn]
      cases hprogram : x.program with
      | done result => rwa [hprogram] at h ⊢
      | call c next =>
        rw [hprogram] at h
        exact hown x.store h

end Shared

namespace BackingStore

variable {σ ι : Type} {b : BackingStore σ} {s s' : σ}

/-- A history writes a record not at all, and leaves it as it was, or there is a last call that writes it, and the
record is as this call has left it. -/
theorem unwritten_or_left (h : b.Keyed) {log : List (Event σ ι)} (hl : b.Linked s log s') (ns name : String) :
    ((∀ e ∈ log, ¬ b.Writes e.call e.before ns name) ∧ b.find? s' ns name = b.find? s ns name) ∨
      ∃ earlier write later, log = earlier ++ write :: later ∧ b.Writes write.call write.before ns name ∧
        (∀ e ∈ later, ¬ b.Writes e.call e.before ns name) ∧
        b.find? s' ns name = b.find? (b.after write.call write.before) ns name := by
  induction log generalizing s with
  | nil =>
    cases hl
    exact .inl ⟨by simp, rfl⟩
  | cons e rest ih =>
    obtain ⟨rfl, hrest⟩ := hl
    -- The last write of the rest is the last one of all; only without any does the first call matter.
    rcases ih hrest with ⟨hnone, hfind⟩ | ⟨earlier, write, later, rfl, hw, hnone, hfind⟩
    · by_cases hw : b.Writes e.call e.before ns name
      · exact .inr ⟨[], e, rest, rfl, hw, hnone, hfind⟩
      · rw [find?_after_of_not_writes h hw] at hfind
        refine .inl ⟨fun e' he' => ?_, hfind⟩
        rcases List.mem_cons.mp he' with rfl | he'
        · exact hw
        · exact hnone e' he'
    · exact .inr ⟨e :: earlier, write, later, rfl, hw, hnone, hfind⟩

end BackingStore

end AppGateway
