import AppGateway.Proofs.Watch.Delivery

/-!
# A watch of items that are all there

A consumer that polls a session until its end receives the events of all items of the feed, when the feed was complete
from the start and nobody closes the session.

* (task) `outstanding_settle`: what the task does between two polls changes nothing about the events still to come;
* (consumer) `recv_settle`: a poll then gives the first of them, or tells of the end when there is none;
* (result) `events_onItems`.
-/

namespace AppGateway

namespace Session

/-- The events that are still to come: the one in the slot, the one that the task holds, and those of the feed. -/
def outstanding (s : Session) : List ApplicationEvent :=
  s.slot.toList ++ s.held.toList ++ s.feed.filterMap s.definition.eventOf?

/-- A session that nobody has closed, on a feed that has all its items. -/
structure Complete (s : Session) : Prop where
  live : s.cancelled = false
  feedEnded : s.feedEnded = true
  ended : s.taskEnded = true → s.held = none ∧ s.feed = []

private theorem complete_onItems (d : ResourceDefinition) (items : List WatchItem) :
    (onItems d items false).Complete where
  live := rfl
  feedEnded := rfl
  ended h := by cases h

/-- A step of the task moves an event on, or pulls an item, or ends the task with its feed. -/
private theorem Complete.step {s t : Session} (h : s.Complete) (hstep : s.step? = some t) :
    t.Complete ∧ t.outstanding = s.outstanding := by
  obtain ⟨hrunning, ⟨hcancelled, -⟩ | ⟨hlive, ⟨e, hheld, hslot, rfl⟩ | ⟨item, rest, hheld, hfeed, rfl⟩ |
    ⟨hheld, hfeed, hfeedEnded, rfl⟩⟩⟩ := WatchRun.step?_cases hstep
  · simp [h.live] at hcancelled
  · refine ⟨⟨hlive, h.feedEnded, fun hended => ?_⟩, ?_⟩
    · simp [hrunning] at hended
    · simp [outstanding, hheld, hslot]
  · refine ⟨⟨hlive, h.feedEnded, fun hended => ?_⟩, ?_⟩
    · simp [hrunning] at hended
    · cases hevent : s.definition.eventOf? item <;> simp [outstanding, hheld, hfeed, hevent]
  · exact ⟨⟨hlive, hfeedEnded, fun _ => ⟨hheld, hfeed⟩⟩, rfl⟩

/-- The task makes steps until it can make none, and no event gets lost by them. -/
private theorem Complete.settle {s : Session} (h : s.Complete) :
    s.settle.Complete ∧ s.settle.outstanding = s.outstanding ∧ s.settle.step? = none := by
  fun_induction Session.settle s with
  | case1 s t hstep _ ih =>
    obtain ⟨ht, hsame⟩ := h.step hstep
    obtain ⟨hcomplete, hout, hidle⟩ := ih ht
    exact ⟨hcomplete, hout.trans hsame, hidle⟩
  | case2 s hidle => exact ⟨h, rfl, hidle⟩

/-- A task that can make no step has ended, or waits for the consumer to make room in the slot. -/
private theorem Complete.idle {s : Session} (h : s.Complete) (hidle : s.step? = none) :
    s.taskEnded = true ∨ s.slot ≠ none := by
  cases hended : s.taskEnded with
  | true => exact .inl rfl
  | false =>
    refine .inr fun hslot => ?_
    rw [Session.step?, if_neg (by simp [hended]), if_neg (by simp [h.live])] at hidle
    cases hheld : s.held with
    | some e => simp [hheld, hslot] at hidle
    | none => cases hfeed : s.feed <;> simp [hheld, hfeed, h.feedEnded] at hidle

/-- A poll once the task is idle gives the first event that is still to come, or the end. -/
theorem Complete.recv_settle {s : Session} (h : s.Complete) :
    (s.outstanding = [] ∧ s.settle.recv.1 = .ended) ∨
      ∃ e t, s.settle.recv = (.event e, t) ∧ t.Complete ∧ s.outstanding = e :: t.outstanding := by
  obtain ⟨hcomplete, hout, hidle⟩ := h.settle
  generalize s.settle = u at hcomplete hout hidle
  rw [← hout]
  cases hslot : u.slot with
  | some e =>
    refine .inr ⟨e, { u with slot := none, received := u.received ++ [e] }, ?_,
      ⟨hcomplete.live, hcomplete.feedEnded, hcomplete.ended⟩, ?_⟩
    · simp [recv, hcomplete.live, hslot]
    · simp [outstanding, hslot]
  | none =>
    have hended : u.taskEnded = true := (hcomplete.idle hidle).resolve_right (by simp [hslot])
    obtain ⟨hheld, hfeed⟩ := hcomplete.ended hended
    refine .inl ⟨?_, ?_⟩
    · simp [outstanding, hslot, hheld, hfeed]
    · simp [recv, hcomplete.live, hslot, hended]

/-- A consumer who polls often enough receives all events that are still to come. -/
private theorem Complete.receiveAll {s : Session} (h : s.Complete) {fuel : Nat} (hfuel : s.outstanding.length ≤ fuel) :
    receiveAll fuel s = s.outstanding := by
  induction fuel generalizing s with
  | zero => rw [Session.receiveAll, List.length_eq_zero_iff.mp (Nat.le_zero.mp hfuel)]
  | succ fuel ih =>
    rw [Session.receiveAll]
    rcases h.recv_settle with ⟨hnone, hended⟩ | ⟨e, t, hrecv, ht, hout⟩
    · rw [hnone]
      split
      · rename_i e t hrecv
        simp [hrecv] at hended
      · rfl
    · have hlength : t.outstanding.length ≤ fuel := by
        rw [hout, List.length_cons] at hfuel
        omega
      rw [hrecv, hout]
      exact congrArg (e :: ·) (ih ht hlength)

/-- A watch of items that are all there gives their events. -/
theorem events_onItems (d : ResourceDefinition) (items : List WatchItem) :
    (onItems d items false).events = items.filterMap d.eventOf? := by
  have hlength : (onItems d items false).outstanding.length ≤ (onItems d items false).feed.length + 2 := by
    have hle : (items.filterMap d.eventOf?).length ≤ items.length := List.length_filterMap_le _ _
    have hout : (onItems d items false).outstanding = items.filterMap d.eventOf? := rfl
    rw [hout]
    exact Nat.le_trans hle (Nat.le_add_right _ _)
  exact (complete_onItems d items).receiveAll hlength

end Session

end AppGateway
