import AppGateway.Proofs.Gateway.Listing
import AppGateway.Proofs.Sample
import AppGateway.Proofs.Watch.Closing

/-!
# What the state of a watch tells

A watch is active exactly if nothing has closed it and its task goes on.  A watch that is closed hands out nothing any
more, with one exception: the task may end with its feed before the consumer has taken the event in the slot, and this
one event can still be received.

* (step) `Session.over_apply`: whatever becomes of a session in state closed, what it gives out is what its slot held;
* (run) `WatchRun.over_run` and `WatchRun.cancelled_run_iff`;
* (main result) `WatchRun.state_tells`.
-/

namespace AppGateway

namespace Session

/-- From a session in state closed, all that has come out is what was in the slot. -/
structure Over (s s' : Session) : Prop where
  closed : s'.state = .closed
  cancelled : s.cancelled = true → s'.cancelled = true
  empty : s.slot = none → s'.slot = none
  left : s'.received ++ s'.slot.toList <+: s.received ++ s.slot.toList

variable {s t u : Session}

private theorem Over.refl (h : s.state = .closed) : s.Over s := ⟨h, id, id, List.prefix_rfl⟩

private theorem Over.trans (h : s.Over t) (h' : t.Over u) : s.Over u where
  closed := h'.closed
  cancelled hs := h'.cancelled (h.cancelled hs)
  empty hs := h'.empty (h.empty hs)
  left := h'.left.trans h.left

private theorem state_eq_closed_iff : s.state = .closed ↔ s.cancelled = true ∨ s.taskEnded = true := by
  unfold state
  cases s.cancelled <;> cases s.taskEnded <;> simp

private theorem state_eq_active_iff : s.state = .active ↔ s.cancelled = false ∧ s.taskEnded = false := by
  unfold state
  cases s.cancelled <;> cases s.taskEnded <;> simp

private theorem over_take (h : s.state = .closed) : s.Over s.take.2 := by
  unfold take
  split
  · rename_i e hslot
    refine ⟨h, id, fun _ => rfl, ?_⟩
    simp [hslot]
  · exact .refl h

private theorem over_stop (h : s.state = .closed) : s.Over s.stop.2 := by
  unfold stop
  split
  · exact .refl h
  · exact ⟨by simp [state], fun _ => rfl, id, List.prefix_rfl⟩

/-- The task of a session in state closed has nothing left to do but to end. -/
private theorem over_step (h : s.state = .closed) (hstep : s.step? = some t) : s.Over t := by
  obtain ⟨hgoes, ⟨-, rfl⟩ | ⟨hopen, -⟩⟩ := WatchRun.step?_cases hstep
  · exact ⟨by simp [state], id, id, List.prefix_rfl⟩
  · have hactive : s.state = .active := state_eq_active_iff.mpr ⟨hopen, hgoes⟩
    rw [hactive] at h
    cases h

private theorem over_of_advances (h : s.state = .closed) (hadvances : WatchRun.Advances s t) : s.Over t := by
  cases hadvances with
  | same => exact .refl h
  | feed feed feedEnded => exact ⟨h, id, id, List.prefix_rfl⟩
  | task hstep => exact over_step h hstep
  | take => exact over_take h

theorem over_apply {r : WatchRun} (h : r.session.state = .closed) (m : WatchMove) :
    r.session.Over (r.apply m).session := by
  cases hm : m.closes with
  | false => exact over_of_advances h (WatchRun.advances_apply r hm)
  | true =>
    obtain rfl | rfl | rfl := WatchMove.eq_of_closes hm
    · exact over_stop h
    · exact ⟨by simp [WatchRun.apply, Session.cancel, state], fun _ => rfl, id, List.prefix_rfl⟩
    · -- What was in the slot is discarded, so that less can come out than before.
      refine (over_stop h).trans ⟨(over_stop h).closed, id, fun _ => rfl, ?_⟩
      exact (List.prefix_append_right_inj _).mpr List.nil_prefix

/-- A poll of a session in state closed finds what is in the slot, or the end if the session was stopped. -/
theorem recv_of_closed (h : s.state = .closed) :
    s.recv.1 = if s.cancelled then .ended else s.slot.elim .ended .event := by
  rw [recv_eq, take]
  rcases state_eq_closed_iff.mp h with hcancelled | hended
  · simp [hcancelled]
  · cases s.cancelled <;> cases s.slot <;> simp [hended]

end Session

namespace WatchRun

variable {r : WatchRun}

theorem over_run (h : r.session.state = .closed) (more : List WatchMove) :
    r.session.Over (r.run more).session := by
  induction more generalizing r with
  | nil => exact .refl h
  | cons m more ih =>
    have hstep := Session.over_apply h m
    exact hstep.trans (ih hstep.closed)

/-- A session is cancelled by the moves that close it, and by nothing else. -/
theorem cancelled_run_iff (d : ResourceDefinition) (moves : List WatchMove) :
    ((start d).run moves).session.cancelled = true ↔ ∃ m ∈ moves, m.closes = true := by
  induction moves using List.reverseRecOn with
  | nil => simp [run, start]
  | append_singleton moves m ih =>
    have hlast : (start d).run (moves ++ [m]) = ((start d).run moves).apply m := by simp [run]
    rw [hlast, (sound_run moves (sound_start d)).cancelled_apply_iff, ih]
    simp [or_and_right, exists_or]

/-- From a watch in state closed whose slot is empty, or that was stopped, nothing can be received. -/
private theorem recv_run_of_over (h : r.session.state = .closed)
    (hsilent : r.session.cancelled = true ∨ r.session.slot = none)
    (more : List WatchMove) : (r.run more).session.recv.1 = .ended := by
  have hover := over_run h more
  rw [Session.recv_of_closed hover.closed]
  rcases hsilent with hcancelled | hslot
  · simp [hover.cancelled hcancelled]
  · simp [hover.empty hslot]

/-- A watch is active as long as nothing has closed it and its task goes on.  From a watch in state closed, no poll
gives an event any more exactly if it was stopped, or its slot is empty; every poll then tells of the end.  In any case
it remains closed, no poll is kept waiting, and only the event in the slot can still be received. -/
theorem state_tells (d : ResourceDefinition) (moves : List WatchMove) :
    let r := (start d).run moves
    let s := r.session
    (s.state = .active ↔ (∀ m ∈ moves, m.closes = false) ∧ s.taskEnded = false) ∧
    (s.state = .closed →
      ((∀ more, (r.run more).session.recv.1.event? = none) ↔ s.cancelled = true ∨ s.slot = none) ∧
      (s.cancelled = true ∨ s.slot = none → ∀ more, (r.run more).session.recv.1 = .ended) ∧
      ∀ more, (r.run more).session.state = .closed ∧ (r.run more).session.recv.1 ≠ .pending ∧
        (r.run more).session.received <+: s.received ++ s.slot.toList) := by
  intro r s
  have hactive : s.state = .active ↔ (∀ m ∈ moves, m.closes = false) ∧ s.taskEnded = false := by
    have hcancelled : s.cancelled = true ↔ ∃ m ∈ moves, m.closes = true := cancelled_run_iff d moves
    have hopen : s.cancelled = false ↔ ∀ m ∈ moves, m.closes = false := by
      rw [← Bool.not_eq_true, hcancelled]
      simp
    rw [Session.state_eq_active_iff, hopen]
  refine ⟨hactive, fun hclosed => ⟨⟨fun hquiet => ?_, fun hsilent more => ?_⟩, recv_run_of_over hclosed, fun more => ?_⟩⟩
  · -- The poll that follows at once finds what is in the slot.
    have hnow : s.recv.1.event? = none := hquiet []
    rw [Session.recv_of_closed hclosed] at hnow
    cases hcancelled : s.cancelled with
    | true => exact .inl rfl
    | false =>
      cases hslot : s.slot with
      | none => exact .inr rfl
      | some e => simp [hcancelled, hslot, Delivery.event?] at hnow
  · rw [recv_run_of_over hclosed hsilent more]
    rfl
  · have hover := over_run hclosed more
    refine ⟨hover.closed, ?_, (List.prefix_append _ _).trans hover.left⟩
    rw [Session.recv_of_closed hover.closed]
    split
    · exact Delivery.noConfusion
    · cases (r.run more).session.slot <;> exact Delivery.noConfusion

/-- The feed of a watch ends while its last event is in the slot: the watch is in state closed, and a poll that is made
then gives this event. -/
theorem closed_watch_gives_last_event :
    let item : WatchItem := .ok (.added (webShop.versioned "10").toStored)
    let r := (start sampleType).run [.offer item, .task, .task, .endFeed, .task]
    r.session.state = .closed ∧ r.session.cancelled = false ∧
      ∃ app, app.name = "shop" ∧ r.session.recv.1 = .event (.added app) ∧
        (r.apply .poll).answers.filterMap Delivery.event? = [.added app] :=
  ⟨rfl, rfl, _, rfl, rfl, rfl⟩

end WatchRun

end AppGateway
