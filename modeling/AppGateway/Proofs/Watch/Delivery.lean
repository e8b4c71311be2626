import AppGateway.Watch.Session

/-!
# A watch delivers every event once and in order

A `WatchRun` is a session that its feed, its task, its consumer and those who close it move in any order
(`WatchMove`).  What the consumer has received, then the event in the slot, then the event that the task holds, are
together the events of the items pulled, as long as nobody has closed the session; a session that was closed may lose
the last of them, but never one in the middle.  A consumer that goes away leaves the slot to be discarded.

* (step) `advances_apply`: a move that closes nothing makes one of a few things of the session (`Advances`);
* (step) `Sound.apply`: every move keeps the account `Sound` of a run;
* (run) `sound_run`;
* (main result) `watch_delivers_in_order`.
-/

namespace AppGateway

namespace Session

/-- The events in the items pulled so far. -/
def translated (s : Session) : List ApplicationEvent := s.pulled.filterMap s.definition.eventOf?

/-- A poll of the consumer that does not look whether the session is closed. -/
def take (s : Session) : Delivery × Session :=
  match s.slot with
  | some e => (.event e, { s with slot := none, received := s.received ++ [e] })
  | none => (if s.taskEnded then .ended else .pending, s)

theorem recv_eq (s : Session) : s.recv = if s.cancelled then (.ended, s) else s.take := rfl

end Session

namespace Delivery

/-- The event that a poll gives. -/
def event? : Delivery → Option ApplicationEvent
  | .event e => some e
  | _ => none

/-- Whether there is nothing to receive yet. -/
def isPending : Delivery → Bool
  | .pending => true
  | _ => false

end Delivery

/-- A move of a watch. -/
inductive WatchMove where
  /-- The feed has one more item. -/
  | offer (item : WatchItem)
  /-- The feed is over. -/
  | endFeed
  /-- The task makes a step, if it can. -/
  | task
  /-- The consumer polls; it looks whether the session is closed first. -/
  | poll
  /-- A receive that found nothing yet polls once more, and does not look again. -/
  | resume
  /-- A receive that found nothing yet is given up. -/
  | giveUp
  | stop
  | cancel
  | drop

/-- Whether a move closes the session. -/
def WatchMove.closes : WatchMove → Bool
  | .stop => true
  | .cancel => true
  | .drop => true
  | _ => false

theorem WatchMove.eq_of_closes {m : WatchMove} (h : m.closes = true) : m = .stop ∨ m = .cancel ∨ m = .drop := by
  cases m with
  | stop => exact .inl rfl
  | cancel => exact .inr (.inl rfl)
  | drop => exact .inr (.inr rfl)
  | _ => cases h

/-- A session in progress. -/
structure WatchRun where
  session : Session
  /-- Whether a receive has found nothing yet. -/
  waiting : Bool := false
  /-- The items that the feed has had. -/
  offered : List WatchItem := []
  /-- What the polls have given. -/
  answers : List Delivery := []
  /-- What was in the slot when the consumer went away. -/
  discarded : Option ApplicationEvent := none

namespace WatchRun

/-- A session that has just begun. -/
def start (d : ResourceDefinition) : WatchRun where
  session := { definition := d }

/-- A run after a poll. -/
def answered (r : WatchRun) (answer : Delivery × Session) : WatchRun :=
  { r with session := answer.2, waiting := answer.1.isPending, answers := r.answers ++ [answer.1] }

/-- A run after a move. -/
def apply (r : WatchRun) : WatchMove → WatchRun
  | .offer item => { r with
      session := (r.session.push item).2
      offered := if (r.session.push item).1 then r.offered ++ [item] else r.offered }
  | .endFeed => { r with session := r.session.endFeed }
  | .task => { r with session := r.session.step?.getD r.session }
  | .poll => r.answered r.session.recv
  | .resume => if r.waiting then r.answered r.session.take else r
  | .giveUp => { r with waiting := false }
  | .stop => { r with session := r.session.stop.2 }
  | .cancel => { r with session := r.session.cancel }
  | .drop => { r with session := r.session.drop, waiting := false, discarded := r.discarded.or r.session.slot }

/-- A run after a number of moves. -/
def run (r : WatchRun) (moves : List WatchMove) : WatchRun := moves.foldl apply r

/-- The events that were not received: the one in the slot, or discarded with it, and the one that the task holds. -/
def undelivered (r : WatchRun) : List ApplicationEvent :=
  r.session.slot.toList ++ r.discarded.toList ++ r.session.held.toList

/-- The account of a run. -/
structure Sound (d : ResourceDefinition) (r : WatchRun) : Prop where
  definition : r.session.definition = d
  /-- Nothing is lost, doubled or reordered while the session is open. -/
  complete : r.session.cancelled = false → r.session.received ++ r.undelivered = r.session.translated
  /-- What is lost by closing the session is at the end. -/
  inOrder : r.session.received ++ r.undelivered <+: r.session.translated
  lead : r.session.translated.length ≤ r.session.received.length + 2
  /-- The task ends by the end of its feed, or because the session is closed. -/
  ended : r.session.taskEnded = true →
    r.session.held = none ∧ (r.session.cancelled = true ∨ r.session.feedEnded = true ∧ r.session.feed = [])
  stopped : r.session.stopRequested = true → r.session.cancelled = true
  dropped : r.session.dropped = true → r.session.cancelled = true ∧ r.waiting = false ∧ r.session.slot = none
  kept : r.session.dropped = false → r.discarded = none
  offered : r.session.pulled ++ r.session.feed = r.offered
  answers : r.answers.filterMap Delivery.event? = r.session.received
  /-- The consumer is told of the end when there is nothing left to receive. -/
  told : .ended ∈ r.answers → r.session.cancelled = true ∨ r.session.taskEnded = true ∧ r.session.slot = none

variable {d : ResourceDefinition} {r : WatchRun}

theorem sound_start (d : ResourceDefinition) : Sound d (start d) where
  definition := rfl
  complete _ := rfl
  inOrder := List.prefix_rfl
  lead := by simp [start, Session.translated]
  ended h := by simp [start] at h
  stopped h := by simp [start] at h
  dropped h := by simp [start] at h
  kept _ := rfl
  offered := rfl
  answers := rfl
  told h := by simp [start] at h

/-! ### The feed -/

private theorem Sound.offer (h : Sound d r) (item : WatchItem) : Sound d (r.apply (.offer item)) := by
  cases hended : r.session.taskEnded with
  | true =>
    have hsame : r.apply (.offer item) = r := by simp [apply, Session.push, hended]
    rw [hsame]
    exact h
  | false =>
    have hpush : r.apply (.offer item) = { r with
        session := { r.session with feed := r.session.feed ++ [item] }
        offered := r.offered ++ [item] } := by simp [apply, Session.push, hended]
    rw [hpush]
    exact { h with
      ended := fun he => absurd he (by simp [hended])
      offered := by simp [← h.offered] }

private theorem Sound.endFeed (h : Sound d r) : Sound d (r.apply .endFeed) :=
  { h with ended := fun he => ⟨(h.ended he).1, (h.ended he).2.imp_right fun hfeed => ⟨rfl, hfeed.2⟩⟩ }

/-! ### The task -/

private theorem translated_pull (s : Session) (item : WatchItem) (rest : List WatchItem)
    (held : Option ApplicationEvent) :
    { s with feed := rest, pulled := s.pulled ++ [item], held := held : Session }.translated =
      s.translated ++ (s.definition.eventOf? item).toList := by
  simp only [Session.translated, List.filterMap_append]
  cases hevent : s.definition.eventOf? item <;> simp [hevent]

/-- What a step of the task can be. -/
theorem step?_cases {s t : Session} (h : s.step? = some t) :
    s.taskEnded = false ∧
      ((s.cancelled = true ∧ t = { s with taskEnded := true, held := none }) ∨
        s.cancelled = false ∧
          ((∃ e, s.held = some e ∧ s.slot = none ∧ t = { s with slot := some e, held := none }) ∨
            (∃ item rest, s.held = none ∧ s.feed = item :: rest ∧
              t = { s with feed := rest, pulled := s.pulled ++ [item], held := s.definition.eventOf? item }) ∨
            (s.held = none ∧ s.feed = [] ∧ s.feedEnded = true ∧ t = { s with taskEnded := true }))) := by
  rw [Session.step?] at h
  split at h
  · cases h
  · rename_i hended
    refine ⟨by simpa using hended, ?_⟩
    split at h
    · rename_i hcancelled
      exact .inl ⟨hcancelled, (Option.some.inj h).symm⟩
    · rename_i hcancelled
      refine .inr ⟨by simpa using hcancelled, ?_⟩
      split at h
      · rename_i e hheld
        split at h
        · rename_i hslot
          exact .inl ⟨e, hheld, by simpa using hslot, (Option.some.inj h).symm⟩
        · cases h
      · rename_i hheld
        split at h
        · rename_i item rest hfeed
          exact .inr (.inl ⟨item, rest, hheld, hfeed, (Option.some.inj h).symm⟩)
        · rename_i hfeed
          split at h
          · rename_i hfeedEnded
            exact .inr (.inr ⟨hheld, hfeed, hfeedEnded, (Option.some.inj h).symm⟩)
          · cases h

/-- The consumer of an open session has not gone away. -/
theorem Sound.live (h : Sound d r) (hopen : r.session.cancelled = false) : r.session.dropped = false := by
  cases hdropped : r.session.dropped with
  | false => rfl
  | true => simp [(h.dropped hdropped).1] at hopen

/-- While the task goes on in an open session, the consumer has not been told of the end. -/
private theorem Sound.not_told (h : Sound d r) (hended : r.session.taskEnded = false)
    (hopen : r.session.cancelled = false) : .ended ∉ r.answers := by
  intro htold
  rcases h.told htold with hcancelled | ⟨hover, _⟩
  · simp [hopen] at hcancelled
  · simp [hended] at hover

/-- A task that is cancelled ends, and the event that it holds is lost. -/
private theorem Sound.taskCancelled (h : Sound d r) (hcancelled : r.session.cancelled = true) :
    Sound d { r with session := { r.session with taskEnded := true, held := none } } := by
  refine { h with complete := ?_, inOrder := ?_, ended := ?_, told := ?_ }
  · intro hopen
    simp [hcancelled] at hopen
  · have hlost : r.session.received ++ (r.session.slot.toList ++ r.discarded.toList) <+:
        r.session.received ++ r.undelivered :=
      (List.prefix_append_right_inj _).mpr (List.prefix_append _ _)
    show r.session.received ++ (r.session.slot.toList ++ r.discarded.toList ++ []) <+: r.session.translated
    rw [List.append_nil]
    exact hlost.trans h.inOrder
  · exact fun _ => ⟨rfl, .inl hcancelled⟩
  · exact fun _ => .inl hcancelled

/-- The event that the task holds is handed over to the slot. -/
private theorem Sound.handOver (h : Sound d r) (hended : r.session.taskEnded = false)
    (hopen : r.session.cancelled = false) {e : ApplicationEvent} (hheld : r.session.held = some e)
    (hslot : r.session.slot = none) :
    Sound d { r with session := { r.session with slot := some e, held := none } } := by
  have hundelivered : { r with session := { r.session with slot := some e, held := none } : WatchRun }.undelivered =
      r.undelivered := by
    simp [undelivered, hheld, hslot, h.kept (h.live hopen)]
  refine { h with complete := ?_, inOrder := ?_, ended := ?_, dropped := ?_, told := ?_ }
  · rw [hundelivered]
    exact h.complete
  · rw [hundelivered]
    exact h.inOrder
  · intro hover
    simp [hended] at hover
  · intro hdropped
    simp [h.live hopen] at hdropped
  · exact fun htold => absurd htold (h.not_told hended hopen)

/-- An item is pulled behind everything that is still on its way. -/
private theorem Sound.pull (h : Sound d r) (hended : r.session.taskEnded = false)
    (hopen : r.session.cancelled = false) {item : WatchItem} {rest : List WatchItem} (hheld : r.session.held = none)
    (hfeed : r.session.feed = item :: rest) :
    Sound d { r with session := { r.session with
      feed := rest, pulled := r.session.pulled ++ [item], held := r.session.definition.eventOf? item } } := by
  have hbefore : r.session.received ++ r.session.slot.toList = r.session.translated := by
    simpa [undelivered, hheld, h.kept (h.live hopen)] using h.complete hopen
  have hafter := translated_pull r.session item rest (r.session.definition.eventOf? item)
  have hall : r.session.received ++
      (r.session.slot.toList ++ r.discarded.toList ++ (r.session.definition.eventOf? item).toList) =
      r.session.translated ++ (r.session.definition.eventOf? item).toList := by
    rw [h.kept (h.live hopen), Option.toList_none, List.append_nil, ← List.append_assoc, hbefore]
  refine { h with complete := ?_, inOrder := ?_, lead := ?_, ended := ?_, offered := ?_, told := ?_ }
  · intro _
    rw [hafter]
    exact hall
  · rw [hafter, ← hall]
    exact List.prefix_rfl
  · rw [hafter, ← hbefore]
    simp only [List.length_append]
    have hslot := Option.length_toList_le (o := r.session.slot)
    have hevent := Option.length_toList_le (o := r.session.definition.eventOf? item)
    omega
  · intro hover
    simp [hended] at hover
  · rw [← h.offered, hfeed, List.append_assoc]
    rfl
  · exact fun htold => absurd htold (h.not_told hended hopen)

theorem Sound.task (h : Sound d r) : Sound d (r.apply .task) := by
  cases hstep : r.session.step? with
  | none =>
    have hsame : r.apply .task = r := by simp [apply, hstep]
    rw [hsame]
    exact h
  | some t =>
    have htask : r.apply .task = { r with session := t } := by simp [apply, hstep]
    rw [htask]
    obtain ⟨hended, ⟨hcancelled, rfl⟩ | ⟨hopen, ⟨e, hheld, hslot, rfl⟩ | ⟨item, rest, hheld, hfeed, rfl⟩ |
      ⟨hheld, hfeed, hfeedEnded, rfl⟩⟩⟩ := step?_cases hstep
    · exact h.taskCancelled hcancelled
    · exact h.handOver hended hopen hheld hslot
    · exact h.pull hended hopen hheld hfeed
    · exact { h with
        ended := fun _ => ⟨hheld, .inr ⟨hfeedEnded, hfeed⟩⟩
        told := fun htold => absurd htold (h.not_told hended hopen) }

/-! ### The consumer -/

private theorem Sound.take (h : Sound d r) (hlive : r.session.dropped = false) : Sound d (r.answered r.session.take) :=
    by
  rw [Session.take]
  cases hslot : r.session.slot with
  | none =>
    refine { h with dropped := ?_, answers := ?_, told := ?_ }
    · intro hdropped
      simp [answered, hlive] at hdropped
    · cases hended : r.session.taskEnded <;> simp [answered, Delivery.event?, h.answers]
    · intro htold
      rcases List.mem_append.mp htold with htold | hnew
      · exact h.told htold
      · cases hended : r.session.taskEnded with
        | true => exact .inr ⟨hended, hslot⟩
        | false => simp [hended] at hnew
  | some e =>
    have hundelivered : r.session.received ++ r.undelivered =
        r.session.received ++ [e] ++ (r.discarded.toList ++ r.session.held.toList) := by
      simp [undelivered, hslot]
    refine { h with complete := ?_, inOrder := ?_, lead := ?_, dropped := ?_, answers := ?_, told := ?_ }
    · intro hopen
      exact hundelivered.symm.trans (h.complete hopen)
    · show r.session.received ++ [e] ++ (r.discarded.toList ++ r.session.held.toList) <+: r.session.translated
      rw [← hundelivered]
      exact h.inOrder
    · show r.session.translated.length ≤ (r.session.received ++ [e]).length + 2
      rw [List.length_append]
      exact Nat.le_trans h.lead (by simp)
    · intro hdropped
      simp [answered, hlive] at hdropped
    · simp [answered, Delivery.event?, h.answers]
    · intro htold
      rcases List.mem_append.mp htold with htold | hnew
      · exact (h.told htold).imp_right fun hover => ⟨hover.1, rfl⟩
      · simp at hnew

private theorem Sound.poll (h : Sound d r) : Sound d (r.apply .poll) := by
  rw [apply, Session.recv_eq]
  cases hcancelled : r.session.cancelled with
  | true =>
    refine { h with dropped := ?_, answers := ?_, told := ?_ }
    · exact fun hdropped => ⟨(h.dropped hdropped).1, rfl, (h.dropped hdropped).2.2⟩
    · simp [answered, Delivery.event?, h.answers]
    · exact fun _ => .inl hcancelled
  | false => exact h.take (h.live hcancelled)

private theorem Sound.resume (h : Sound d r) : Sound d (r.apply .resume) := by
  rw [apply]
  cases hwaiting : r.waiting with
  | false => exact h
  | true =>
    -- A receive in progress does not look whether the session is closed, but its consumer is still there.
    refine h.take ?_
    cases hdropped : r.session.dropped with
    | false => rfl
    | true => simp [(h.dropped hdropped).2.1] at hwaiting

private theorem Sound.giveUp (h : Sound d r) : Sound d (r.apply .giveUp) :=
  { h with dropped := fun hdropped => ⟨(h.dropped hdropped).1, rfl, (h.dropped hdropped).2.2⟩ }

/-! ### Closing -/

/-- A session that is closed keeps its account. -/
theorem Sound.closed (h : Sound d r) (requested : Bool) :
    Sound d { r with session := { r.session with stopRequested := requested, cancelled := true } } :=
  { h with
    complete := fun hopen => by simp at hopen
    ended := fun hended => ⟨(h.ended hended).1, .inl rfl⟩
    stopped := fun _ => rfl
    dropped := fun hdropped => ⟨rfl, (h.dropped hdropped).2⟩
    told := fun _ => .inl rfl }

private theorem Sound.stop (h : Sound d r) : Sound d (r.apply .stop) := by
  rw [apply, Session.stop]
  split
  · exact h
  · exact h.closed true

theorem Sound.cancel (h : Sound d r) : Sound d (r.apply .cancel) := h.closed r.session.stopRequested

theorem drop_eq (h : Sound d r) : r.session.drop =
    { r.session with stopRequested := true, cancelled := true, dropped := true, slot := none } := by
  rw [Session.drop, Session.stop]
  cases hstopped : r.session.stopRequested with
  | false => rfl
  | true => simp [h.stopped hstopped, hstopped]

/-- A session whose consumer goes away is stopped, and what is in the slot is discarded. -/
private theorem Sound.drop (h : Sound d r) : Sound d (r.apply .drop) := by
  have hundelivered : (r.apply .drop).undelivered = r.undelivered := by
    rw [apply, undelivered, undelivered, drop_eq h]
    cases hdropped : r.session.dropped with
    | false => simp [h.kept hdropped]
    | true => simp [(h.dropped hdropped).2.2]
  have hsession : (r.apply .drop).session =
      { r.session with stopRequested := true, cancelled := true, dropped := true, slot := none } := drop_eq h
  exact {
    definition := hsession ▸ h.definition
    complete := fun hopen => by simp [hsession] at hopen
    inOrder := by
      rw [hundelivered, hsession]
      exact h.inOrder
    lead := by
      rw [hsession]
      exact h.lead
    ended := fun hended => by
      rw [hsession] at hended ⊢
      exact ⟨(h.ended hended).1, .inl rfl⟩
    stopped := fun _ => by rw [hsession]
    dropped := fun _ => by
      rw [hsession]
      exact ⟨rfl, rfl, rfl⟩
    kept := fun hlive => by simp [hsession] at hlive
    offered := by
      rw [hsession]
      exact h.offered
    answers := by
      rw [hsession]
      exact h.answers
    told := fun _ => .inl (by rw [hsession]) }

/-! ### Runs -/

/-- Every move keeps the account of a run. -/
theorem Sound.apply (h : Sound d r) (m : WatchMove) : Sound d (r.apply m) := by
  cases m with
  | offer item => exact h.offer item
  | endFeed => exact h.endFeed
  | task => exact h.task
  | poll => exact h.poll
  | resume => exact h.resume
  | giveUp => exact h.giveUp
  | stop => exact h.stop
  | cancel => exact h.cancel
  | drop => exact h.drop

/-- So does every run. -/
theorem sound_run (moves : List WatchMove) (h : Sound d r) : Sound d (r.run moves) := by
  induction moves generalizing r with
  | nil => exact h
  | cons m moves ih => exact ih (h.apply m)

/-! ### Moves that close nothing -/

/-- What a move that closes nothing may make of a session: the feed goes on, the task makes a step, or the consumer
takes what is in the slot. -/
inductive Advances (s : Session) : Session → Prop
  | same : Advances s s
  | feed (feed : List WatchItem) (feedEnded : Bool) : Advances s { s with feed, feedEnded }
  | task {t : Session} (h : s.step? = some t) : Advances s t
  | take : Advances s s.take.2

/-- By a move that closes nothing a session advances. -/
theorem advances_apply (r : WatchRun) {m : WatchMove} (hm : m.closes = false) :
    Advances r.session (r.apply m).session := by
  cases m with
  | offer item =>
    rw [WatchRun.apply, Session.push]
    split
    · exact .same
    · exact .feed _ _
  | endFeed => exact .feed _ _
  | task =>
    cases hstep : r.session.step? with
    | none =>
      have hsame : (r.apply .task).session = r.session := by simp [WatchRun.apply, hstep]
      rw [hsame]
      exact .same
    | some t =>
      have htask : (r.apply .task).session = t := by simp [WatchRun.apply, hstep]
      rw [htask]
      exact .task hstep
  | poll =>
    rw [WatchRun.apply, Session.recv_eq]
    split
    · exact .same
    · exact .take
  | resume =>
    rw [WatchRun.apply]
    split
    · exact .take
    · exact .same
  | giveUp => exact .same
  | stop => cases hm
  | cancel => cases hm
  | drop => cases hm

/-- A session that advances is neither stopped nor cancelled. -/
theorem Advances.flags {s t : Session} (h : Advances s t) :
    t.cancelled = s.cancelled ∧ t.stopRequested = s.stopRequested := by
  cases h with
  | same => exact ⟨rfl, rfl⟩
  | feed feed feedEnded => exact ⟨rfl, rfl⟩
  | task hstep =>
    obtain ⟨-, ⟨-, rfl⟩ | ⟨-, ⟨_, -, -, rfl⟩ | ⟨_, _, -, -, rfl⟩ | ⟨-, -, -, rfl⟩⟩⟩ := step?_cases hstep <;>
      exact ⟨rfl, rfl⟩
  | take =>
    rw [Session.take]
    split <;> exact ⟨rfl, rfl⟩

/-- What every move of a run leaves alone, the run leaves alone. -/
theorem run_keeps {α : Type} (f : WatchRun → α) {moves : List WatchMove}
    (hmoves : ∀ m ∈ moves, ∀ r : WatchRun, f (r.apply m) = f r) : f (r.run moves) = f r := by
  induction moves generalizing r with
  | nil => rfl
  | cons m moves ih => exact (ih fun m' hm' => hmoves m' (by simp [hm'])).trans (hmoves m (by simp) r)

private theorem cancelled_run {moves : List WatchMove} (hmoves : ∀ m ∈ moves, m.closes = false) :
    (r.run moves).session.cancelled = r.session.cancelled :=
  run_keeps (·.session.cancelled) fun m hm r => (advances_apply r (hmoves m hm)).flags.1

private theorem discarded_apply {m : WatchMove} (hm : m ≠ .drop) : (r.apply m).discarded = r.discarded := by
  cases m with
  | drop => exact absurd rfl hm
  | resume =>
    rw [apply]
    split <;> rfl
  | _ => rfl

/-- Nothing is discarded while the consumer is there. -/
private theorem discarded_run {moves : List WatchMove} (hmoves : .drop ∉ moves) : (r.run moves).discarded =
    r.discarded :=
  run_keeps (·.discarded) fun _ hm _ => discarded_apply fun hdrop => hmoves (hdrop ▸ hm)

/-- What was received, what is in the slot and what the task holds are, in this order, a first part of the events of the
items pulled, and all of them unless the session was closed; when the consumer goes away, what was in the slot keeps its
place among them as discarded.  The task is at most two events ahead of the consumer.  It ends only with its feed, and
the consumer who is told of the end has received everything. -/
theorem watch_delivers_in_order (d : ResourceDefinition) (moves : List WatchMove) :
    let r := (start d).run moves
    let s := r.session
    s.received ++ (s.slot.toList ++ r.discarded.toList ++ s.held.toList) <+: s.pulled.filterMap d.eventOf? ∧
    (.drop ∉ moves → r.discarded = none) ∧
    r.answers.filterMap Delivery.event? = s.received ∧
    (s.pulled.filterMap d.eventOf?).length ≤ s.received.length + 2 ∧
    ((∀ m ∈ moves, m.closes = false) →
      s.received ++ (s.slot.toList ++ s.held.toList) = s.pulled.filterMap d.eventOf? ∧
      (s.taskEnded = true → s.feedEnded = true ∧ s.pulled = r.offered) ∧
      (.ended ∈ r.answers →
        s.feedEnded = true ∧ s.pulled = r.offered ∧ s.received = r.offered.filterMap d.eventOf?)) := by
  intro r s
  have h : Sound d r := sound_run moves (sound_start d)
  have htranslated : s.translated = s.pulled.filterMap d.eventOf? := by
    rw [Session.translated, h.definition]
  rw [← htranslated]
  refine ⟨h.inOrder, discarded_run, h.answers, h.lead, fun hmoves => ?_⟩
  have hopen : s.cancelled = false := cancelled_run hmoves
  have hall : s.received ++ (s.slot.toList ++ s.held.toList) = s.translated := by
    have hall := h.complete hopen
    rwa [undelivered, h.kept (h.live hopen), Option.toList_none, List.append_nil] at hall
  have hover (hended : s.taskEnded = true) : s.feedEnded = true ∧ s.pulled = r.offered := by
    rcases (h.ended hended).2 with hcancelled | ⟨hfeedEnded, hfeed⟩
    · cases hopen.symm.trans hcancelled
    · exact ⟨hfeedEnded, by rw [← h.offered, hfeed, List.append_nil]⟩
  refine ⟨hall, hover, fun htold => ?_⟩
  rcases h.told htold with hcancelled | ⟨hended, hslot⟩
  · cases hopen.symm.trans hcancelled
  · obtain ⟨hfeedEnded, hpulled⟩ := hover hended
    refine ⟨hfeedEnded, hpulled, ?_⟩
    rw [hslot, (h.ended hended).1] at hall
    rw [← hpulled, ← htranslated]
    simpa using hall

end WatchRun

end AppGateway
