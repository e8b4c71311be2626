import AppGateway.Watch.Event

/-!
# Watch sessions

A session draws the items of a watch of releases from a feed and hands the events that they tell of to a consumer, one
at a time.  Its task holds one event while it waits for room, and a slot holds one more; nothing else is buffered.

The session is closed by the end of the feed, by a stop, by the caller's cancellation or by the consumer going
away.  A stop reports whether it was the first; cancellation is noted apart from stops.

* `Session.step?` is one step of the task, `Session.settle` all the steps it can make.
* `Session.recv` is one poll of the consumer.
-/

namespace AppGateway

/-- Whether further events may come. -/
inductive SessionState where
  | active
  | closed
deriving DecidableEq, Repr, Inhabited

/-- What a poll of the consumer finds. -/
inductive Delivery where
  | pending
  | ended
  | event (e : ApplicationEvent)
deriving Repr, Inhabited, BEq

/-- A watch session. -/
structure Session where
  definition : ResourceDefinition
  /-- Items not yet pulled. -/
  feed : List WatchItem := []
  /-- Whether no further items will come. -/
  feedEnded : Bool := false
  /-- Items pulled so far. -/
  pulled : List WatchItem := []
  /-- The event that waits for room in the slot. -/
  held : Option ApplicationEvent := none
  /-- The event that waits for the consumer. -/
  slot : Option ApplicationEvent := none
  /-- Events that the consumer has received. -/
  received : List ApplicationEvent := []
  /-- Whether the task is over. -/
  taskEnded : Bool := false
  /-- Whether the session was stopped or its caller cancelled. -/
  cancelled : Bool := false
  /-- Whether a stop was asked for. -/
  stopRequested : Bool := false
  /-- Whether the consumer has gone away. -/
  dropped : Bool := false
deriving Inhabited

namespace Session

/-- A session on a feed whose items all are there already. -/
def onItems (d : ResourceDefinition) (items : List WatchItem) (cancelled : Bool) : Session where
  definition := d
  feed := items
  feedEnded := true
  cancelled

/-- One step of the task, if it can make one: it ends when cancelled, else hands over the event it holds when there
is room, else pulls the next item, else ends with the feed. -/
def step? (s : Session) : Option Session :=
  if s.taskEnded then none
  else if s.cancelled then some { s with taskEnded := true, held := none }
  else
    match s.held with
    | some e => if s.slot.isNone then some { s with slot := some e, held := none } else none
    | none =>
      match s.feed with
      | item :: rest =>
        some { s with feed := rest, pulled := s.pulled ++ [item], held := s.definition.eventOf? item }
      | [] => if s.feedEnded then some { s with taskEnded := true } else none

/-- A bound on the steps that the task can make. -/
def work (s : Session) : Nat :=
  2 * s.feed.length + (if s.held.isSome then 1 else 0) + (if s.taskEnded then 0 else 1)

theorem work_lt_of_step? {s t : Session} (h : s.step? = some t) : t.work < s.work := by
  unfold step? at h
  split at h
  · simp at h
  · rename_i hended
    split at h
    · cases Option.some.inj h
      have : s.work = 2 * s.feed.length + (if s.held.isSome then 1 else 0) + 1 := by simp [work, hended]
      rw [this]
      change 2 * s.feed.length + 0 + 0 < _
      omega
    · split at h
      · rename_i e he
        split at h
        · cases Option.some.inj h
          simp [work, he]
        · simp at h
      · rename_i he
        split at h
        · rename_i item rest hup
          cases Option.some.inj h
          simp only [work, he, hup, List.length_cons, Option.isSome_none]
          split <;> omega
        · split at h
          · cases Option.some.inj h
            simp [work, hended]
          · simp at h

/-- Lets the task go on until it is idle. -/
def settle (s : Session) : Session :=
  match h : s.step? with
  | some t =>
    have : t.work < s.work := work_lt_of_step? h
    t.settle
  | none => s
termination_by s.work

/-- One poll of the consumer. -/
def recv (s : Session) : Delivery × Session :=
  if s.cancelled then (.ended, s)
  else
    match s.slot with
    | some e => (.event e, { s with slot := none, received := s.received ++ [e] })
    | none => (if s.taskEnded then .ended else .pending, s)

/-- Stops the session, and tells whether this is the first stop. -/
def stop (s : Session) : Bool × Session :=
  if s.stopRequested then (false, s) else (true, { s with stopRequested := true, cancelled := true })

/-- Cancels the session on behalf of its caller. -/
def cancel (s : Session) : Session := { s with cancelled := true }

/-- Lets go of the session, which stops it. -/
def drop (s : Session) : Session := { s.stop.2 with dropped := true, slot := none }

/-- Offers an item to the feed, and tells whether it was accepted. -/
def push (s : Session) (item : WatchItem) : Bool × Session :=
  if s.taskEnded then (false, s) else (true, { s with feed := s.feed ++ [item] })

/-- Ends the feed. -/
def endFeed (s : Session) : Session := { s with feedEnded := true }

/-- Whether further events may come. -/
def state (s : Session) : SessionState :=
  if s.cancelled || s.taskEnded then .closed else .active

/-- The events that a consumer receives who polls until there is nothing more to receive, at most `fuel` of them. -/
def receiveAll : Nat → Session → List ApplicationEvent
  | 0, _ => []
  | fuel + 1, s =>
    match s.settle.recv with
    | (.event e, s) => e :: receiveAll fuel s
    | _ => []

/-- The events that a consumer receives until the end. -/
def events (s : Session) : List ApplicationEvent :=
  s.receiveAll (s.feed.length + 2)

end Session

end AppGateway
