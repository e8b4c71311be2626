import AppGateway.Backing.Memory

/-!
# Rehearsals of the backing store

A rehearsal is a store in memory with planned outcomes: for each kind of call a queue of what its next calls come to, be
it an error, an object that the store does not hold, or what the store itself would answer.  It keeps the calls
made.
-/

namespace AppGateway

/-- The kind of a call. -/
inductive CallKind where
  | list
  | get
  | create
  | replace
  | patch
  | delete
  | watch
deriving DecidableEq, Repr, Inhabited

namespace CallKind

/-- The name of a kind of call. -/
def toText : CallKind → String
  | .list => "list"
  | .get => "get"
  | .create => "create"
  | .replace => "replace"
  | .patch => "patch"
  | .delete => "delete"
  | .watch => "watch"

/-- All kinds of calls. -/
def all : List CallKind := [.list, .get, .create, .replace, .patch, .delete, .watch]

end CallKind

/-- The kind of a call. -/
def BackingCall.kind : BackingCall → CallKind
  | .list .. => .list
  | .get .. => .get
  | .create .. => .create
  | .replace .. => .replace
  | .patch .. => .patch
  | .delete .. => .delete
  | .watch .. => .watch

/-- What a call comes to instead of what the store would answer. -/
inductive PlannedOutcome where
  /-- An error. -/
  | fails (error : BackingError)
  /-- An object that the store does not hold. -/
  | gives (object : Json)
  /-- An answer with this HTTP status and body, for stores reached over HTTP. -/
  | sends (status : Nat) (body : String)
deriving Repr, Inhabited, BEq

/-- A store in memory with planned outcomes. -/
structure Rehearsal where
  store : MemoryStore := {}
  plan : List (CallKind × List (Option PlannedOutcome)) := []
  calls : List BackingCall := []
deriving Repr, Inhabited, BEq

namespace Rehearsal

/-- Takes the first outcome planned for a kind of call. -/
def takeFrom (kind : CallKind) : List (CallKind × List (Option PlannedOutcome)) →
    Option PlannedOutcome × List (CallKind × List (Option PlannedOutcome))
  | [] => (none, [])
  | (k, queue) :: rest =>
    if k = kind then
      match queue with
      | [] => (none, (k, []) :: rest)
      | outcome :: queue => (outcome, (k, queue) :: rest)
    else
      let (outcome, rest) := takeFrom kind rest
      (outcome, (k, queue) :: rest)

/-- Takes the outcome planned for the next call of a kind. -/
def take (r : Rehearsal) (kind : CallKind) : Option PlannedOutcome × Rehearsal :=
  let (outcome, plan) := takeFrom kind r.plan
  (outcome, { r with plan })

/-- A planned object as the answer to a call that gives one. -/
def given? (object : Json) : (c : BackingCall) → Option c.Answer
  | .get .. => some (MemoryStore.asRecord (.ok object))
  | .create .. => some (MemoryStore.asRecord (.ok object))
  | .replace .. => some (MemoryStore.asRecord (.ok object))
  | .patch .. => some (MemoryStore.asRecord (.ok object))
  | _ => none

/-- The planned answer to a call, if one is planned. -/
def planned? (outcome : Option PlannedOutcome) (c : BackingCall) : Option c.Answer :=
  match outcome with
  | some (.fails error) => some (.error error)
  | some (.gives object) => given? object c
  | _ => none

/-- Answers a call and keeps it. -/
def answer (c : BackingCall) (r : Rehearsal) : c.Answer × Rehearsal :=
  let (outcome, r) := { r with calls := r.calls ++ [c] }.take c.kind
  match planned? outcome c with
  | some answer => (answer, r)
  | none =>
    let (answer, store) := r.store.answer c
    (answer, { r with store })

end Rehearsal

end AppGateway
