import AppGateway.Backing.Call

/-!
# Exchanges with the backing store

An `Exchange` is a program that makes calls to the backing store, one after another, each depending on the answers
before it, and ends with a result.  It does not say what answers the calls: `Exchange.run` takes any rule that
does, with a state of its own.
-/

namespace AppGateway

/-- A program that makes calls and ends with a result. -/
inductive Exchange (α : Type) where
  | done (result : α)
  | call (c : BackingCall) (next : c.Answer → Exchange α)

namespace Exchange

variable {α β σ : Type}

/-- Goes on with another program after the end of this one. -/
def andThen (e : Exchange α) (f : α → Exchange β) : Exchange β :=
  match e with
  | .done a => f a
  | .call c next => .call c fun answer => (next answer).andThen f

instance : Monad Exchange where
  pure := .done
  bind := andThen

/-- The program that makes one call and ends with its answer. -/
def ask (c : BackingCall) : Exchange c.Answer :=
  .call c .done

/-- Runs a program, its calls answered by a rule with a state. -/
def run (answer : (c : BackingCall) → σ → c.Answer × σ) : Exchange α → σ → α × σ
  | .done a, s => (a, s)
  | .call c next, s => run answer (next (answer c s).1) (answer c s).2

end Exchange

end AppGateway
