/-!
# Exchanges

An exchange is a computation that talks to its surroundings: it either is done,
or makes a call and goes on with the reply. What may be called, and what type
of reply a call has, are parameters.

An exchange by itself fixes nothing about the surroundings. `run` gives it some,
and returns the value, the transcript of all calls with their replies, and the
surroundings as they are afterwards. A statement about all surroundings is a
statement about all responders of `run`.
-/

namespace TrustGate

/-- A computation that talks to its surroundings. -/
inductive Exchange {Call : Type} (Reply : Call → Type) (α : Type) : Type
  | done (value : α)
  | ask (call : Call) (next : Reply call → Exchange Reply α)

namespace Exchange

variable {Call : Type} {Reply : Call → Type} {α β σ : Type}

def bind : Exchange Reply α → (α → Exchange Reply β) → Exchange Reply β
  | .done value, next => next value
  | .ask call continuation, next => .ask call fun reply => (continuation reply).bind next

instance : Monad (Exchange Reply) where
  pure := .done
  bind := Exchange.bind

def call (call : Call) : Exchange Reply (Reply call) :=
  .ask call .done

/-- A call that was made, with the reply it got. -/
abbrev Event (Reply : Call → Type) :=
  (call : Call) × Reply call

structure Run (Reply : Call → Type) (σ α : Type) where
  value : α
  transcript : List (Event Reply)
  surroundings : σ

/-- Runs an exchange in surroundings that reply to each call and change by it. -/
def run (respond : (call : Call) → σ → Reply call × σ) : Exchange Reply α → σ → Run Reply σ α
  | .done value, surroundings => ⟨value, [], surroundings⟩
  | .ask call next, surroundings =>
      let (reply, surroundings) := respond call surroundings
      let rest := run respond (next reply) surroundings
      { rest with transcript := ⟨call, reply⟩ :: rest.transcript }

end Exchange

end TrustGate
