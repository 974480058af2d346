import TrustGate.Exchange

/-!
# What exchanges can come to

An exchange run in some surroundings leaves a transcript. This file describes
the transcripts without the surroundings: `Exchange.Yields` relates an exchange
to every transcript that it can leave, whatever the replies are, and to the
value that it then has. It is compositional, so what an operation can do is
computed from its steps.

The surroundings come in apart from that. `Exchange.Answered` says of a
transcript alone that a responder gives its replies. A run of an exchange is
one that the exchange yields and the responder answers, and a claim about all
runs splits into a fact about the exchange and one about the responder.
-/

namespace TrustGate

namespace Exchange

variable {Call : Type} {Reply : Call → Type} {α β σ : Type}

/-- The exchange can make the calls of the transcript, be given the replies that stand there, and
come to the value. -/
inductive Yields : Exchange Reply α → List (Event Reply) → α → Prop
  | done (value : α) : Yields (.done value) [] value
  | ask {call : Call} {reply : Reply call} {next : Reply call → Exchange Reply α}
      {transcript : List (Event Reply)} {value : α} (rest : Yields (next reply) transcript value) :
      Yields (.ask call next) (⟨call, reply⟩ :: transcript) value

@[simp]
theorem yields_done_iff {value result : α} {transcript : List (Event Reply)} :
    (done value).Yields transcript result ↔ transcript = [] ∧ result = value := by
  constructor
  · intro yields
    cases yields
    exact ⟨rfl, rfl⟩
  · rintro ⟨rfl, rfl⟩
    exact .done result

@[simp]
theorem yields_pure_iff {value result : α} {transcript : List (Event Reply)} :
    (pure value : Exchange Reply α).Yields transcript result ↔
      transcript = [] ∧ result = value :=
  yields_done_iff

theorem yields_ask_iff {call : Call} {next : Reply call → Exchange Reply α}
    {transcript : List (Event Reply)} {value : α} :
    (ask call next).Yields transcript value ↔
      ∃ reply rest, transcript = ⟨call, reply⟩ :: rest ∧ (next reply).Yields rest value := by
  constructor
  · intro yields
    cases yields with
    | ask rest => exact ⟨_, _, rfl, rest⟩
  · rintro ⟨reply, rest, rfl, yields⟩
    exact .ask yields

@[simp]
theorem yields_call_iff {call : Call} {reply : Reply call} {transcript : List (Event Reply)} :
    (Exchange.call call).Yields transcript reply ↔ transcript = [⟨call, reply⟩] := by
  simp only [Exchange.call, yields_ask_iff, yields_done_iff]
  constructor
  · rintro ⟨_, _, rfl, rfl, rfl⟩
    rfl
  · rintro rfl
    exact ⟨reply, [], rfl, rfl, rfl⟩

/-- The transcript of a sequence falls into the transcripts of its parts. -/
theorem yields_bind_iff {exchange : Exchange Reply α} {next : α → Exchange Reply β}
    {transcript : List (Event Reply)} {value : β} :
    (exchange >>= next).Yields transcript value ↔
      ∃ first middle rest, exchange.Yields first middle ∧ (next middle).Yields rest value ∧
        transcript = first ++ rest := by
  change (exchange.bind next).Yields transcript value ↔ _
  induction exchange generalizing transcript with
  | done middle =>
      simp only [Exchange.bind, yields_done_iff]
      constructor
      · intro yieldsRest
        exact ⟨[], middle, transcript, ⟨rfl, rfl⟩, yieldsRest, rfl⟩
      · rintro ⟨_, _, rest, ⟨rfl, rfl⟩, yieldsRest, rfl⟩
        exact yieldsRest
  | ask call continuation ih =>
      simp only [Exchange.bind, yields_ask_iff, ih]
      constructor
      · rintro ⟨reply, _, rfl, first, middle, rest, yieldsFirst, yieldsRest, rfl⟩
        exact ⟨_, middle, rest, ⟨reply, first, rfl, yieldsFirst⟩, yieldsRest, rfl⟩
      · rintro ⟨_, middle, rest, ⟨reply, first, rfl, yieldsFirst⟩, yieldsRest, rfl⟩
        exact ⟨reply, _, rfl, first, middle, rest, yieldsFirst, yieldsRest, rfl⟩

/-- The responder gives the replies of the transcript from the former surroundings on, and is left
in the latter. -/
def Answered (respond : (call : Call) → σ → Reply call × σ) :
    σ → List (Event Reply) → σ → Prop
  | earlier, [], later => later = earlier
  | earlier, ⟨call, reply⟩ :: rest, later =>
      (respond call earlier).1 = reply ∧ Answered respond (respond call earlier).2 rest later

theorem answered_append_iff {respond : (call : Call) → σ → Reply call × σ} {earlier later : σ}
    {first second : List (Event Reply)} :
    Answered respond earlier (first ++ second) later ↔
      ∃ middle, Answered respond earlier first middle ∧ Answered respond middle second later := by
  induction first generalizing earlier with
  | nil =>
      constructor
      · intro answered
        exact ⟨earlier, rfl, answered⟩
      · rintro ⟨_, rfl, answered⟩
        exact answered
  | cons event first ih =>
      simp only [List.cons_append, Answered, ih]
      constructor
      · rintro ⟨replied, middle, answeredFirst, answeredSecond⟩
        exact ⟨middle, ⟨replied, answeredFirst⟩, answeredSecond⟩
      · rintro ⟨middle, ⟨replied, answeredFirst⟩, answeredSecond⟩
        exact ⟨replied, middle, answeredFirst, answeredSecond⟩

section Run

variable (respond : (call : Call) → σ → Reply call × σ)

theorem run_bind (exchange : Exchange Reply α) (next : α → Exchange Reply β) (surroundings : σ) :
    (exchange >>= next).run respond surroundings =
      let first := exchange.run respond surroundings
      let rest := (next first.value).run respond first.surroundings
      { rest with transcript := first.transcript ++ rest.transcript } := by
  change (exchange.bind next).run respond surroundings = _
  induction exchange generalizing surroundings with
  | done value => rfl
  | ask call continuation ih => simp only [bind, run, ih, List.cons_append]

theorem yields_run (exchange : Exchange Reply α) (surroundings : σ) :
    exchange.Yields (exchange.run respond surroundings).transcript
      (exchange.run respond surroundings).value := by
  induction exchange generalizing surroundings with
  | done value => exact .done value
  | ask call next ih => exact .ask (ih _ _)

theorem answered_run (exchange : Exchange Reply α) (surroundings : σ) :
    Answered respond surroundings (exchange.run respond surroundings).transcript
      (exchange.run respond surroundings).surroundings := by
  induction exchange generalizing surroundings with
  | done value => rfl
  | ask call next ih => exact ⟨rfl, ih _ _⟩

end Run

end Exchange

end TrustGate
