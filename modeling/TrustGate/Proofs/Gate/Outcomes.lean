import TrustGate.Proofs.Gate.Invariant

/-!
# Outcomes of flows

The owner of a connection waits for the outcome of its flow. This file cuts the
histories of a fresh gate where flows start and shows that between two starts at
most one outcome is reported for a network, that it is the outcome of the flow
started last, and that it is reported by the operation that ends this flow.

Between two starts a gate goes through two phases: first the flow is pending and
nothing has been reported for a network, then no flow is pending and nothing more
is reported for one. `Reached.phase` carries this along a segment.
-/

namespace TrustGate

/-- The network for which an outcome is reported, if it is known. -/
def TrustOutcome.ssid? : TrustOutcome → Option String
  | accepted ssid => some ssid
  | rejected ssid => some ssid
  | errored ssid? => ssid?

namespace Gate

variable {σ : Type} {respond : (call : GateCall) → σ → GateReply call × σ}

namespace Turn

/-- The networks for which the turn reports an outcome. -/
def named (turn : Turn σ) : List String :=
  turn.outcomes.filterMap TrustOutcome.ssid?

/-- The turn takes the flow of a connection from pending to idle. -/
def EndsFlow (turn : Turn σ) (connection : PendingConnection) : Prop :=
  turn.before.flow?.map Flow.connection = some connection ∧ turn.after.state = .idle

end Turn

section Step

variable {gate after : Gate} {operation : Operation} {transcript : Transcript}
  {result : Option Bool}

/-- Without a pending flow nothing is reported for a network, and none is pending afterwards unless
one is started. -/
theorem Performs.of_idle (performs : gate.Performs operation transcript result after)
    (idle : gate.flow? = none)
    (unstarted : ¬∃ profile, operation = .prepare profile ∧ result = some true) :
    (seen reported? transcript).filterMap TrustOutcome.ssid? = [] ∧ after.flow? = none := by
  rcases performs with ⟨effect, brings, makes, rfl⟩
  have fits := brings.fits
  rw [reports_of_makes makes]
  cases effect with
  | nothing | dismissed => exact ⟨rfl, idle⟩
  | dropped trusted? => exact ⟨rfl, flow?_retire gate⟩
  | started profile policy =>
      cases brings
      exact absurd ⟨profile, rfl, rfl⟩ unstarted
  | failed ssid? =>
      cases ssid? with
      | none => exact ⟨rfl, rfl⟩
      | some ssid => simp [Effect.Fits, idle] at fits
  | kept | presented | accepted | rejected => simp [Effect.Fits, idle] at fits

/-- A pending flow stays and nothing is reported for a network, or it ends and at most its own
network is reported. -/
theorem Performs.of_pending (performs : gate.Performs operation transcript result after)
    {flow : Flow} (isPending : gate.flow? = some flow)
    (unstarted : ¬∃ profile, operation = .prepare profile ∧ result = some true) :
    ((seen reported? transcript).filterMap TrustOutcome.ssid? = [] ∧
        after.flow?.map Flow.connection = some flow.connection) ∨
      (after.flow? = none ∧
        ((seen reported? transcript).filterMap TrustOutcome.ssid? = [] ∨
          (seen reported? transcript).filterMap TrustOutcome.ssid? = [flow.ssid])) := by
  rcases performs with ⟨effect, brings, makes, rfl⟩
  have fits := brings.fits
  rw [reports_of_makes makes]
  cases effect with
  | nothing | dismissed => exact .inl ⟨rfl, by simp [Effect.after, isPending]⟩
  | dropped trusted? => exact .inr ⟨flow?_retire gate, .inl rfl⟩
  | started profile policy =>
      cases brings
      exact absurd ⟨profile, rfl, rfl⟩ unstarted
  | kept current pending | presented current prompt handle =>
      have same : current = flow := Option.some.inj (fits.1.symm.trans isPending)
      exact .inl ⟨rfl, by simp [Effect.after, same]⟩
  | failed ssid? =>
      cases ssid? with
      | none => simp [Effect.Fits, isPending] at fits
      | some ssid =>
          rcases fits with ⟨current, currentPending, rfl⟩
          have same : current = flow :=
            Option.some.inj (currentPending.symm.trans isPending)
          exact .inr ⟨rfl, .inr (same ▸ rfl)⟩
  | accepted current =>
      have same : current = flow := Option.some.inj (fits.1.symm.trans isPending)
      exact .inr ⟨rfl, .inr (same ▸ rfl)⟩
  | rejected current =>
      have same : current = flow := Option.some.inj (Eq.trans (Eq.symm fits) isPending)
      exact .inr ⟨rfl, .inr (same ▸ rfl)⟩

/-- The start of a flow reports nothing. -/
theorem Performs.of_started {profile : NetworkProfile}
    (performs : gate.Performs (.prepare profile) transcript (some true) after) :
    seen reported? transcript = [] ∧ ∃ policy, after.flow? = some (.ofProfile profile policy) := by
  rcases performs with ⟨effect, brings, makes, rfl⟩
  cases brings
  exact ⟨reports_of_makes makes, _, rfl⟩

end Step

section Run

variable {first gate : Gate} {initial surroundings : σ} {past : List (Turn σ)}

/-- Before the first start no flow is pending and nothing is reported for a network. -/
theorem Reached.idle_of_unstarted (reached : Reached respond first initial past gate surroundings)
    (idle : first.flow? = none) (unstarted : ∀ turn ∈ past, ¬turn.StartsFlow) :
    gate.flow? = none ∧ ∀ turn ∈ past, turn.named = [] := by
  induction reached with
  | start => exact ⟨idle, by simp⟩
  | @turn past gate surroundings _ operation ih =>
      simp only [List.forall_mem_append, List.forall_mem_singleton] at unstarted ⊢
      rcases ih unstarted.1 with ⟨stillIdle, unnamed⟩
      rcases (performs_turn respond gate surroundings operation).of_idle stillIdle
        unstarted.2 with ⟨unnamedNow, idleNow⟩
      exact ⟨idleNow, unnamed, unnamedNow⟩

/-- Up to the next start the flow is pending and nothing has been reported for a network, or it has
ended and was reported for at most once. -/
theorem Reached.phase (reached : Reached respond first initial past gate surroundings)
    {flow : Flow} (isPending : first.flow? = some flow)
    (unstarted : ∀ turn ∈ past, ¬turn.StartsFlow) :
    (gate.flow?.map Flow.connection = some flow.connection ∧ past.flatMap Turn.named = []) ∨
      (gate.flow? = none ∧ (past.flatMap Turn.named).length ≤ 1 ∧
        ∀ turn ∈ past, ∀ ssid ∈ turn.named, ssid = flow.ssid ∧ turn.EndsFlow flow.connection) := by
  induction reached with
  | start => exact .inl ⟨by simp [isPending], rfl⟩
  | @turn past gate surroundings _ operation ih =>
      simp only [List.forall_mem_append, List.forall_mem_singleton] at unstarted ⊢
      have performs := performs_turn respond gate surroundings operation
      rw [List.flatMap_append, List.flatMap_singleton]
      rcases ih unstarted.1 with ⟨stillPending, unnamed⟩ | ⟨ended, once, right⟩
      -- The flow has been pending so far: it stays so, or this operation ends it.
      · rcases Option.map_eq_some_iff.mp stillPending with ⟨current, currentPending, same⟩
        have sameSsid : current.ssid = flow.ssid := congrArg (·.identity.ssid) same
        have nobody : ∀ turn ∈ past, turn.named = [] := List.flatMap_eq_nil_iff.mp unnamed
        rw [unnamed, List.nil_append]
        rcases performs.of_pending currentPending unstarted.2 with
          ⟨unnamedNow, pendingNow⟩ | ⟨endedNow, unnamedNow | namedNow⟩
        · exact .inl ⟨pendingNow.trans (congrArg some same), unnamedNow⟩
        · refine .inr ⟨endedNow, ?_, fun turn mem ssid named => ?_, fun ssid named => ?_⟩
          · rw [Turn.named, Turn.outcomes, unnamedNow]
            exact Nat.zero_le 1
          · simp [nobody turn mem] at named
          · simp [Turn.named, Turn.outcomes, unnamedNow] at named
        · refine .inr ⟨endedNow, ?_, fun turn mem ssid named => ?_, fun ssid named => ?_⟩
          · rw [Turn.named, Turn.outcomes, namedNow]
            exact Nat.le_refl 1
          · simp [nobody turn mem] at named
          · rw [Turn.named, Turn.outcomes, namedNow, List.mem_singleton] at named
            exact ⟨named.trans sameSsid, stillPending, state_eq_idle_iff.mpr endedNow⟩
      -- The flow has ended before: no other starts, so nothing names a network any more.
      · rcases performs.of_idle ended unstarted.2 with ⟨unnamedNow, endedNow⟩
        have nobodyNow : (gate.turn respond surroundings operation).named = [] := unnamedNow
        rw [nobodyNow, List.append_nil]
        exact .inr ⟨endedNow, once, right, by simp⟩

end Run

/-- A fresh gate reports at most one outcome for a flow, and the right one. Before the first start
no outcome names a network. From a start up to the next at most one does: it names the network of
that flow, and the operation that reports it ends the flow. Preparing, offering and clearing report
nothing, and an outcome without a network comes only from an acceptance or a refusal that is
handled while no flow is pending. -/
theorem one_outcome_per_flow (respond : (call : GateCall) → σ → GateReply call × σ)
    (settings : GateSettings) (initial : σ) (operations : List Operation) :
    let turns := history respond { settings } initial operations
    (∀ past future, turns = past ++ future → (∀ turn ∈ past, ¬turn.StartsFlow) →
      ∀ turn ∈ past, turn.named = []) ∧
    (∀ past start segment future profile, turns = past ++ start :: (segment ++ future) →
      start.operation = .prepare profile → start.result = some true →
      (∀ turn ∈ segment, ¬turn.StartsFlow) →
        ((start :: segment).flatMap Turn.named).length ≤ 1 ∧
        ∃ connection : PendingConnection,
          connection.identity = ⟨profile.ssid, profile.networkId⟩ ∧
          start.after.flow?.map Flow.connection = some connection ∧
          ∀ turn ∈ start :: segment, ∀ ssid ∈ turn.named,
            ssid = profile.ssid ∧ turn.EndsFlow connection) ∧
    (∀ turn ∈ turns,
      match turn.operation with
      | .prepare _ | .offer _ _ | .clear => turn.outcomes = []
      | .request _ => .errored none ∉ turn.outcomes
      | .respond response =>
          .errored none ∈ turn.outcomes →
            (response.action = .accept ∨ response.action = .reject) ∧
              turn.before.flow? = none) := by
  intro turns
  refine ⟨?_, ?_, ?_⟩
  · intro past future cut unstarted
    rcases reached_of_history cut with ⟨gate, surroundings, _, reached, _⟩
    exact (reached.idle_of_unstarted rfl unstarted).2
  · intro past start segment future profile cut prepared started unstarted
    rcases reached_of_history_turn cut with ⟨_, performed, rest, continued⟩
    have performs := performs_of_eq_turn performed
    rw [prepared, started] at performs
    rcases performs.of_started with ⟨silent, policy, startedFlow⟩
    have unnamed : start.named = [] := by rw [Turn.named, Turn.outcomes, silent]; rfl
    rcases reached_of_history continued.symm with ⟨gate, surroundings, _, reached, _⟩
    rw [List.flatMap_cons, unnamed, List.nil_append]
    simp only [List.forall_mem_cons, unnamed, List.not_mem_nil, false_implies, implies_true,
      true_and]
    rcases reached.phase startedFlow unstarted with ⟨_, nobody⟩ | ⟨_, once, right⟩
    · refine ⟨by simp [nobody], _, rfl, by rw [startedFlow]; rfl, ?_⟩
      intro turn mem ssid named
      simp [List.flatMap_eq_nil_iff.mp nobody turn mem] at named
    · exact ⟨once, _, rfl, by rw [startedFlow]; rfl, right⟩
  · intro turn mem
    rcases exists_reached_of_mem mem with ⟨_, _, performed⟩
    rcases performs_of_eq_turn performed with ⟨effect, brings, makes, _⟩
    have outcomes : turn.outcomes = effect.reports := reports_of_makes makes
    rw [outcomes]
    generalize turn.operation = operation at brings ⊢
    generalize turn.result = result at brings
    cases brings with
    | @escalated response _ idle decides _ =>
        intro _
        cases action : response.action with
        | review => exact absurd action decides
        | accept => exact ⟨.inl rfl, idle⟩
        | reject => exact ⟨.inr rfl, idle⟩
    | _ => simp [Effect.reports]

end Gate

end TrustGate
