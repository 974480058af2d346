import TrustGate.Gate.Surroundings
import TrustGate.Proofs.Service.Clients

/-!
# A service performs one command after another

Clients that use a service at the same time see what one of them would see that
made all calls, one after another, in the order in which they were queued. So
each call returns what its own operation results in at the gate, and a snapshot
shows the gate that the operations before it have left (`Answers`).

A call waits no longer than the worker needs for the calls that were made up to
then. Every step of the worker adds to its effort until these are settled, and
the effort they can take is bounded by their sequence.
-/

namespace TrustGate

namespace Service

open Controller (Answer Command operationsOf serve)

variable {Client σ : Type} {respond : (call : GateCall) → σ → GateReply call × σ} {gate : Gate}
  {initial : σ} {service : Service Client σ}

/-! ## Answers -/

variable (respond gate initial) in
/-- The answer to a command that returns something, behind some other commands. As long as none of
these is a shutdown, an operation returns the result of its turn, which is the last one in the
history of all operations up to it; and a snapshot shows the gate to which the history of all
operations before it leads. Behind a shutdown nothing is granted, and no flow is shown. -/
inductive Answers (before : List Command) : Command → Answer → Prop
  | result {operation : Gate.Operation} {past : List (Gate.Turn σ)} {turn : Gate.Turn σ}
      {value : Bool} (running : .shutdown ∉ before)
      (history : gate.history respond initial (operationsOf before ++ [operation]) = past ++ [turn])
      (own : turn.operation = operation) (result : turn.result = some value) :
      Answers before (.operate operation) (.result value)
  | snapshot {now : Gate} {surroundings : σ} {shown : FlowSnapshot} (running : .shutdown ∉ before)
      (reached : Gate.Reached respond gate initial
        (gate.history respond initial (operationsOf before)) now surroundings)
      (state : shown.state = now.state)
      (connection : shown.connection? = now.flow?.map Flow.connection)
      (certificate : shown.certificate? = now.certificate?) :
      Answers before .snapshot (.snapshot shown)
  | refused {operation : Gate.Operation} (stopped : .shutdown ∈ before) :
      Answers before (.operate operation) (.result false)
  | idle (stopped : .shutdown ∈ before) :
      Answers before .snapshot (.snapshot ⟨.idle, none, none⟩)

/-- The operations that return something are those that have a result. -/
theorem exists_result_of_returns {before after : Gate} {operation : Gate.Operation}
    {transcript : Gate.Transcript} {result : Option Bool}
    (performs : before.Performs operation transcript result after)
    (returns : (Command.operate operation).returns = true) : ∃ value, result = some value := by
  obtain ⟨effect, brings, -, -⟩ := performs
  cases brings <;> first | exact ⟨_, rfl⟩ | cases returns

theorem answers_serve {before : List Command} {command : Command}
    (returns : command.returns = true) (later : List Command) :
    ∃ answer,
      (serve respond { gate } initial (before ++ command :: later)).value.1[before.length]? =
        some answer ∧ Answers respond gate initial before command answer := by
  by_cases stopped : .shutdown ∈ before
  · refine ⟨_, Controller.answer_after_shutdown respond gate initial stopped command later, ?_⟩
    cases command with
    | operate operation =>
        cases operation with
        | prepare | offer | request => exact .refused stopped
        | respond | clear => cases returns
    | snapshot => exact .idle stopped
    | shutdown => cases returns
  · obtain ⟨now, left, reached⟩ := Controller.reached_serve respond gate initial stopped
    have length := Controller.length_serve respond { gate } initial before
    have place :
        (serve respond { gate } initial (before ++ command :: later)).value.1[before.length]? =
          some ((Controller.perform { gate := now } command).run respond
            (serve respond { gate } initial before).surroundings).value.1 := by
      simp [Controller.serve_append, Controller.serve_cons, left, ← length]
    refine ⟨_, place, ?_⟩
    cases command with
    | operate operation =>
        have performs := Gate.performs_turn respond now
          (serve respond { gate } initial before).surroundings operation
        obtain ⟨value, result⟩ := exists_result_of_returns performs returns
        simp only [Controller.run_operate, result]
        exact .result stopped (Gate.history_concat reached operation) rfl result
    | snapshot => exact .snapshot stopped reached rfl rfl rfl
    | shutdown => cases returns

/-- The sequence of calls has the answers of its commands. -/
theorem answers_of_sequence {calls : List (Call Client)} {call : Call Client} {answer : Answer}
    (there : calls[call.number]? = some call) (returns : call.command.returns = true)
    (answered : (sequence respond gate initial calls).value.1[call.number]? = some answer) :
    Answers respond gate initial ((calls.take call.number).map Call.command) call.command
      answer := by
  obtain ⟨bound, here⟩ := List.getElem?_eq_some_iff.mp there
  have cut : calls.map Call.command = (calls.take call.number).map Call.command ++
      call.command :: (calls.drop (call.number + 1)).map Call.command := by
    have rest := List.drop_eq_getElem_cons bound
    rw [here] at rest
    rw [← List.map_cons, ← rest, ← List.map_append, List.take_append_drop]
  have length : ((calls.take call.number).map Call.command).length = call.number := by
    simp
    omega
  obtain ⟨given, place, answers⟩ := answers_serve returns
    ((calls.drop (call.number + 1)).map Call.command)
  rw [← cut, length] at place
  rw [sequence, place] at answered
  exact Option.some.inj answered ▸ answers

section Clients

variable [DecidableEq Client] {client : Client}

/-! ## Waiting -/

omit [DecidableEq Client] in
/-- While some of the first calls are not settled, the worker is busy with these at most. -/
theorem Standing.within {calls : List (Call Client)}
    (standing : Standing respond gate initial service) (isFront : calls <+: service.calls)
    (unsettled : service.settled.length < calls.length) :
    service.taken <+: calls ∧
      service.transcript <+: (sequence respond gate initial service.taken).transcript := by
  have within (few : service.taken.length ≤ calls.length) : service.taken <+: calls :=
    List.prefix_of_prefix_length_le standing.taken_front isFront few
  cases standing with
  | listening _ _ listens =>
      simp only [settled, listens.worker] at unsettled
      exact ⟨within (by omega), by simp [listens.before]⟩
  | serving _ _ _ _ serves =>
      simp only [settled, serves.worker, serves.taken, List.dropLast_concat] at unsettled
      refine ⟨within ?_, ?_⟩
      · simp only [serves.taken, List.length_append, List.length_singleton]
        omega
      · simp [serves.sequence_taken]
  | stopped worker _ transcript _ =>
      simp only [settled, worker] at unsettled
      exact ⟨within (by omega), by simp [transcript]⟩
  | gone worker _ _ _ =>
      simp only [settled, worker] at unsettled
      have fewer := isFront.length_le
      omega

variable (respond gate initial) in
/-- The steps that the worker needs at most to settle some calls. -/
def patience (calls : List (Call Client)) : Nat :=
  (sequence respond gate initial calls).transcript.length + 2 * calls.length + 1

omit [DecidableEq Client] in
theorem Coherent.effort_lt {calls : List (Call Client)}
    (coherent : Coherent respond gate initial service) (isFront : calls <+: service.calls)
    (unsettled : service.settled.length < calls.length) :
    service.effort < patience respond gate initial calls := by
  obtain ⟨taken, transcript⟩ := coherent.standing.within isFront unsettled
  have asked := (transcript.trans (transcript_extend respond gate initial taken)).length_le
  have begun := taken.length_le
  simp only [effort, patience]
  omega

theorem Coherent.receives {call : Call Client} (coherent : Coherent respond gate initial service)
    (waits : service.waiting client = some call)
    (settled : call.number < service.settled.length) : (service.receive? client).isSome := by
  have length := length_answers respond gate initial service.settled
  have called := (coherent.waiting client call waits).1
  have result := coherent.filled.settled _ _ (coherent.getElem?_settled called settled)
  rw [List.getElem?_eq_getElem (by omega)] at result
  simp [receive?, waits, result]

/-! ## The whole service -/

variable (respond gate initial) in
/-- A service, after some actions of its clients and its worker, as one machine that performs one
command after another. -/
structure InSequence (actions : List (Action Client)) (service : Service Client σ) : Prop where
  /-- The record of the calls is right. -/
  made : service.calls.map Call.made = actions.filterMap Action.made?
  /-- The sequence asks what the operations before the first shutdown ask, and nothing else. -/
  operations : (sequence respond gate initial service.calls).transcript =
    (gate.history respond initial
      (Controller.operationsOf (service.calls.map Call.command))).flatMap Gate.Turn.transcript
  /-- What is asked so far is how the sequence begins. -/
  transcript : service.transcript <+: (sequence respond gate initial service.calls).transcript
  /-- It is all of it when the worker has nothing more to do. -/
  finished : service.work? respond = none →
    service.transcript = (sequence respond gate initial service.calls).transcript
  once : service.taken.Nodup
  /-- The commands of a client are performed in its own order. -/
  ownOrder : ∀ client, service.taken.filter (·.client = client) <+:
    service.calls.filter (·.client = client)
  /-- A call returns the answer to its own command behind those of all calls before it. -/
  returned : ∀ call answer, (call, answer) ∈ service.returned →
    service.calls[call.number]? = some call ∧ call.command.returns = true ∧
      Answers respond gate initial ((service.calls.take call.number).map Call.command) call.command
        answer
  /-- No call waits for ever: it can return or the worker can go on, and it can return once the
  worker has gone on for long enough, whatever else happens. -/
  returns : ∀ client call, service.waiting client = some call →
    call ∈ service.calls ∧ call.client = client ∧
      ((service.receive? client).isSome ∨ (service.work? respond).isSome) ∧
      ∀ future later, service.run? respond future = some later →
        patience respond gate initial service.calls ≤ future.countP Action.isWork →
          later.waiting client = some call → (later.receive? client).isSome

/-- A service performs one command after another, in the order in which they were queued. -/
theorem in_sequence {founder : Client} {actions : List (Action Client)}
    (reached : (spawn gate initial founder).run? respond actions = some service) :
    InSequence respond gate initial actions service := by
  have leads := (coherent_spawn founder).leads reached
  have coherent := leads.coherent
  have standing := coherent.standing
  exact
    { made := by simpa [spawn] using leads.made
      operations := Controller.transcript_serve respond gate initial _
      transcript := standing.transcript_front
      finished := standing.transcript_eq
      once := coherent.numbered.nodup.sublist standing.taken_front.sublist
      ownOrder := fun client => standing.taken_front.filter _
      returned := by
        intro call answer entry
        obtain ⟨called, returns, answered⟩ := coherent.returned call answer entry
        have there := coherent.numbered.getElem?_number called
        have extend := answers_extend respond gate initial standing.settled_front
        refine ⟨there, returns, ?_⟩
        exact answers_of_sequence there returns (getElem?_of_front extend answered)
      returns := by
        intro client call waits
        obtain ⟨called, own, -⟩ := coherent.waiting client call waits
        have inCalls := (List.getElem?_eq_some_iff.mp
          (coherent.numbered.getElem?_number called)).1
        refine ⟨called, own, ?_, ?_⟩
        · rcases Nat.lt_or_ge call.number service.settled.length with settled | unsettled
          · exact .inl (coherent.receives waits settled)
          · exact .inr (standing.can_work (by omega))
        · intro future later ran patient still
          have future := coherent.leads ran
          refine future.coherent.receives still ?_
          -- All the work since then would be effort for these calls, more than they can take.
          rcases Nat.lt_or_ge later.settled.length service.calls.length with unsettled | settled
          · have spent := future.effort unsettled
            have affordable := future.coherent.effort_lt future.calls unsettled
            omega
          · omega }

end Clients

/-- While the certificate for a connection attempt is on its way to the gate, another client asks
for the dialog and looks at what goes on. It sees that the user is asked about this certificate,
although the service is told to stop before the worker has taken any command of this client. A
snapshot that is queued behind the shutdown comes back idle. -/
theorem snapshot_behind_shutdown :
    let gate : Gate := { settings := ⟨true, "wlan0", "https://help"⟩ }
    let start : List (Action Nat) :=
      [.clone 0 1, .call 0 (.operate (.prepare (Gate.newcomer 1 "corp"))), .work, .work, .work,
        .work, .work, .receive 0]
    let rush : List (Action Nat) :=
      [.call 0 (.operate (.offer "corp" (Gate.radius [1]))),
        .call 1 (.operate (.respond ⟨"corp", .review, .notification⟩)), .call 1 .snapshot, .work,
        .work, .receive 0, .call 0 .shutdown, .call 0 .snapshot]
    let rest : List (Action Nat) := List.replicate 8 .work ++ [.receive 1, .receive 0]
    let asked : FlowSnapshot := {
      state := .awaitingApproval
      connection? := some ⟨⟨"corp", 1⟩, true, .tofu⟩
      certificate? := some {
        certificate := Gate.radius [1]
        subject := { raw := "CN=radius", commonName := "radius" }
        issuer := { raw := "CN=authority", commonName := "authority" } } }
    let answers : List (Nat × Answer) :=
      [(0, .result true), (0, .result true), (1, .snapshot asked),
        (0, .snapshot ⟨.idle, none, none⟩)]
    ∃ service : Service Nat Surroundings,
      (spawn gate {} 0).run? Surroundings.reply (start ++ rush ++ rest) = some service ∧
        service.returned.map (fun entry => (entry.1.client, entry.2)) = answers ∧
        InSequence Surroundings.reply gate {} (start ++ rush ++ rest) service := by
  intro gate start rush rest asked answers
  have returns : ((spawn gate {} 0).run? Surroundings.reply (start ++ rush ++ rest)).map
      (fun service => service.returned.map fun entry => (entry.1.client, entry.2)) =
        some answers := by
    decide +kernel
  obtain ⟨service, reached, returned⟩ := Option.map_eq_some_iff.mp returns
  exact ⟨service, reached, returned, in_sequence reached⟩

end Service

end TrustGate
