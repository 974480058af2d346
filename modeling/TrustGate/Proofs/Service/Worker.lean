import TrustGate.Proofs.Controller
import TrustGate.Service

/-!
# The worker of a service

Whatever the clients do between its steps, the worker follows the sequence of all
calls: what it has done so far is what a controller does that performs the
commands one after another, in the order in which the calls were made. `Standing`
says so for each state of the worker. While a command is performed, what the
worker has asked for it and what is still to be done make up what the command
does in the sequence.

`Advances` is what one step of the worker comes to.
-/

namespace TrustGate

namespace Service

open Controller (Answer Command stoppedAnswer serve)

variable {Client σ : Type}

/-! ## The sequence of calls -/

section Sequence

variable (respond : (call : GateCall) → σ → GateReply call × σ) (gate : Gate) (initial : σ)

/-- What comes of calls whose commands are performed one after another. -/
def sequence (calls : List (Call Client)) : Exchange.Run GateReply σ (List Answer × Controller) :=
  serve respond { gate } initial (calls.map Call.command)

theorem sequence_append (first second : List (Call Client)) :
    sequence respond gate initial (first ++ second) =
      let before := sequence respond gate initial first
      let after := before.value.2.serve respond before.surroundings (second.map Call.command)
      ⟨(before.value.1 ++ after.value.1, after.value.2), before.transcript ++ after.transcript,
        after.surroundings⟩ := by
  simp only [sequence, List.map_append, Controller.serve_append]

theorem length_answers (calls : List (Call Client)) :
    (sequence respond gate initial calls).value.1.length = calls.length := by
  simp [sequence, Controller.length_serve]

theorem answers_extend {first calls : List (Call Client)} (front : first <+: calls) :
    (sequence respond gate initial first).value.1 <+:
      (sequence respond gate initial calls).value.1 := by
  obtain ⟨second, rfl⟩ := front
  rw [sequence_append]
  exact List.prefix_append _ _

theorem transcript_extend {first calls : List (Call Client)} (front : first <+: calls) :
    (sequence respond gate initial first).transcript <+:
      (sequence respond gate initial calls).transcript := by
  obtain ⟨second, rfl⟩ := front
  rw [sequence_append]
  exact List.prefix_append _ _

theorem sequence_concat (calls : List (Call Client)) (call : Call Client) :
    sequence respond gate initial (calls ++ [call]) =
      let before := sequence respond gate initial calls
      let last := (before.value.2.perform call.command).run respond before.surroundings
      ⟨(before.value.1 ++ [last.value.1], last.value.2), before.transcript ++ last.transcript,
        last.surroundings⟩ := by
  simp [sequence_append, Controller.serve_cons]

/-- Calls that come when the controller has stopped add nothing but their answers. -/
theorem sequence_append_of_stopped {first : List (Call Client)}
    (stopped : (sequence respond gate initial first).value.2.running = false)
    (second : List (Call Client)) :
    sequence respond gate initial (first ++ second) =
      let before := sequence respond gate initial first
      { before with
        value := (before.value.1 ++ second.map fun call => stoppedAnswer call.command,
          before.value.2) } := by
  simp [sequence_append, Controller.serve_of_stopped respond stopped, Function.comp_def]

end Sequence

/-! ## How far the worker is -/

/-- The calls that the worker has answered, or that nobody will answer any more. -/
def settled (service : Service Client σ) : List (Call Client) :=
  match service.worker with
  | .listening _ => service.taken
  | .serving _ _ => service.taken.dropLast
  | .stopped => service.taken
  | .gone => service.calls

section Standing

variable (respond : (call : GateCall) → σ → GateReply call × σ) (gate : Gate) (initial : σ)

/-- A worker that takes no further command after some calls has a reason: it was told to stop, or
nobody is left who could call. -/
def MayStop (service : Service Client σ) (calls : List (Call Client)) : Prop :=
  (sequence respond gate initial calls).value.2.running = false ∨
    service.handles = [] ∧ service.queue = []

variable {respond gate initial} in
theorem MayStop.sequence_append {service : Service Client σ} {calls : List (Call Client)}
    (mayStop : MayStop respond gate initial service calls) :
    sequence respond gate initial (calls ++ service.queue) =
      let before := sequence respond gate initial calls
      { before with
        value := (before.value.1 ++ service.queue.map fun call => stoppedAnswer call.command,
          before.value.2) } := by
  rcases mayStop with stopped | ⟨_, done⟩
  · exact sequence_append_of_stopped respond gate initial stopped service.queue
  · simp [done]

/-- The worker is done with some calls and waits for the next one. -/
structure Listens (service : Service Client σ) (controller : Controller) (answers : List Answer) :
    Prop where
  worker : service.worker = .listening controller
  all : service.calls = service.taken ++ service.queue
  before : sequence respond gate initial service.taken =
    ⟨(answers, controller), service.transcript, service.surroundings⟩

/-- The worker is done with some calls and has begun with one more. What it has asked for that one
and what it has still to do make up what its command does after the calls before. -/
structure Serves (service : Service Client σ) (done : List (Call Client)) (call : Call Client)
    (rest : Exchange GateReply (Answer × Controller)) (begun : List (Exchange.Event GateReply)) :
    Prop where
  worker : service.worker = .serving call rest
  taken : service.taken = done ++ [call]
  all : service.calls = service.taken ++ service.queue
  transcript : service.transcript = (sequence respond gate initial done).transcript ++ begun
  follows : ((sequence respond gate initial done).value.2.perform call.command).run respond
      (sequence respond gate initial done).surroundings =
    ⟨(rest.run respond service.surroundings).value,
      begun ++ (rest.run respond service.surroundings).transcript,
      (rest.run respond service.surroundings).surroundings⟩

/-- Where the worker is in the sequence of all calls. -/
inductive Standing (service : Service Client σ) : Prop
  | listening (controller : Controller) (answers : List Answer)
      (listens : Listens respond gate initial service controller answers)
  | serving (done : List (Call Client)) (call : Call Client)
      (rest : Exchange GateReply (Answer × Controller))
      (begun : List (Exchange.Event GateReply))
      (serves : Serves respond gate initial service done call rest begun)
  | stopped (worker : service.worker = .stopped)
      (all : service.calls = service.taken ++ service.queue)
      (transcript : service.transcript = (sequence respond gate initial service.taken).transcript)
      (mayStop : MayStop respond gate initial service service.taken)
  | gone (worker : service.worker = .gone)
      (front : service.taken <+: service.calls)
      (transcript : service.transcript = (sequence respond gate initial service.calls).transcript)
      (mayStop : MayStop respond gate initial service service.calls)

end Standing

variable {respond : (call : GateCall) → σ → GateReply call × σ} {gate : Gate} {initial : σ}

/-- The sequence once the worker is done with the call it has begun with. -/
theorem Serves.sequence_taken {service : Service Client σ} {done : List (Call Client)}
    {call : Call Client} {rest : Exchange GateReply (Answer × Controller)}
    {begun : List (Exchange.Event GateReply)}
    (serves : Serves respond gate initial service done call rest begun) :
    sequence respond gate initial service.taken =
      let last := rest.run respond service.surroundings
      ⟨((sequence respond gate initial done).value.1 ++ [last.value.1], last.value.2),
        service.transcript ++ last.transcript, last.surroundings⟩ := by
  simp only [serves.taken, sequence_concat, serves.follows, serves.transcript, List.append_assoc]

theorem Standing.taken_front {service : Service Client σ}
    (standing : Standing respond gate initial service) : service.taken <+: service.calls := by
  cases standing with
  | listening _ _ listens => exact ⟨_, listens.all.symm⟩
  | serving _ _ _ _ serves => exact ⟨_, serves.all.symm⟩
  | stopped _ all _ _ => exact ⟨_, all.symm⟩
  | gone _ front _ _ => exact front

theorem Standing.settled_front {service : Service Client σ}
    (standing : Standing respond gate initial service) : service.settled <+: service.calls := by
  have front := standing.taken_front
  unfold settled
  split
  · exact front
  · exact (List.dropLast_prefix _).trans front
  · exact front
  · exact List.prefix_rfl

theorem Standing.transcript_front {service : Service Client σ}
    (standing : Standing respond gate initial service) :
    service.transcript <+: (sequence respond gate initial service.calls).transcript := by
  have front := Service.transcript_extend respond gate initial standing.taken_front
  cases standing with
  | listening _ _ listens =>
      rw [listens.before] at front
      exact front
  | serving _ _ _ _ serves =>
      rw [serves.sequence_taken] at front
      exact (List.prefix_append _ _).trans front
  | stopped _ _ transcript _ =>
      rw [transcript]
      exact front
  | gone _ _ transcript _ => simp [transcript]

theorem Standing.transcript_eq {service : Service Client σ}
    (standing : Standing respond gate initial service) (idle : service.work? respond = none) :
    service.transcript = (sequence respond gate initial service.calls).transcript := by
  cases standing with
  | listening controller answers listens =>
      rcases queue : service.queue with _ | ⟨call, queue⟩
      · rw [listens.all, queue, List.append_nil, listens.before]
      · simp [work?, listens.worker, queue] at idle
  | serving done call rest begun serves => cases rest <;> simp [work?, serves.worker] at idle
  | stopped worker _ _ _ => simp [work?, worker] at idle
  | gone _ _ transcript _ => exact transcript

/-- The worker can go on as long as there is a call that is not settled. -/
theorem Standing.can_work {service : Service Client σ}
    (standing : Standing respond gate initial service)
    (unsettled : service.settled.length < service.calls.length) :
    (service.work? respond).isSome := by
  cases standing with
  | listening controller answers listens =>
      rcases queue : service.queue with _ | ⟨call, queue⟩
      · simp [settled, listens.worker, listens.all, queue] at unsettled
      · simp [work?, listens.worker, queue]
  | serving done call rest begun serves => cases rest <;> simp [work?, serves.worker]
  | stopped worker _ _ _ => simp [work?, worker]
  | gone worker _ _ _ => simp [settled, worker] at unsettled

/-! ## Steps of the worker -/

/-- What the worker has done so far: the calls it has taken, those it is done with, and what it
asked meanwhile. -/
def effort (service : Service Client σ) : Nat :=
  service.transcript.length + service.taken.length + service.settled.length

section Steps

variable (respond gate initial)

/-- Between two states some calls may get settled, all by the same content of their channels. -/
inductive Settles (service later : Service Client σ) : Prop
  | nothing (settled : later.settled = service.settled)
      (channels : later.channels = service.channels)
  | calls (new : List (Call Client)) (newAnswers : List Answer) (content : Channel)
      (settled : later.settled = service.settled ++ new)
      (channels : later.channels = (service.fill new content).channels)
      (answers : (sequence respond gate initial later.settled).value.1 =
        (sequence respond gate initial service.settled).value.1 ++ newAnswers)
      (given : ∀ (index : Nat) (call : Call Client), new[index]? = some call →
        content.result? call.command = newAnswers[index]?)

/-- A step of the worker keeps up with the sequence and costs effort, unless all is settled. -/
structure Advances (service later : Service Client σ) : Prop where
  calls : later.calls = service.calls
  waiting : later.waiting = service.waiting
  returned : later.returned = service.returned
  standing : Standing respond gate initial later
  settles : Settles respond gate initial service later
  effort : service.settled.length < service.calls.length → service.effort < later.effort

end Steps

variable {service : Service Client σ}

theorem Listens.advances_take {controller : Controller} {answers : List Answer}
    (listens : Listens respond gate initial service controller answers) {call : Call Client}
    {queue : List (Call Client)} (waits : service.queue = call :: queue) :
    Advances respond gate initial service { service with
      worker := .serving call (controller.perform call.command)
      queue
      taken := service.taken ++ [call] } where
  calls := rfl
  waiting := rfl
  returned := rfl
  standing := by
    refine .serving service.taken call _ [] ⟨rfl, rfl, ?_, ?_, ?_⟩
    · simp [listens.all, waits]
    · simp [listens.before]
    · simp [listens.before]
  settles := .nothing (by simp [settled, listens.worker]) rfl
  effort := by simp [effort, settled, listens.worker]

theorem Listens.advances_leave {controller : Controller} {answers : List Answer}
    (listens : Listens respond gate initial service controller answers)
    (done : service.queue = []) (alone : service.handles = []) :
    Advances respond gate initial service { service with worker := .stopped } where
  calls := rfl
  waiting := rfl
  returned := rfl
  standing := by
    refine .stopped rfl listens.all ?_ (.inr ⟨alone, done⟩)
    simp [listens.before]
  settles := .nothing (by simp [settled, listens.worker]) rfl
  effort := by simp [settled, listens.worker, listens.all, done]

theorem Serves.advances_ask {done : List (Call Client)} {call : Call Client}
    {question : GateCall} {next : GateReply question → Exchange GateReply (Answer × Controller)}
    {begun : List (Exchange.Event GateReply)}
    (serves : Serves respond gate initial service done call (.ask question next) begun) :
    Advances respond gate initial service { service with
      worker := .serving call (next (respond question service.surroundings).1)
      surroundings := (respond question service.surroundings).2
      transcript := service.transcript ++
        [⟨question, (respond question service.surroundings).1⟩] } where
  calls := rfl
  waiting := rfl
  returned := rfl
  standing := by
    refine .serving done call _
      (begun ++ [⟨question, (respond question service.surroundings).1⟩])
      ⟨rfl, serves.taken, serves.all, ?_, ?_⟩
    · simp [serves.transcript]
    · simp [serves.follows, Exchange.run]
  settles := .nothing (by simp [settled, serves.worker]) rfl
  effort := by simp [effort, settled, serves.worker]

theorem Serves.advances_answer {done : List (Call Client)} {call : Call Client}
    {answer : Answer} {controller : Controller} {begun : List (Exchange.Event GateReply)}
    (serves : Serves respond gate initial service done call (.done (answer, controller)) begun) :
    Advances respond gate initial service { service.fill [call] (.sent answer) with
      worker := if controller.running then .listening controller else .stopped } := by
  have sequenced := serves.sequence_taken
  simp only [Exchange.run, List.append_nil] at sequenced
  have before : service.settled = done := by simp [settled, serves.worker, serves.taken]
  have after : settled { service.fill [call] (.sent answer) with
      worker := if controller.running then .listening controller else .stopped } =
      service.taken := by
    by_cases running : controller.running <;> simp [settled, running, fill]
  refine ⟨rfl, rfl, rfl, ?_, ?_, ?_⟩
  · by_cases running : controller.running = true
    · simp only [running, if_true]
      exact .listening controller _ ⟨rfl, serves.all, sequenced⟩
    · simp only [running]
      refine .stopped rfl serves.all ?_ (.inl ?_)
      · simp [fill, sequenced]
      · simpa [fill, sequenced] using running
  · refine .calls [call] [answer] (.sent answer) ?_ rfl ?_ ?_
    · rw [after, before, serves.taken]
    · rw [after, before, sequenced]
    · rintro (_ | index) other there
      · rfl
      · simp at there
  · intro _
    rw [effort, effort, after, before]
    simp [serves.taken, fill]

/-- With the queue its calls are settled, each by the closing of its channel. -/
theorem advances_go (worker : service.worker = .stopped)
    (all : service.calls = service.taken ++ service.queue)
    (transcript : service.transcript = (sequence respond gate initial service.taken).transcript)
    (mayStop : MayStop respond gate initial service service.taken) :
    Advances respond gate initial service { service.fill service.queue .closed with
      worker := .gone, queue := [] } := by
  have sequenced := mayStop.sequence_append
  rw [← all] at sequenced
  refine ⟨rfl, rfl, rfl, ?_, ?_, ?_⟩
  · refine .gone rfl ⟨_, all.symm⟩ ?_ ?_
    · simp [fill, sequenced, transcript]
    · rcases mayStop with stopped | ⟨alone, _⟩
      · exact .inl (by simp [fill, sequenced, stopped])
      · exact .inr ⟨alone, rfl⟩
  · refine .calls service.queue (service.queue.map fun call => stoppedAnswer call.command) .closed
      ?_ rfl ?_ ?_
    · simp [settled, worker, fill, all]
    · simp [settled, worker, fill, sequenced]
    · intro index call there
      simp [there, Channel.result?]
  · intro unsettled
    simp only [settled, worker] at unsettled
    simp [effort, settled, worker, fill]
    omega

theorem Standing.work {later : Service Client σ} (standing : Standing respond gate initial service)
    (worked : service.work? respond = some later) :
    Advances respond gate initial service later := by
  cases standing with
  | listening controller answers listens =>
      rcases waits : service.queue with _ | ⟨call, queue⟩
      · by_cases alone : service.handles.isEmpty = true
        · -- Unfolding in the hypothesis would also rewrite the queue that the state keeps.
          have left : service.work? respond = some { service with worker := .stopped } := by
            simp [work?, listens.worker, waits, alone]
          rw [left, Option.some.injEq] at worked
          rw [← worked]
          exact listens.advances_leave waits (List.isEmpty_iff.mp alone)
        · simp [work?, listens.worker, waits, alone] at worked
      · simp only [work?, listens.worker, waits, Option.some.injEq] at worked
        rw [← worked]
        exact listens.advances_take waits
  | serving done call rest begun serves =>
      cases rest with
      | done value =>
          simp only [work?, serves.worker, Option.some.injEq] at worked
          rw [← worked]
          exact serves.advances_answer
      | ask question next =>
          simp only [work?, serves.worker, Option.some.injEq] at worked
          rw [← worked]
          exact serves.advances_ask
  | stopped worker all transcript mayStop =>
      simp only [work?, worker, Option.some.injEq] at worked
      rw [← worked]
      exact advances_go worker all transcript mayStop
  | gone worker front transcript mayStop => simp [work?, worker] at worked

end Service

end TrustGate
