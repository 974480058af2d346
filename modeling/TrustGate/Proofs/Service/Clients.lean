import TrustGate.Proofs.Service.Worker

/-!
# The clients of a service

Calls are numbered in the order in which they are made, and each has the channel
of its number. `Coherent` says that the worker stands where it should, that the
channels hold the answers of the sequence as far as calls are settled, and that
calls have returned nothing else. Every action of every party keeps it, so a run
does, whatever the order of the actions.
-/

namespace TrustGate

namespace Service

open Controller (Answer Command stoppedAnswer)

variable {Client σ : Type} {respond : (call : GateCall) → σ → GateReply call × σ} {gate : Gate}
  {initial : σ} {service : Service Client σ}

theorem getElem?_of_front {α : Type} {front list : List α} (isFront : front <+: list)
    {index : Nat} {value : α} (there : front[index]? = some value) : list[index]? = some value := by
  obtain ⟨rest, rfl⟩ := isFront
  obtain ⟨bound, _⟩ := List.getElem?_eq_some_iff.mp there
  rw [List.getElem?_append_left bound, there]

/-! ## Channels -/

/-- The channel of every settled call holds its answer, and the other channels are untouched. -/
structure Filled (channels : Nat → Channel) (calls : List (Call Client)) (answers : List Answer) :
    Prop where
  settled : ∀ (index : Nat) (call : Call Client), calls[index]? = some call →
    (channels index).result? call.command = answers[index]?
  pending : ∀ index, calls.length ≤ index → channels index = .pending

/-- Calls that bear the numbers from some number on. -/
def NumberedFrom (start : Nat) (calls : List (Call Client)) : Prop :=
  ∀ (index : Nat) (call : Call Client), calls[index]? = some call → call.number = start + index

theorem NumberedFrom.append_right {start : Nat} {front back : List (Call Client)}
    (numbered : NumberedFrom start (front ++ back)) : NumberedFrom (start + front.length) back := by
  intro index call there
  have shifted := numbered (front.length + index) call (by simp [List.getElem?_append, there])
  omega

theorem NumberedFrom.of_front {start : Nat} {front calls : List (Call Client)}
    (numbered : NumberedFrom start calls) (isFront : front <+: calls) :
    NumberedFrom start front := by
  intro index call there
  exact numbered index call (getElem?_of_front isFront there)

theorem NumberedFrom.concat {start : Nat} {calls : List (Call Client)} {call : Call Client}
    (numbered : NumberedFrom start calls) (number : call.number = start + calls.length) :
    NumberedFrom start (calls ++ [call]) := by
  intro index other there
  rcases Nat.lt_or_ge index calls.length with old | beyond
  · rw [List.getElem?_append_left old] at there
    exact numbered index other there
  · obtain ⟨bound, same⟩ := List.getElem?_eq_some_iff.mp there
    rw [List.length_append, List.length_singleton] at bound
    obtain rfl : index = calls.length := by omega
    simp only [List.getElem_concat_length] at same
    rw [← same, number]

theorem NumberedFrom.getElem?_number {calls : List (Call Client)} {call : Call Client}
    (numbered : NumberedFrom 0 calls) (mem : call ∈ calls) : calls[call.number]? = some call := by
  obtain ⟨index, there⟩ := List.mem_iff_getElem?.mp mem
  have number := numbered index call there
  rw [number, Nat.zero_add, there]

theorem NumberedFrom.nodup {start : Nat} {calls : List (Call Client)}
    (numbered : NumberedFrom start calls) : calls.Nodup := by
  refine List.pairwise_iff_getElem.mpr ?_
  intro first second firstBound secondBound less same
  have one := numbered first _ (List.getElem?_eq_getElem firstBound)
  have other := numbered second _ (List.getElem?_eq_getElem secondBound)
  rw [same] at one
  omega

theorem fill_of_mem {service : Service Client σ} {calls : List (Call Client)} {call : Call Client}
    (mem : call ∈ calls) (content : Channel) :
    (service.fill calls content).channels call.number = content := by
  have found : calls.any (·.number == call.number) = true :=
    List.any_eq_true.mpr ⟨call, mem, by simp⟩
  exact if_pos found

theorem fill_of_outside {service : Service Client σ} {calls : List (Call Client)}
    {start number : Nat} (numbered : NumberedFrom start calls) (content : Channel)
    (outside : number < start ∨ start + calls.length ≤ number) :
    (service.fill calls content).channels number = service.channels number := by
  have absent : ¬calls.any (·.number == number) = true := by
    simp only [List.any_eq_true, beq_iff_eq]
    rintro ⟨call, mem, rfl⟩
    obtain ⟨index, bound, rfl⟩ := List.getElem_of_mem mem
    have number := numbered index calls[index] (by simp)
    omega
  exact if_neg absent

theorem Filled.fill {service : Service Client σ} {calls new : List (Call Client)}
    {answers newAnswers : List Answer} {content : Channel}
    (filled : Filled service.channels calls answers) (length : answers.length = calls.length)
    (numbered : NumberedFrom calls.length new)
    (given : ∀ (index : Nat) (call : Call Client), new[index]? = some call →
      content.result? call.command = newAnswers[index]?) :
    Filled (service.fill new content).channels (calls ++ new) (answers ++ newAnswers) := by
  constructor
  · intro index call there
    by_cases old : index < calls.length
    · rw [fill_of_outside numbered content (.inl old), List.getElem?_append_left (by omega)]
      rw [List.getElem?_append_left old] at there
      exact filled.settled index call there
    · rw [List.getElem?_append_right (by omega)] at there ⊢
      have number : call.number = index := by
        rw [numbered _ call there]
        omega
      rw [length, ← given _ call there, ← number, fill_of_mem (List.mem_of_getElem? there)]
  · intro index beyond
    rw [List.length_append] at beyond
    rw [fill_of_outside numbered content (.inr (by omega))]
    exact filled.pending index (by omega)

/-! ## Steps of the clients -/

section Held

variable {client : Client} (held : client ∈ service.handles)
include held

/-- While somebody has a handle, the worker stops only when it is told to. -/
theorem MayStop.running_eq {calls : List (Call Client)}
    (mayStop : MayStop respond gate initial service calls) :
    (sequence respond gate initial calls).value.2.running = false := by
  rcases mayStop with stopped | ⟨alone, _⟩
  · exact stopped
  · simp [alone] at held

theorem Standing.with_handles (standing : Standing respond gate initial service)
    (handles : List Client) : Standing respond gate initial { service with handles } := by
  cases standing with
  | listening controller answers listens =>
      exact .listening controller answers ⟨listens.worker, listens.all, listens.before⟩
  | serving done call rest begun serves =>
      exact .serving done call rest begun
        ⟨serves.worker, serves.taken, serves.all, serves.transcript, serves.follows⟩
  | stopped worker all transcript mayStop =>
      exact .stopped worker all transcript (.inl (mayStop.running_eq held))
  | gone worker front transcript mayStop =>
      exact .gone worker front transcript (.inl (mayStop.running_eq held))

omit held in
theorem send_of_present (present : service.worker ≠ .gone) (call : Call Client) :
    service.send call = { service with queue := service.queue ++ [call] } := by
  unfold send
  split
  · contradiction
  · rfl

omit held in
/-- A call that is made is no work. -/
theorem send_frame (call : Call Client) :
    (service.send call).returned = service.returned ∧
      (service.send call).transcript = service.transcript ∧
      (service.send call).taken = service.taken := by
  unfold send
  split <;> simp [fill]

/-- A call that is made goes into the queue, or is settled at once if there is none. -/
theorem Standing.send (standing : Standing respond gate initial service) (call : Call Client)
    (waiting : Client → Option (Call Client)) :
    let later := { service.send call with calls := service.calls ++ [call], waiting }
    Standing respond gate initial later ∧ Settles respond gate initial service later := by
  intro later
  cases standing with
  | listening controller answers listens =>
      simp only [later, send_of_present (show service.worker ≠ .gone by simp [listens.worker])]
      refine ⟨.listening controller answers ⟨listens.worker, ?_, listens.before⟩, ?_⟩
      · simp [listens.all]
      · exact .nothing (by simp [settled, listens.worker]) rfl
  | serving done served rest begun serves =>
      simp only [later, send_of_present (show service.worker ≠ .gone by simp [serves.worker])]
      refine ⟨.serving done served rest begun
        ⟨serves.worker, serves.taken, ?_, serves.transcript, serves.follows⟩, ?_⟩
      · simp [serves.all]
      · exact .nothing (by simp [settled, serves.worker]) rfl
  | stopped worker all transcript mayStop =>
      simp only [later, send_of_present (show service.worker ≠ .gone by simp [worker])]
      refine ⟨.stopped worker ?_ transcript (.inl (mayStop.running_eq held)), ?_⟩
      · simp [all]
      · exact .nothing (by simp [settled, worker]) rfl
  | gone worker front transcript mayStop =>
      -- The caller has a handle, so the worker is gone because it was told to stop.
      have sent : service.send call = service.fill [call] .closed := by
        simp [Service.send, worker]
      have sequenced := sequence_append_of_stopped respond gate initial
        (mayStop.running_eq held) [call]
      simp only [later, sent]
      refine ⟨.gone worker ?_ ?_ (.inl ?_), .calls [call] [stoppedAnswer call.command] .closed
        ?_ rfl ?_ ?_⟩
      · exact front.trans (List.prefix_append _ _)
      · simp [fill, sequenced, transcript]
      · simpa [sequenced] using mayStop.running_eq held
      · simp [settled, worker, fill]
      · simp [settled, worker, fill, sequenced]
      · rintro (_ | index) other there
        · simp at there
          simp [Channel.result?, there]
        · simp at there

end Held

theorem Standing.with_record (standing : Standing respond gate initial service)
    (waiting : Client → Option (Call Client)) (returned : List (Call Client × Answer)) :
    Standing respond gate initial { service with waiting, returned } := by
  cases standing with
  | listening controller answers listens =>
      exact .listening controller answers ⟨listens.worker, listens.all, listens.before⟩
  | serving done call rest begun serves =>
      exact .serving done call rest begun
        ⟨serves.worker, serves.taken, serves.all, serves.transcript, serves.follows⟩
  | stopped worker all transcript mayStop => exact .stopped worker all transcript mayStop
  | gone worker front transcript mayStop => exact .gone worker front transcript mayStop

/-! ## All steps -/

theorem Settles.settled_front {later : Service Client σ}
    (settles : Settles respond gate initial service later) :
    service.settled <+: later.settled := by
  cases settles with
  | nothing settled _ => simp [settled]
  | calls new _ _ settled _ _ _ => exact ⟨new, settled.symm⟩

theorem Settles.filled {later : Service Client σ}
    (settles : Settles respond gate initial service later)
    (numbered : NumberedFrom 0 later.settled)
    (filled : Filled service.channels service.settled
      (sequence respond gate initial service.settled).value.1) :
    Filled later.channels later.settled (sequence respond gate initial later.settled).value.1 := by
  cases settles with
  | nothing settled channels => rwa [settled, channels]
  | calls new newAnswers content settled channels answers given =>
      have length := length_answers respond gate initial service.settled
      rw [settled] at numbered
      have numberedNew : NumberedFrom service.settled.length new := by
        simpa using numbered.append_right
      rw [answers, channels, settled]
      exact filled.fill length numberedNew given

variable (respond gate initial) in
/-- A service that has done so far what the sequence of its calls does. -/
structure Coherent (service : Service Client σ) : Prop where
  numbered : NumberedFrom 0 service.calls
  standing : Standing respond gate initial service
  filled : Filled service.channels service.settled
    (sequence respond gate initial service.settled).value.1
  waiting : ∀ client call, service.waiting client = some call →
    call ∈ service.calls ∧ call.client = client ∧ call.command.returns = true
  returned : ∀ call answer, (call, answer) ∈ service.returned →
    call ∈ service.calls ∧ call.command.returns = true ∧
      (sequence respond gate initial service.settled).value.1[call.number]? = some answer

theorem coherent_spawn (client : Client) :
    Coherent respond gate initial (spawn gate initial client) where
  numbered := by simp [spawn, NumberedFrom]
  standing := .listening { gate } [] ⟨rfl, rfl, rfl⟩
  filled := ⟨by simp [spawn, settled], by simp [spawn]⟩
  waiting := by simp [spawn]
  returned := by simp [spawn]

/-- The client and the command of the call that an action makes, if it makes one. -/
def Action.made? : Action Client → Option (Client × Command)
  | .call client command => some (client, command)
  | _ => none

def Call.made (call : Call Client) : Client × Command :=
  (call.client, call.command)

variable (respond gate initial) in
/-- What actions keep between two states. As long as some call of the first state is not settled,
all the work done in between is effort. -/
structure Leads (actions : List (Action Client)) (service later : Service Client σ) : Prop where
  coherent : Coherent respond gate initial later
  calls : service.calls <+: later.calls
  made : later.calls.map Call.made = service.calls.map Call.made ++ actions.filterMap Action.made?
  settled : service.settled <+: later.settled
  effort : later.settled.length < service.calls.length →
    service.effort + actions.countP Action.isWork ≤ later.effort

theorem Coherent.leads_step {action : Action Client} {later : Service Client σ}
    (coherent : Coherent respond gate initial service)
    (numbered : NumberedFrom 0 later.calls) (calls : service.calls <+: later.calls)
    (made : later.calls.map Call.made = service.calls.map Call.made ++ action.made?.toList)
    (standing : Standing respond gate initial later)
    (settles : Settles respond gate initial service later)
    (waiting : ∀ client call, later.waiting client = some call →
      call ∈ later.calls ∧ call.client = client ∧ call.command.returns = true)
    (returned : ∀ entry ∈ later.returned, entry ∈ service.returned ∨
      entry.1 ∈ service.calls ∧ entry.1.command.returns = true ∧
        (sequence respond gate initial service.settled).value.1[entry.1.number]? = some entry.2)
    (effort : service.settled.length < service.calls.length →
      service.effort + [action].countP Action.isWork ≤ later.effort) :
    Leads respond gate initial [action] service later where
  calls
  made := by
    rw [made]
    cases said : action.made? <;> simp [said]
  settled := settles.settled_front
  effort := by
    intro unsettled
    have fewer := settles.settled_front.length_le
    exact effort (by omega)
  coherent :=
    { numbered
      standing
      filled := settles.filled (numbered.of_front standing.settled_front) coherent.filled
      waiting
      returned := by
        intro call answer entry
        obtain ⟨called, returns, answered⟩ :
            call ∈ service.calls ∧ call.command.returns = true ∧
              (sequence respond gate initial service.settled).value.1[call.number]? =
                some answer := by
          rcases returned (call, answer) entry with old | new
          · exact coherent.returned call answer old
          · exact new
        have kept := answers_extend respond gate initial settles.settled_front
        exact ⟨calls.subset called, returns, getElem?_of_front kept answered⟩ }

theorem Coherent.leads_work {later : Service Client σ}
    (coherent : Coherent respond gate initial service)
    (worked : service.work? respond = some later) :
    Leads respond gate initial [.work] service later := by
  have advances := coherent.standing.work worked
  refine coherent.leads_step ?_ ?_ ?_ advances.standing advances.settles ?_ ?_ ?_
  · rw [advances.calls]
    exact coherent.numbered
  · simp [advances.calls]
  · simp [advances.calls, Action.made?]
  · rw [advances.calls, advances.waiting]
    exact coherent.waiting
  · rw [advances.returned]
    exact fun entry old => .inl old
  · intro unsettled
    exact advances.effort unsettled

theorem Coherent.leads_handles {action : Action Client} {client : Client}
    (coherent : Coherent respond gate initial service) (held : client ∈ service.handles)
    (rests : action.isWork = false) (silent : action.made? = none) (handles : List Client) :
    Leads respond gate initial [action] service { service with handles } := by
  refine coherent.leads_step coherent.numbered List.prefix_rfl (by simp [silent])
    (coherent.standing.with_handles held handles) (.nothing rfl rfl) coherent.waiting
    (fun entry old => .inl old) ?_
  intro _
  simp [rests, effort, settled]

theorem Coherent.getElem?_settled (coherent : Coherent respond gate initial service)
    {call : Call Client} (called : call ∈ service.calls)
    (settled : call.number < service.settled.length) :
    service.settled[call.number]? = some call := by
  rw [← coherent.numbered.getElem?_number called, List.getElem?_eq_getElem settled]
  exact (getElem?_of_front coherent.standing.settled_front
    (List.getElem?_eq_getElem settled)).symm

/-- What a call returns is the answer that the sequence has for it. -/
theorem Coherent.answer_of_result (coherent : Coherent respond gate initial service)
    {call : Call Client} (called : call ∈ service.calls) {answer : Answer}
    (result : (service.channels call.number).result? call.command = some answer) :
    (sequence respond gate initial service.settled).value.1[call.number]? = some answer := by
  rcases Nat.lt_or_ge call.number service.settled.length with settled | unsettled
  · rw [← coherent.filled.settled _ _ (coherent.getElem?_settled called settled), result]
  · simp [coherent.filled.pending _ unsettled, Channel.result?] at result

section Clients

variable [DecidableEq Client] {client : Client} {later : Service Client σ}

theorem held_of_isFree (free : service.isFree client = true) : client ∈ service.handles :=
  (of_decide_eq_true free).1

theorem Coherent.leads_call {command : Command} (coherent : Coherent respond gate initial service)
    (called : service.call? client command = some later) :
    Leads respond gate initial [.call client command] service later := by
  simp only [call?, Option.ite_none_right_eq_some, Option.some.injEq] at called
  obtain ⟨free, rfl⟩ := called
  have sent := coherent.standing.send (held_of_isFree free) ⟨service.calls.length, client, command⟩
    fun other => if other = client ∧ command.returns then
      some ⟨service.calls.length, client, command⟩ else service.waiting other
  obtain ⟨returned, transcript, taken⟩ :=
    @send_frame _ _ service ⟨service.calls.length, client, command⟩
  refine coherent.leads_step ?_ (List.prefix_append _ _) ?_ sent.1 sent.2 ?_ ?_ ?_
  · exact coherent.numbered.concat (by simp)
  · simp [Call.made, Action.made?]
  · intro other call waits
    by_cases new : other = client ∧ command.returns = true
    · simp only [if_pos new, Option.some.injEq] at waits
      simp [← waits, new]
    · simp only [if_neg new] at waits
      obtain ⟨called, own⟩ := coherent.waiting other call waits
      exact ⟨List.mem_append_left _ called, own⟩
  · intro entry old
    rw [returned] at old
    exact .inl old
  · intro _
    have grown := sent.2.settled_front.length_le
    simp only [effort, transcript, taken, Action.isWork, List.countP_singleton] at grown ⊢
    simp only [Bool.false_eq_true, ↓reduceIte]
    omega

theorem Coherent.leads_receive (coherent : Coherent respond gate initial service)
    (received : service.receive? client = some later) :
    Leads respond gate initial [.receive client] service later := by
  simp only [receive?, Option.bind_eq_bind, Option.bind_eq_some_iff, Option.pure_def,
    Option.some.injEq] at received
  obtain ⟨call, waits, answer, result, rfl⟩ := received
  refine coherent.leads_step coherent.numbered List.prefix_rfl (by simp [Action.made?])
    (coherent.standing.with_record _ _) (.nothing rfl rfl) ?_ ?_ ?_
  · intro other call still
    by_cases same : other = client
    · simp [same] at still
    · simp only [if_neg same] at still
      exact coherent.waiting other call still
  · intro entry among
    rcases List.mem_append.mp among with old | new
    · exact .inl old
    · obtain rfl := List.mem_singleton.mp new
      obtain ⟨called, -, returns⟩ := coherent.waiting client call waits
      exact .inr ⟨called, returns, coherent.answer_of_result called result⟩
  · intro _
    simp [Action.isWork, effort, settled]

theorem Coherent.leads_action {action : Action Client}
    (coherent : Coherent respond gate initial service)
    (stepped : service.step? respond action = some later) :
    Leads respond gate initial [action] service later := by
  cases action with
  | clone client newcomer =>
      simp only [step?, clone?, Option.ite_none_right_eq_some, Option.some.injEq] at stepped
      obtain ⟨⟨free, _⟩, rfl⟩ := stepped
      exact coherent.leads_handles (held_of_isFree free) rfl rfl _
  | drop client =>
      simp only [step?, drop?, Option.ite_none_right_eq_some, Option.some.injEq] at stepped
      obtain ⟨free, rfl⟩ := stepped
      exact coherent.leads_handles (held_of_isFree free) rfl rfl _
  | call client command => exact coherent.leads_call stepped
  | receive client => exact coherent.leads_receive stepped
  | work => exact coherent.leads_work stepped

/-! ## Runs -/

theorem run?_cons (action : Action Client) (actions : List (Action Client)) :
    service.run? respond (action :: actions) =
      (service.step? respond action).bind fun next => next.run? respond actions := by
  simp [run?]

omit [DecidableEq Client] in
theorem Leads.trans {first second : List (Action Client)} {middle later : Service Client σ}
    (front : Leads respond gate initial first service middle)
    (rest : Leads respond gate initial second middle later) :
    Leads respond gate initial (first ++ second) service later where
  coherent := rest.coherent
  calls := front.calls.trans rest.calls
  made := by simp [rest.made, front.made]
  settled := front.settled.trans rest.settled
  effort := by
    intro unsettled
    have calls := front.calls.length_le
    have settled := rest.settled.length_le
    have before := front.effort (by omega)
    have after := rest.effort (by omega)
    rw [List.countP_append]
    omega

/-- What one action keeps, a run keeps. -/
theorem Coherent.leads {actions : List (Action Client)}
    (coherent : Coherent respond gate initial service)
    (ran : service.run? respond actions = some later) :
    Leads respond gate initial actions service later := by
  induction actions generalizing service with
  | nil =>
      obtain rfl : service = later := by simpa [run?] using ran
      exact ⟨coherent, List.prefix_rfl, by simp, List.prefix_rfl, by simp⟩
  | cons action actions ih =>
      rw [run?_cons, Option.bind_eq_some_iff] at ran
      obtain ⟨next, stepped, ran⟩ := ran
      have step := coherent.leads_action stepped
      exact step.trans (ih step.coherent ran)

end Clients

end Service

end TrustGate
