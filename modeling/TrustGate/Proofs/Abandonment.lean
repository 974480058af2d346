import TrustGate.Proofs.Session

/-!
# Sessions left without an outcome

The user answers a prompt and leaves the screen. If a tick comes between the two,
it takes in the outcome, and the screen closes with it. If not, the screen closes
without an outcome: leaving it looks at nothing, though the answer is in the queue
and the gate still acts on it. So what is reported as closed before a decision may
have been decided.

The invariant follows the one flow of a session. Either it is pending, and the
queue holds answers to its prompts and at the end perhaps the command that drops
it; or it is resolved, and an outcome has been reported that the screen has taken
in or will find at its next tick; or it was dropped. The main statement says which
sessions without an outcome were undecided: those in which the prompt has not been
answered since the last tick.
-/

namespace TrustGate

/-- The response is an answer to a prompt about the flow. -/
def Flow.IsAnsweredBy (flow : Flow) (response : Response) : Prop :=
  ∃ asDialog helpLink prompt,
    flow.prompt? asDialog helpLink = some prompt ∧ prompt.Answers response

/-- Whether a command accepts or refuses a connection. -/
def Controller.Command.decides : Controller.Command → Bool
  | .operate (.respond response) => response.action ≠ .review
  | _ => false

namespace Session

open Gate

/-- A session as it begins: a gate that began fresh asks about its flow, and the screen has just
been opened. No prompt was there before, and no outcome of another flow waits to be taken up. -/
structure Presented (session : Session) : Prop where
  reached : ∃ settings initial past, initial.slot.current? = none ∧
    Reached Surroundings.reply { settings } initial past session.controller.gate
      session.surroundings
  running : session.controller.running = true
  asks : session.controller.gate.state = .awaitingApproval
  untaken : session.surroundings.outcomes = []
  opened : session.screen = {}

/-- The flow waits for an answer, and the prompt in the slot is about it. -/
structure Waits (session : Session) (flow : Flow) : Prop where
  running : session.controller.running = true
  coherent : session.controller.gate.Coherent
  isPending : session.controller.gate.flow? = some flow
  awaiting : flow.stage = .approval
  onScreen : session.controller.gate.OnScreen session.surroundings.slot
  untaken : session.surroundings.outcomes = []

variable {session : Session} {flow : Flow} {response : Response}

theorem Presented.waits (presented : session.Presented) : ∃ flow, session.Waits flow := by
  obtain ⟨settings, initial, past, empty, reached⟩ := presented.reached
  obtain ⟨flow, isPending, awaiting⟩ := state_eq_awaitingApproval_iff.mp presented.asks
  exact ⟨flow, {
    running := presented.running
    coherent := reached.coherent (coherent_of_fresh settings)
    isPending
    awaiting
    onScreen := reached.onScreen Surroundings.showsIn_reply (by simp [OnScreen, empty])
    untaken := presented.untaken }⟩

/-- An answer to a prompt about the pending flow does what it asks for. -/
theorem Waits.effect_of_answer (waits : session.Waits flow) (answered : flow.IsAnsweredBy response)
    {effect : Effect} {result : Option Bool}
    (brings : session.controller.gate.Brings (.respond response) result effect) :
    match response.action with
    | .review => ∃ prompt handle, effect = .presented flow prompt handle
    | .accept => effect = .accepted flow
    | .reject => effect = .rejected flow := by
  obtain ⟨asDialog, helpLink, prompt, prompts, answers⟩ := answered
  have parts := waits.coherent.flow flow waits.isPending
  have current : response.ssid? = some flow.ssid := by
    rw [answers.ssid?, Flow.ssid_of_prompt? prompts]
  have asked := brings.of_answer (hears_of_answers prompts answers parts.registered)
    waits.isPending current (parts.certified waits.awaiting)
  cases action : response.action with
  | review =>
      rw [action] at asked
      exact asked.imp fun _ asked => asked.imp fun _ asked => asked.2
  | accept | reject => rwa [action] at asked

/-- A review leaves the flow waiting, under a dialog that takes the place of the prompt. -/
theorem Waits.review (waits : session.Waits flow) (answered : flow.IsAnsweredBy response)
    (review : response.action = .review) :
    let step := session.send (Screen.answerCommand response)
    step.session.Waits flow ∧ seen reported? step.events = [] ∧
      session.surroundings.Keeps step.session.surroundings := by
  unfold Screen.answerCommand
  intro step
  obtain ⟨effect, result, brings, makes, controller⟩ :=
    performs_send waits.running (.respond response)
  have presents := waits.effect_of_answer answered brings
  rw [review] at presents
  obtain ⟨prompt, handle, rfl⟩ := presents
  have answers : Exchange.Answered Surroundings.reply session.surroundings step.events
    step.session.surroundings := session.answered_send _
  have silent : seen reported? step.events = [] := reports_of_makes makes
  have stays : { flow with stage := .approval } = flow := by rw [← waits.awaiting]
  refine ⟨?_, silent, Surroundings.keeps_of_answered answers (changes_of_makes makes not_false)⟩
  exact {
    running := by rw [controller]
    coherent := by rw [controller]; exact waits.coherent.after brings.fits
    isPending := by rw [controller]; exact congrArg some stays
    awaiting := waits.awaiting
    onScreen := by
      rw [controller]
      exact .after Surroundings.showsIn_reply waits.onScreen brings.fits makes answers
    untaken := by rw [outcomes_send, waits.untaken, silent]; rfl }

theorem Waits.decide (waits : session.Waits flow) (answered : flow.IsAnsweredBy response)
    (decides : response.action ≠ .review) :
    seen reported? (session.send (Screen.answerCommand response)).events ≠ [] := by
  obtain ⟨effect, result, brings, makes, -⟩ := performs_send waits.running (.respond response)
  have reports := reports_of_makes makes
  have asked := waits.effect_of_answer answered brings
  cases action : response.action with
  | review => exact absurd action decides
  | accept | reject =>
      rw [action] at asked
      subst asked
      simp [Screen.answerCommand, reports, Effect.reports]

theorem Waits.clear (waits : session.Waits flow) :
    let step := session.send (.operate .clear)
    seen reported? step.events = [] ∧ session.surroundings.Keeps step.session.surroundings := by
  intro step
  obtain ⟨effect, result, brings, makes, -⟩ := performs_send waits.running .clear
  cases brings
  exact ⟨reports_of_makes makes,
    Surroundings.keeps_of_answered (session.answered_send _) (changes_of_makes makes not_false)⟩

/-- The prompt in the slot is about the flow that waits. -/
theorem Waits.isAnsweredBy (waits : session.Waits flow) {handle : PromptHandle} {prompt : Prompt}
    (current : session.surroundings.slot.current? = some (handle, prompt))
    (answers : prompt.Answers response) : flow.IsAnsweredBy response := by
  obtain ⟨-, pending, asDialog, isPending, prompts⟩ := waits.onScreen handle prompt current
  cases waits.isPending.symm.trans isPending
  exact ⟨asDialog, _, prompt, prompts, answers⟩

/-- The flow waits on, whatever is done to the screen, and if a prompt is taken out of the slot. -/
theorem Waits.frame (waits : session.Waits flow) {later : Session}
    (controller : later.controller = session.controller)
    (slot : later.surroundings.slot = session.surroundings.slot ∨
      ∃ handle, later.surroundings.slot = session.surroundings.slot.remove handle)
    (outcomes : later.surroundings.outcomes = session.surroundings.outcomes) :
    later.Waits flow where
  running := controller ▸ waits.running
  coherent := controller ▸ waits.coherent
  isPending := controller ▸ waits.isPending
  awaiting := waits.awaiting
  onScreen := by
    rw [controller]
    rcases slot with same | ⟨handle, removed⟩
    · exact same ▸ waits.onScreen
    · intro held prompt current
      rw [removed] at current
      exact waits.onScreen held prompt (PromptSlot.current?_of_remove current).1
  untaken := outcomes.trans waits.untaken

end Session

namespace QueuedSession

open Gate

/-- Where the flow stands that a session began with. -/
inductive Standing (presented : Session) (flow : Flow) (now : QueuedSession) : Prop
  /-- The flow waits. The queue holds answers to its prompts, and the command that drops it once the
  screen has been left. -/
  | waiting (waits : now.session.Waits flow)
      (kept : presented.surroundings.Keeps now.session.surroundings)
      (silent : seen reported? now.events = [])
      (undecided : now.session.screen.outcome? = none)
      (answers : List Response) (answered : ∀ response ∈ answers, flow.IsAnsweredBy response)
      (queued : now.queue = answers.map Screen.answerCommand ++
        if now.session.screen.shouldQuit then [.operate .clear] else [])
      (recorded : now.recent.any (·.decides) = now.queue.any (·.decides))
  /-- An outcome has been reported. The screen has taken one in, or finds one at the next tick. -/
  | resolved (reported : seen reported? now.events ≠ [])
      (met : now.session.surroundings.outcomes ≠ [] ∧ now.recent.any (·.decides) = true ∨
        now.session.screen.outcome? ≠ none)
  /-- The flow was dropped when the screen had been left. -/
  | dropped (kept : presented.surroundings.Keeps now.session.surroundings)
      (silent : seen reported? now.events = [])
      (quit : now.session.screen.shouldQuit = true)
      (idle : now.queue = [])
      (recorded : now.recent.any (·.decides) = false)

variable {presented : Session} {flow : Flow} {now : QueuedSession}

theorem standing_of_presented {session : Session} (begins : session.Presented) :
    ∃ flow, Standing session flow ⟨session, [], [], []⟩ := by
  obtain ⟨flow, waits⟩ := begins.waits
  exact ⟨flow, .waiting waits ⟨rfl, rfl⟩ rfl (by rw [begins.opened]) [] (by simp)
    (by simp [begins.opened]) rfl⟩

theorem Standing.work (standing : Standing presented flow now) :
    Standing presented flow now.work := by
  cases queue : now.queue with
  | nil => rwa [work_of_idle queue]
  | cons command rest =>
      rw [work_of_queued queue]
      cases standing with
      | dropped kept silent quit idle recorded => simp [queue] at idle
      | resolved reported met =>
          refine .resolved (by simp [reported]) (met.imp_left ?_)
          exact fun ⟨outcomes, decided⟩ => ⟨by simp [Session.outcomes_send, outcomes], decided⟩
      | waiting waits kept silent undecided answers answered queued recorded =>
          rw [queue] at queued recorded
          cases answers with
          | nil =>
              obtain ⟨quit, rfl, rfl⟩ : now.session.screen.shouldQuit = true ∧
                  command = .operate .clear ∧ rest = [] := by
                split at queued <;> simp_all
              obtain ⟨unreported, keeps⟩ := waits.clear
              exact .dropped (kept.trans keeps) (by simp [silent, unreported]) quit rfl
                (by simpa [Controller.Command.decides] using recorded)
          | cons response answers =>
              obtain ⟨rfl, remaining⟩ := List.cons.inj queued
              have answer : flow.IsAnsweredBy response := answered response (by simp)
              by_cases review : response.action = .review
              · obtain ⟨waits, unreported, keeps⟩ := waits.review answer review
                refine .waiting waits (kept.trans keeps) (by simp [silent, unreported]) undecided
                  answers (fun response mem => answered response (by simp [mem])) remaining ?_
                simpa [Screen.answerCommand, Controller.Command.decides, review] using recorded
              · have reports := waits.decide answer review
                refine .resolved (by simp [reports]) (.inl ⟨?_, ?_⟩)
                · simp [Session.outcomes_send, reports]
                · simpa [Screen.answerCommand, Controller.Command.decides, review] using recorded

theorem Standing.press (standing : Standing presented flow now)
    (stays : now.session.screen.shouldQuit = false) (press : KeyPress) :
    Standing presented flow (now.press press) := by
  unfold QueuedSession.press
  have presses := now.session.screen.presses_press now.session.surroundings.slot press
  generalize now.session.screen.press now.session.surroundings.slot press = effect at presses
  cases standing with
  | dropped kept silent quit idle recorded => simp [quit] at stays
  | resolved reported met =>
      refine .resolved reported ?_
      cases presses with
      | leaves quits undecided | stays quits undecided | answers quits undecided =>
          rw [undecided]
          exact met.imp_left fun ⟨outcomes, decided⟩ =>
            ⟨outcomes, by rw [List.any_append, decided, Bool.true_or]⟩
  | waiting waits kept silent undecided answers answered queued recorded =>
      -- The screen is still open, so an answer comes before the command that drops the flow.
      simp only [stays, Bool.false_eq_true, if_false, List.append_nil] at queued
      have recorded (commands : List Controller.Command) :
          (now.recent ++ commands).any (·.decides) = (now.queue ++ commands).any (·.decides) := by
        rw [List.any_append, List.any_append, recorded]
      cases presses with
      | leaves quits same =>
          exact .waiting (waits.frame rfl (.inl rfl) rfl) kept silent (same.trans undecided)
            answers answered (by simp [queued, quits]) (recorded _)
      | stays quits same =>
          exact .waiting (waits.frame rfl (.inl rfl) rfl) kept silent (same.trans undecided)
            answers answered (by simp [queued, quits, stays]) (recorded _)
      | @answers _ left handle _ response quits same current answer taken =>
          refine .waiting (waits.frame rfl (taken.imp_right (⟨handle, ·⟩)) rfl) kept silent
            (same.trans undecided) (answers ++ [response]) ?_ (by simp [queued, quits, stays])
            (recorded _)
          intro response mem
          rcases List.mem_append.mp mem with before | last
          · exact answered response before
          · cases List.mem_singleton.mp last
            exact waits.isAnsweredBy current answer

theorem Standing.settle (standing : Standing presented flow now) :
    Standing presented flow now.settle :=
  settle_induction (fun _ standing => standing.work) standing

theorem Standing.tick (standing : Standing presented flow now)
    (stays : now.session.screen.shouldQuit = false) : Standing presented flow now.tick := by
  simp only [QueuedSession.tick]
  rw [← (frame_settle now).1] at stays
  have idle := queue_settle now
  have settled := standing.settle
  generalize now.settle = now at stays idle settled
  have ticks := now.session.ticks_tick
  generalize now.session.tick = step at ticks
  cases settled with
  | dropped kept silent quit => simp [quit] at stays
  | resolved reported met =>
      refine .resolved (by simp [reported]) (.inr ?_)
      cases ticks with
      | goesOn snapshot empty => simpa [empty] using met
      | ends snapshot oldest => simp
  | waiting waits kept silent undecided answers answered queued recorded =>
      cases ticks with
      | goesOn snapshot empty =>
          exact .waiting (waits.frame rfl (.inl rfl) rfl) kept (by simp [silent]) undecided []
            (by simp) (by simp [idle, stays]) (by simp [idle])
      | ends snapshot oldest => simp [waits.untaken] at oldest

theorem Standing.step (standing : Standing presented flow now) (action : Action) :
    Standing presented flow (now.step action) := by
  cases action with
  | work => exact standing.work
  | happen happening =>
      simp only [QueuedSession.step]
      split
      · exact standing
      · next stays =>
          rw [Bool.not_eq_true] at stays
          cases happening with
          | press press => exact standing.press stays press
          | tick => exact standing.tick stays

theorem Standing.run (standing : Standing presented flow now) (actions : List Action) :
    Standing presented flow (now.run actions) := by
  induction actions generalizing now with
  | nil => exact standing
  | cons action actions ih => exact ih (standing.step action)

/-- Let a session begin with a prompt, let keys, ticks and the worker follow one another in any
order, and let the screen have no outcome, be it left or not. When the worker has taken all that is
queued, the gate has reported no outcome and the store is what it was, if and only if since the last
tick the user has given no answer that accepts or refuses. -/
theorem abandoned_undecided_iff {session : Session} (begins : session.Presented)
    {actions : List Action} {left : QueuedSession}
    (leaves : run ⟨session, [], [], []⟩ actions = left)
    (abandoned : left.session.screen.outcome? = none) :
    (seen reported? left.settle.events = [] ∧
        session.surroundings.Keeps left.settle.session.surroundings) ↔
      ∀ command ∈ left.recent, command.decides = false := by
  obtain ⟨flow, first⟩ := standing_of_presented begins
  have standing : Standing session flow left.settle := (leaves ▸ first.run actions).settle
  have idle : left.settle.queue = [] := queue_settle left
  obtain ⟨screen, recent⟩ := frame_settle left
  rw [← screen] at abandoned
  rw [← recent]
  generalize left.settle = settled at standing idle abandoned
  have unanswered : (∀ command ∈ settled.recent, command.decides = false) ↔
      settled.recent.any (·.decides) = false := by simp
  rw [unanswered]
  cases standing with
  | waiting _ kept silent _ _ _ _ recorded => simp [silent, kept, recorded, idle]
  | resolved reported met =>
      have decided := (met.resolve_right (by simp [abandoned])).2
      simp [reported, decided]
  | dropped kept silent _ _ recorded => simp [silent, kept, recorded]

/-- A dialog about a network has just been put on the screen. -/
def opened : Session :=
  [Operation.prepare (newcomer 5 "corp"), .offer "corp" (radius [1]), .request true].foldl
    (fun session operation => (session.send (.operate operation)).session)
    { controller := { gate := { settings := ⟨true, "wlan0", ""⟩ } }
      surroundings := { store? := some (.ofList [newcomer 5 "corp"]) } }

theorem presented_opened : opened.Presented where
  reached := ⟨⟨true, "wlan0", ""⟩, { store? := some (.ofList [newcomer 5 "corp"]) }, _, rfl,
    ((Reached.start.turn (.prepare (newcomer 5 "corp"))).turn (.offer "corp" (radius [1]))).turn
      (.request true)⟩
  running := rfl
  asks := rfl
  untaken := rfl
  opened := rfl

/-- The focus is moved and the screen is left. -/
theorem left_without_answer :
    let left := run ⟨opened, [], [], []⟩
      [.happen .tick, .happen (.press ⟨.right, false⟩), .happen (.press ⟨.char 'q', false⟩)]
    opened.Presented ∧ left.session.screen.shouldQuit = true ∧
      left.session.screen.outcome? = none ∧ seen reported? left.settle.events = [] ∧
      opened.surroundings.Keeps left.settle.session.surroundings := by
  intro left
  have undecided : left.session.screen.outcome? = none := by decide +kernel
  exact ⟨presented_opened, by decide +kernel, undecided,
    (abandoned_undecided_iff presented_opened rfl undecided).mpr (by decide +kernel)⟩

/-- The dialog is answered positively and the screen is left before the next tick. The session ends
without an outcome, and the gate pins the certificate. -/
theorem left_after_answer :
    let left := run ⟨opened, [], [], []⟩
      [.happen .tick, .happen (.press ⟨.char 'y', false⟩), .happen (.press ⟨.char 'q', false⟩)]
    opened.Presented ∧ left.session.screen.shouldQuit = true ∧
      left.session.screen.outcome? = none ∧
      seen reported? left.settle.events = [.accepted "corp"] ∧
      ¬opened.surroundings.Keeps left.settle.session.surroundings := by
  intro left
  have keys : left.session.screen.shouldQuit = true ∧ left.session.screen.outcome? = none := by
    decide +kernel
  have reports : seen reported? left.settle.events = [.accepted "corp"] := by decide +kernel
  have pins : left.settle.session.surroundings.store? ≠ opened.surroundings.store? := by
    decide +kernel
  exact ⟨presented_opened, keys.1, keys.2, reports, fun kept => pins kept.1⟩

end QueuedSession

end TrustGate
