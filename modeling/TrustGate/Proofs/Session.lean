import TrustGate.Proofs.Controller
import TrustGate.Proofs.Gate.Answering
import TrustGate.QueuedSession

/-!
# Steps of a session

What the parts of a session do to one another: what a key can do to the screen
and to the slot, what the surroundings make of the calls of a gate, and what a
command comes to. Statements about sessions go by these and open neither the
screen nor the surroundings again.

The last part relates the two kinds of sessions. A queued session whose worker
takes the command of every key at once is the plain one.
-/

namespace TrustGate

/-! ## Keys -/

/-- What a key press on a screen comes to. -/
inductive Screen.Presses (screen : Screen) (slot : PromptSlot) : Screen.Effect → Prop
  /-- The screen is left. -/
  | leaves {after : Screen} (quits : after.shouldQuit = true)
      (undecided : after.outcome? = screen.outcome?) :
      Presses screen slot ⟨after, slot, some (.operate .clear)⟩
  | stays {after : Screen} (quits : after.shouldQuit = screen.shouldQuit)
      (undecided : after.outcome? = screen.outcome?) : Presses screen slot ⟨after, slot, none⟩
  /-- The prompt in the slot is answered, and is taken out if it is a dialog. -/
  | answers {after : Screen} {left : PromptSlot} {handle : PromptHandle} {prompt : Prompt}
      {response : Response} (quits : after.shouldQuit = screen.shouldQuit)
      (undecided : after.outcome? = screen.outcome?)
      (current : slot.current? = some (handle, prompt)) (answer : prompt.Answers response)
      (taken : left = slot ∨ left = slot.remove handle) :
      Presses screen slot ⟨after, left, some (Screen.answerCommand response)⟩

theorem Screen.presses_press (screen : Screen) (slot : PromptSlot) (press : KeyPress) :
    screen.Presses slot (screen.press slot press) := by
  have quits (handle : PromptHandle) : (screen.attend handle).shouldQuit = screen.shouldQuit := by
    unfold attend
    split <;> rfl
  have undecided (handle : PromptHandle) : (screen.attend handle).outcome? = screen.outcome? := by
    unfold attend
    split <;> rfl
  unfold Screen.press
  split
  · exact .leaves rfl rfl
  · split
    · exact .stays rfl rfl
    · next handle dialog current =>
        unfold pressOnDialog
        split
        · exact .stays (quits handle) (undecided handle)
        · next choice _ =>
            exact .answers (quits handle) (undecided handle) current ⟨choice, rfl⟩ (.inr rfl)
        · exact .stays (quits handle) (undecided handle)
    · next handle notification current =>
        unfold pressOnNotification
        split
        · exact .stays (quits handle) (undecided handle)
        · next action _ =>
            unfold actOnNotification
            split
            · next response responded =>
                exact .answers (quits handle) (undecided handle) current ⟨action, responded⟩
                  (.inl rfl)
            · split <;> exact .stays (quits handle) (undecided handle)
        · exact .stays (quits handle) (undecided handle)

/-! ## Calls -/

namespace Surroundings

open Gate

variable {surroundings later : Surroundings} {transcript : Transcript}

/-- What a call of a gate changes of the surroundings. -/
inductive Replies (surroundings : Surroundings) : GateCall → Surroundings → Prop
  | trust (id : NetworkId) : Replies surroundings (.hasValidTrust id) surroundings
  | update {id : NetworkId} {change : Store.Change} {later : Surroundings}
      (slot : later.slot = surroundings.slot) (outcomes : later.outcomes = surroundings.outcomes) :
      Replies surroundings (.update id change) later
  | session (id : NetworkId) (toolCalls : List (List String)) :
      Replies surroundings (.invalidateSession id) { surroundings with toolCalls }
  | credentials (interface : String) (toolCalls : List (List String)) :
      Replies surroundings (.forgetCredentials interface) { surroundings with toolCalls }
  | present (prompt : Prompt) :
      Replies surroundings (.present prompt)
        { surroundings with slot := (surroundings.slot.present prompt).2 }
  | dismiss (handle : PromptHandle) :
      Replies surroundings (.dismiss handle)
        { surroundings with slot := surroundings.slot.remove handle }
  | report (outcome : TrustOutcome) :
      Replies surroundings (.report outcome)
        { surroundings with outcomes := surroundings.outcomes ++ [outcome] }

theorem exists_command_eq (surroundings : Surroundings) (kind : FallibleCall)
    (action : Supplicant → Exchange ToolReply (Except Supplicant.Error Unit)) :
    ∃ toolCalls, (surroundings.command kind action).2 = { surroundings with toolCalls } := by
  unfold command
  split <;> exact ⟨_, rfl⟩

theorem replies_reply (call : GateCall) (surroundings : Surroundings) :
    surroundings.Replies call (reply call surroundings).2 := by
  cases call with
  | hasValidTrust id =>
      simp only [reply]
      split <;> exact .trust id
  | update id change =>
      simp only [reply, Surroundings.update]
      split
      · exact .update rfl rfl
      · split <;> exact .update rfl rfl
  | invalidateSession id =>
      obtain ⟨toolCalls, same⟩ :=
        exists_command_eq surroundings .invalidateSession (·.invalidateSession id)
      simp only [reply, same]
      exact .session id toolCalls
  | forgetCredentials interface =>
      obtain ⟨toolCalls, same⟩ :=
        exists_command_eq surroundings .forgetCredentials (·.forgetAll interface)
      simp only [reply, same]
      exact .credentials interface toolCalls
  | present prompt => exact .present prompt
  | dismiss handle => exact .dismiss handle
  | report outcome => exact .report outcome

theorem showsIn_reply : ShowsIn reply slot := by
  intro call surroundings handle prompt current
  have replies := replies_reply call surroundings
  generalize (reply call surroundings).2 = later at replies current
  cases replies with
  | trust | session | credentials | report => exact .inl ⟨current, by simp⟩
  | update slot _ => exact .inl ⟨slot ▸ current, by simp⟩
  | present other =>
      cases current
      exact .inr rfl
  | dismiss taken =>
      obtain ⟨before, stays⟩ := PromptSlot.current?_of_remove current
      refine .inl ⟨before, ?_⟩
      rintro ⟨⟩
      exact stays rfl

theorem outcomes_reply (call : GateCall) (surroundings : Surroundings) :
    (reply call surroundings).2.outcomes = surroundings.outcomes ++ (reported? call).toList := by
  have replies := replies_reply call surroundings
  generalize (reply call surroundings).2 = later at replies ⊢
  cases replies with
  | update _ outcomes => simp [outcomes, reported?]
  | _ => simp [reported?]

/-- The outcomes that a transcript reports wait behind those that nobody has taken up. -/
theorem outcomes_of_answered (answered : Exchange.Answered reply surroundings transcript later) :
    later.outcomes = surroundings.outcomes ++ seen reported? transcript := by
  induction transcript generalizing surroundings with
  | nil =>
      cases answered
      simp
  | cons event rest ih =>
      rcases event with ⟨call, answer⟩
      rcases answered with ⟨rfl, answered⟩
      rw [ih answered, outcomes_reply, seen_cons, List.append_assoc]

/-- The store and its folder are the same. -/
def Keeps (former later : Surroundings) : Prop :=
  later.store? = former.store? ∧ later.folder = former.folder

theorem Keeps.trans {former now later : Surroundings} (first : former.Keeps now)
    (second : now.Keeps later) : former.Keeps later :=
  ⟨second.1.trans first.1, second.2.trans first.2⟩

theorem keeps_of_answered (answered : Exchange.Answered reply surroundings transcript later)
    (unchanged : seen changed? transcript = []) : surroundings.Keeps later := by
  induction transcript generalizing surroundings with
  | nil =>
      cases answered
      exact ⟨rfl, rfl⟩
  | cons event rest ih =>
      rcases event with ⟨call, answer⟩
      rcases answered with ⟨rfl, answered⟩
      simp only [seen_cons, List.append_eq_nil_iff] at unchanged
      have kept : surroundings.Keeps (reply call surroundings).2 := by
        have replies := replies_reply call surroundings
        generalize (reply call surroundings).2 = next at replies ⊢
        cases replies with
        | update => simp [changed?] at unchanged
        | _ => exact ⟨rfl, rfl⟩
      exact kept.trans (ih answered unchanged.2)

end Surroundings

/-! ## Commands -/

namespace Session

variable (session : Session)

theorem answered_send (command : Controller.Command) :
    Exchange.Answered Surroundings.reply session.surroundings (session.send command).events
      (session.send command).session.surroundings :=
  Exchange.answered_run Surroundings.reply (session.controller.perform command)
    session.surroundings

theorem outcomes_send (command : Controller.Command) :
    (session.send command).session.surroundings.outcomes =
      session.surroundings.outcomes ++ Gate.seen Gate.reported? (session.send command).events :=
  Surroundings.outcomes_of_answered (session.answered_send command)

@[simp]
theorem screen_send (command : Controller.Command) :
    (session.send command).session.screen = session.screen :=
  rfl

/-- A snapshot makes no calls and changes nothing. -/
theorem send_snapshot :
    ∃ snapshot, session.send .snapshot = ⟨.snapshot snapshot, [], session⟩ := by
  rcases session with ⟨⟨gate, _ | _⟩, surroundings, screen⟩ <;> exact ⟨_, rfl⟩

/-- What a tick comes to. -/
inductive Ticks : Step Unit → Prop
  | goesOn (snapshot : FlowSnapshot) (empty : session.surroundings.outcomes = []) :
      Ticks ⟨(), [], { session with screen := { session.screen with snapshot } }⟩
  /-- The oldest outcome ends the screen. -/
  | ends (snapshot : FlowSnapshot) {outcome : TrustOutcome} {outcomes : List TrustOutcome}
      (oldest : session.surroundings.outcomes = outcome :: outcomes) :
      Ticks ⟨(), [], { session with
        screen := { session.screen with snapshot, outcome? := some outcome, shouldQuit := true }
        surroundings := { session.surroundings with outcomes } }⟩

theorem ticks_tick : session.Ticks session.tick := by
  obtain ⟨snapshot, sent⟩ := session.send_snapshot
  unfold tick
  rw [sent]
  cases outcomes : session.surroundings.outcomes with
  | nil =>
      have same : { session.surroundings with outcomes := [] } = session.surroundings := by
        rw [← outcomes]
      simp only [outcomes, Screen.tick, same]
      exact .goesOn snapshot outcomes
  | cons outcome rest =>
      simp only [outcomes, Screen.tick]
      exact .ends snapshot outcomes

variable {session}

/-- A command to operate is a turn of the gate, while the controller runs. -/
theorem send_operate (running : session.controller.running = true) (operation : Gate.Operation) :
    session.send (.operate operation) =
      let turn := session.controller.gate.turn Surroundings.reply session.surroundings operation
      ⟨.ofResult? turn.result, turn.transcript, { session with
        controller := { gate := turn.after }, surroundings := turn.later }⟩ := by
  rcases session with ⟨⟨gate, _⟩, surroundings, screen⟩
  obtain rfl := running
  simp only [send, Controller.run_operate]

/-- A command to operate has an effect on the gate, while the controller runs. -/
theorem performs_send (running : session.controller.running = true) (operation : Gate.Operation) :
    let step := session.send (.operate operation)
    ∃ (effect : Gate.Effect) (result : Option Bool),
      session.controller.gate.Brings operation result effect ∧
        effect.Makes session.controller.gate step.events ∧
        step.session.controller = { gate := effect.after session.controller.gate } := by
  rcases Gate.performs_turn Surroundings.reply session.controller.gate session.surroundings
    operation with ⟨effect, brings, makes, after⟩
  simp only [send_operate running, after]
  exact ⟨effect, _, brings, makes, rfl⟩

end Session

/-! ## Queues -/

namespace QueuedSession

theorem work_of_idle {now : QueuedSession} (idle : now.queue = []) : now.work = now := by
  simp only [work, idle]

theorem work_of_queued {now : QueuedSession} {command : Controller.Command}
    {rest : List Controller.Command} (queued : now.queue = command :: rest) :
    now.work = { now with
      session := (now.session.send command).session
      queue := rest
      events := now.events ++ (now.session.send command).events } := by
  simp only [work, queued]

@[simp]
theorem screen_work (now : QueuedSession) : now.work.session.screen = now.session.screen := by
  unfold work
  split <;> rfl

@[simp]
theorem recent_work (now : QueuedSession) : now.work.recent = now.recent := by
  unfold work
  split <;> rfl

theorem queue_work (now : QueuedSession) : now.work.queue = now.queue.tail := by
  cases queued : now.queue with
  | nil => rw [work_of_idle queued, queued, List.tail_nil]
  | cons command rest => rw [work_of_queued queued, List.tail_cons]

/-- What each command of the worker keeps holds once the queue has been worked off. -/
theorem settle_induction {motive : QueuedSession → Prop}
    (step : ∀ now, motive now → motive now.work) {now : QueuedSession} (holds : motive now) :
    motive now.settle := by
  unfold settle
  generalize now.queue = queue
  induction queue generalizing now with
  | nil => exact holds
  | cons command queue ih => exact ih (step now holds)

theorem queue_settle (now : QueuedSession) : now.settle.queue = [] := by
  suffices ∀ (queue : List Controller.Command) (now : QueuedSession), now.queue = queue →
      (queue.foldl (fun now _ => now.work) now).queue = [] from this now.queue now rfl
  intro queue
  induction queue with
  | nil => exact fun now empty => empty
  | cons command queue ih =>
      intro now queued
      exact ih now.work (by rw [queue_work, queued, List.tail_cons])

theorem frame_settle (now : QueuedSession) :
    now.settle.session.screen = now.session.screen ∧ now.settle.recent = now.recent := by
  apply settle_induction (motive := fun later =>
    later.session.screen = now.session.screen ∧ later.recent = now.recent)
  · rintro later ⟨screen, recent⟩
    exact ⟨(screen_work later).trans screen, (recent_work later).trans recent⟩
  · exact ⟨rfl, rfl⟩

theorem settle_of_idle {now : QueuedSession} (idle : now.queue = []) : now.settle = now := by
  simp [settle, idle]

/-- The worker takes the command of a key at once. -/
def promptly (happenings : List Session.Happening) : List Action :=
  happenings.flatMap fun happening => [.happen happening, .work]

theorem work_step {now : QueuedSession} (idle : now.queue = [])
    (stays : now.session.screen.shouldQuit = false) (happening : Session.Happening) :
    (now.step (.happen happening)).work.queue = [] ∧
      (now.step (.happen happening)).work.session = now.session.after happening := by
  cases happening with
  | press press =>
      simp only [step, stays, Bool.false_eq_true, if_false, QueuedSession.press, idle,
        List.nil_append, Session.after, Session.press]
      cases (now.session.screen.press now.session.surroundings.slot press).command? with
      | none => exact ⟨rfl, rfl⟩
      | some command => exact ⟨rfl, rfl⟩
  | tick =>
      simp only [step, stays, Bool.false_eq_true, if_false, tick, settle_of_idle idle,
        Session.after, work, idle, and_self]

/-- With a worker that is always at once, a queued session is the plain one. -/
theorem session_run_promptly {now : QueuedSession} (idle : now.queue = [])
    (happenings : List Session.Happening) :
    (now.run (promptly happenings)).session = now.session.follow happenings := by
  induction happenings generalizing now with
  | nil => rfl
  | cons happening happenings ih =>
      have parted : now.run (promptly (happening :: happenings)) =
          ((now.step (.happen happening)).work).run (promptly happenings) := rfl
      rw [parted, Session.follow]
      split
      · next left =>
          have same : (now.step (.happen happening)).work = now := by
            simp only [step, left, if_true, work, idle]
          rw [same, ih idle]
          cases happenings <;> simp [Session.follow, left]
      · next stays =>
          obtain ⟨queue, session⟩ := work_step idle (Bool.eq_false_iff.mpr stays) happening
          rw [ih queue, session]

end QueuedSession

end TrustGate
