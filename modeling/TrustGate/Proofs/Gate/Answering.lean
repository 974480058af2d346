import TrustGate.Gate.Surroundings
import TrustGate.Proofs.Gate.LateAnswers
import TrustGate.Proofs.Gate.SlotSite

/-!
# Prompts on screen can be answered

Whatever a gate has been through, the prompt that its screen shows is about the
pending flow, and every answer that this prompt gives is listened to and taken
for an answer to that flow. So the buttons of a prompt do what they say: an
acceptance or a refusal is reported, the gate is idle and the screen is empty,
and a tap on the notification about a certificate brings up the dialog about it.

This joins three sides that know nothing of each other: which answers a prompt
has, which responses the gate listens to, and what it does with them.
-/

namespace TrustGate

namespace Gate

variable {ρ : Type} {others : (call : GateCall) → ρ → GateReply call × ρ}

/-- The turn reports just the outcome and leaves no flow pending and no prompt on screen. -/
def Turn.Resolves (turn : Turn (SlotSite ρ)) (outcome : TrustOutcome) : Prop :=
  turn.outcomes = [outcome] ∧ turn.after.state = .idle ∧ turn.later.slot.current? = none

/-- The prompt on screen is the one that the gate holds, and the gate can act on its answers. -/
structure Showing (gate : Gate) (site : SlotSite ρ) (flow : Flow) (handle : PromptHandle)
    (prompt : Prompt) : Prop where
  onScreen : gate.OnScreen site.slot
  current : site.slot.current? = some (handle, prompt)
  held : gate.prompt? = some handle
  isPending : gate.flow? = some flow
  awaiting : flow.stage = .approval
  certified : lacksCertificate flow = false
  asks : ∃ asDialog, flow.Asks gate.settings.helpLink asDialog prompt
  hears : ∀ response, prompt.Answers response → gate.Hears response
  named : prompt.ssid = flow.ssid

theorem Reached.showing {settings : GateSettings} {shown : Nat}
    {answered : List (List PromptHandle)} {rest : ρ} {past : List (Turn (SlotSite ρ))} {gate : Gate}
    {site : SlotSite ρ} {handle : PromptHandle} {prompt : Prompt}
    (reached : Reached (SlotSite.reply others) { settings } { slot := { shown }, answered, rest }
      past gate site)
    (current : site.slot.current? = some (handle, prompt)) :
    ∃ flow, gate.Showing site flow handle prompt := by
  have onScreen : gate.OnScreen site.slot :=
    reached.onScreen (showsIn_slotSite others) (by simp [OnScreen])
  have coherent : gate.Coherent := reached.coherent (coherent_of_fresh settings)
  rcases onScreen handle prompt current with ⟨held, flow, asDialog, isPending, prompts⟩
  have parts := coherent.flow flow isPending
  have awaiting : flow.stage = .approval := by
    have waits : gate.state = .awaitingApproval := coherent.prompted.mp (by simp [held])
    rcases state_eq_awaitingApproval_iff.mp waits with ⟨pending, samePending, stage⟩
    cases isPending.symm.trans samePending
    exact stage
  exact ⟨flow, {
    onScreen, current, held, isPending, awaiting
    certified := parts.certified awaiting
    asks := ⟨asDialog, Flow.asks_of_prompt? prompts⟩
    hears := fun response answers => hears_of_answers prompts answers parts.registered
    named := Flow.ssid_of_prompt? prompts }⟩

section Answer

variable {gate : Gate} {site : SlotSite ρ} {flow : Flow} {handle : PromptHandle} {prompt : Prompt}
  {response : Response}

/-- When the gate holds no prompt any more, none is on screen. -/
theorem Showing.current?_eq_none (showing : gate.Showing site flow handle prompt)
    {operation : Operation}
    (clear : (gate.turn (SlotSite.reply others) site operation).after.prompt? = none) :
    (gate.turn (SlotSite.reply others) site operation).later.slot.current? = none := by
  rcases performs_turn (SlotSite.reply others) gate site operation with
    ⟨effect, brings, makes, after⟩
  have onScreen := OnScreen.after (showsIn_slotSite others) showing.onScreen brings.fits makes
    (answered_turn _ gate site operation)
  rw [← after] at onScreen
  apply Option.eq_none_iff_forall_ne_some.mpr
  rintro ⟨other, content⟩ current
  have held := (onScreen other content current).1
  simp [clear] at held

theorem Showing.resolves (showing : gate.Showing site flow handle prompt)
    (answers : prompt.Answers response) (decides : response.action ≠ .review) :
    (gate.turn (SlotSite.reply others) site (.respond response)).Resolves
      (if response.action = .accept then .accepted flow.ssid else .rejected flow.ssid) := by
  have current : response.ssid? = some flow.ssid := by rw [answers.ssid?, showing.named]
  have hears := showing.hears response answers
  rcases performs_turn (SlotSite.reply others) gate site (.respond response) with
    ⟨effect, brings, makes, after⟩
  have outcomes := reports_of_makes makes
  have asked := brings.of_answer hears showing.isPending current showing.certified
  cases action : response.action with
  | review => exact absurd action decides
  | accept | reject =>
      rw [action] at asked
      subst asked
      exact ⟨outcomes, by rw [after]; rfl, showing.current?_eq_none (by rw [after]; rfl)⟩

variable (others) in
/-- An answer that asks for a review puts the dialog of the flow in place of the prompt, and makes
no other calls. -/
theorem Showing.reviews (showing : gate.Showing site flow handle prompt)
    (answers : prompt.Answers response) (review : response.action = .review) :
    let turn := gate.turn (SlotSite.reply others) site (.respond response)
    ∃ dialog next,
      Dialog.ofFlow? flow.connection flow.certificate? gate.settings.helpLink = some dialog ∧
      turn.transcript = [⟨.dismiss handle, ()⟩, ⟨.present (.dialog dialog), next⟩] ∧
      turn.after.flow? = some flow ∧ turn.after.prompt? = some next ∧
      turn.later.slot.current? = some (next, .dialog dialog) := by
  intro turn
  have current : response.ssid? = some flow.ssid := by rw [answers.ssid?, showing.named]
  have hears := showing.hears response answers
  have answered : Exchange.Answered (SlotSite.reply others) site turn.transcript turn.later :=
    answered_turn _ gate site (.respond response)
  obtain ⟨effect, brings, makes, after⟩ : gate.Performs (.respond response) turn.transcript
      turn.result turn.after := performs_turn (SlotSite.reply others) gate site (.respond response)
  have asked := brings.of_answer hears showing.isPending current showing.certified
  rw [review] at asked
  rcases asked with ⟨content, next, prompts, rfl⟩
  rcases Option.map_eq_some_iff.mp prompts with ⟨dialog, offered, rfl⟩
  have calls : turn.transcript =
      [⟨.dismiss handle, ()⟩, ⟨.present (.dialog dialog), next⟩] := by
    generalize turn.transcript = transcript at makes
    cases makes with
    | presented => simp [dismissal, showing.held]
  rw [calls] at answered
  rcases answered with ⟨_, shown, last⟩
  have stays : { flow with stage := .approval } = flow := by rw [← showing.awaiting]
  refine ⟨dialog, next, offered, calls, ?_, by rw [after]; rfl, ?_⟩
  · rw [after]
    exact congrArg some stays
  · rw [← shown, show turn.later = _ from last]
    rfl

end Answer

/-- Let a prompt be on the screen of a gate that began fresh, with a screen that is its own, and let
the user have answered whatever prompts at whatever times. The prompt is about the pending flow, the
gate listens to all of its answers, and it takes them for answers to that flow. A positive answer to
a dialog is reported as an acceptance and any other as a refusal, and nothing else is reported; then
the gate is idle and the screen is empty. The buttons of the notification about a network without a
certificate do the same, and a tap on it answers nothing. A tap on the notification about a
certificate puts the dialog about the same flow in its place, without any other call, and this
notification has no other answer. -/
theorem prompt_on_screen_answerable {settings : GateSettings} {shown : Nat}
    {answered : List (List PromptHandle)} {rest : ρ} {past : List (Turn (SlotSite ρ))} {gate : Gate}
    {site : SlotSite ρ} {taken : List PromptHandle} {handle : PromptHandle} {prompt : Prompt}
    (reached : Reached (SlotSite.reply others) { settings } { slot := { shown }, answered, rest }
      past gate site)
    (current : (taken.foldl PromptSlot.remove site.slot).current? = some (handle, prompt)) :
    let answer := fun response => gate.turn (SlotSite.reply others) site (.respond response)
    ∃ flow, gate.flow? = some flow ∧
      (∀ response, prompt.Answers response →
        gate.Hears response ∧ response.ssid? = some flow.ssid) ∧
      match prompt with
      | .dialog dialog =>
          (answer (dialog.respond .positive)).Resolves (.accepted flow.ssid) ∧
          ∀ choice, choice ≠ .positive →
            (answer (dialog.respond choice)).Resolves (.rejected flow.ssid)
      | .notification notification =>
          match notification.policy with
          | .legacy =>
              notification.respond? .tap = none ∧
              ∃ accept reject,
                notification.respond? .accept = some accept ∧
                notification.respond? .reject = some reject ∧
                (answer accept).Resolves (.accepted flow.ssid) ∧
                (answer reject).Resolves (.rejected flow.ssid)
          | .tofu =>
              notification.respond? .accept = none ∧ notification.respond? .reject = none ∧
              ∃ review dialog next,
                notification.respond? .tap = some review ∧
                Dialog.ofFlow? flow.connection flow.certificate? settings.helpLink =
                  some dialog ∧
                (answer review).transcript =
                  [⟨.dismiss handle, ()⟩, ⟨.present (.dialog dialog), next⟩] ∧
                (answer review).after.flow? = some flow ∧
                (answer review).after.prompt? = some next ∧
                (answer review).later.slot.current? = some (next, .dialog dialog) := by
  intro answer
  rcases reached.showing (PromptSlot.current?_of_foldl_remove current) with ⟨flow, showing⟩
  refine ⟨flow, showing.isPending, fun response answers => ⟨showing.hears response answers, ?_⟩, ?_⟩
  · rw [answers.ssid?, showing.named]
  cases prompt with
  | dialog dialog =>
      refine ⟨showing.resolves ⟨.positive, rfl⟩ (by simp [Dialog.respond]), ?_⟩
      intro choice other
      have rejects : (dialog.respond choice).action = .reject := by simp [Dialog.respond, other]
      have resolves : (answer (dialog.respond choice)).Resolves _ :=
        showing.resolves ⟨choice, rfl⟩ (by simp [rejects])
      simpa [rejects] using resolves
  | notification notification =>
      rcases showing.asks with ⟨_, asks⟩
      cases asks with
      | warning legacy =>
          refine ⟨rfl, _, _, rfl, rfl, ?accept, ?reject⟩
          case accept => exact showing.resolves ⟨.accept, rfl⟩ (by simp)
          case reject => exact showing.resolves ⟨.reject, rfl⟩ (by simp)
      | review tofu =>
          have helpLink : gate.settings.helpLink = settings.helpLink := by rw [reached.settings_eq]
          rcases showing.reviews others ⟨.tap, rfl⟩ rfl with
            ⟨dialog, next, offered, calls, stays, held, shownNow⟩
          rw [helpLink] at offered
          exact ⟨rfl, rfl, _, dialog, next, rfl, offered, calls, stays, held, shownNow⟩

/-- The notification about a certificate is tapped, and the dialog that takes its place is answered
positively. -/
theorem tapped_notification_then_accepted :
    ∃ past gate site review dialog,
      Reached (SlotSite.reply Surroundings.reply) { settings := ⟨true, "wlan0", ""⟩ } { rest := {} }
          past gate site ∧
        site.slot.current? = some (1, .notification (tofuNotification "corp")) ∧
        (tofuNotification "corp").respond? .tap = some review ∧
        let tapped := gate.turn (SlotSite.reply Surroundings.reply) site (.respond review)
        tapped.later.slot.current? = some (2, .dialog dialog) ∧
          (tapped.after.turn (SlotSite.reply Surroundings.reply) tapped.later
            (.respond (dialog.respond .positive))).Resolves (.accepted "corp") := by
  have reached : Reached (SlotSite.reply Surroundings.reply) { settings := ⟨true, "wlan0", ""⟩ }
      { rest := {} } _ _ _ :=
    ((Reached.start.turn (.prepare (newcomer 5 "corp"))).turn (.offer "corp" (radius [1]))).turn
      (.request false)
  have tapped := reached.turn (.respond ⟨some "corp", .review, .notification⟩)
  rcases @prompt_on_screen_answerable _ _ _ _ _ _ _ _ _ [] 2 _ tapped rfl with
    ⟨flow, isPending, _, accepts, _⟩
  cases isPending
  exact ⟨_, _, _, ⟨some "corp", .review, .notification⟩, _, reached, rfl, rfl, rfl, accepts⟩

end Gate

end TrustGate
