import TrustGate.Attempt
import TrustGate.Proofs.Gate.Outcomes
import TrustGate.Proofs.Session

/-!
# Requests for approval

A request for approval never comes to nothing while a flow is pending. Either the
flow lacks the certificate that it is about, and is given up at once, or the user
is asked by one prompt. The dialog of a flow may be missing, but just when the
certificate is, and then no former prompt is left either, because only a flow that
could be shown has one.

So an attempt that has led its connection to the gate has an outcome or a prompt,
and not both, and its screen opens only with a prompt to answer.
-/

namespace TrustGate

namespace Gate

/-- A flow is given up: the supplicant drops what it has of the network, and an error is reported
for it. There are no other calls. -/
structure GivesUp (gate : Gate) (flow : Flow) (transcript : Transcript) (after : Gate) : Prop where
  calls : ∃ ended forgot, transcript = [
    ⟨.invalidateSession flow.networkId, ended⟩,
    ⟨.forgetCredentials gate.settings.interface, forgot⟩,
    ⟨.report (.errored (some flow.ssid)), ()⟩]
  idle : after.state = .idle

/-- The user is asked about a flow: the former prompt is taken away, if there is one, and then one
about the flow is shown. There are no other calls. -/
structure AsksUser (gate : Gate) (flow : Flow) (asDialog : Bool) (transcript : Transcript)
    (after : Gate) (prompt : Prompt) (handle : PromptHandle) : Prop where
  calls : transcript = gate.dismissal ++ [⟨.present prompt, handle⟩]
  ssid : prompt.ssid = flow.ssid
  policy : prompt.policy = flow.policy
  kind : prompt.isDialog = asDialog
  awaiting : after.state = .awaitingApproval

section Request

variable {gate after : Gate} {flow : Flow} {userInitiated : Bool} {transcript : Transcript}
  {result : Option Bool}

theorem Performs.request_of_idle
    (performs : gate.Performs (.request userInitiated) transcript result after)
    (idle : gate.flow? = none) : result = some false ∧ transcript = [] ∧ after = gate := by
  rcases performs with ⟨effect, brings, makes, rfl⟩
  cases brings with
  | unasked =>
      cases makes
      exact ⟨rfl, rfl, rfl⟩
  | lacking isPending | asked _ isPending => simp [idle] at isPending

/-- A flow that lacks its certificate has not been shown, so no prompt has to be taken away. -/
theorem Performs.request_of_lacking
    (performs : gate.Performs (.request userInitiated) transcript result after)
    (coherent : gate.Coherent) (isPending : gate.flow? = some flow)
    (lacks : lacksCertificate flow = true) :
    result = some true ∧ gate.GivesUp flow transcript after := by
  have unshown : gate.dismissal = [] := by
    rw [dismissal, coherent.prompt?_eq_none isPending lacks]
  rcases performs with ⟨effect, brings, makes, rfl⟩
  cases brings with
  | unasked idle => simp [isPending] at idle
  | asked _ otherPending has =>
      cases isPending.symm.trans otherPending
      simp [lacks] at has
  | lacking otherPending =>
      cases isPending.symm.trans otherPending
      cases makes with
      | failed drops =>
          rw [isPending, Option.map_some] at drops
          cases drops with
          | network _ ended forgot => exact ⟨rfl, ⟨ended, forgot, by simp [unshown]⟩, rfl⟩

theorem Performs.request_of_certified
    (performs : gate.Performs (.request userInitiated) transcript result after)
    (isPending : gate.flow? = some flow) (has : lacksCertificate flow = false) :
    result = some true ∧
      ∃ prompt handle, gate.AsksUser flow userInitiated transcript after prompt handle := by
  rcases performs with ⟨effect, brings, makes, rfl⟩
  cases brings with
  | unasked idle => simp [isPending] at idle
  | lacking otherPending lacks =>
      cases isPending.symm.trans otherPending
      simp [has] at lacks
  | @asked _ _ prompt handle otherPending _ prompts =>
      cases isPending.symm.trans otherPending
      cases makes
      exact ⟨rfl, prompt, handle, {
        calls := rfl
        ssid := Flow.ssid_of_prompt? prompts
        policy := Flow.policy_of_prompt? prompts
        kind := Flow.isDialog_of_prompt? prompts
        awaiting := rfl }⟩

end Request

end Gate

theorem Surroundings.current?_of_presented {earlier later : Surroundings}
    {former : Gate.Transcript} {prompt : Prompt} {handle : PromptHandle}
    (answered : Exchange.Answered reply earlier (former ++ [⟨.present prompt, handle⟩]) later) :
    later.slot.current? = some (handle, prompt) := by
  rcases Exchange.answered_append_iff.mp answered with ⟨middle, _, rfl, rfl⟩
  rfl

namespace Session

open Gate

/-- The gate of the session began fresh, with no prompt in the slot, and it is still at work. -/
structure Led (session : Session) : Prop where
  running : session.controller.running = true
  reached : ∃ settings initial past, initial.slot.current? = none ∧
    Reached Surroundings.reply { settings } initial past session.controller.gate
      session.surroundings

/-- A flow for the network is pending, and no outcome waits to be taken up. -/
structure AtGate (session : Session) (ssid : String) : Prop extends session.Led where
  isPending : session.controller.gate.flow?.map Flow.ssid = some ssid
  untaken : session.surroundings.outcomes = []

/-- The flow for the network has been given up, and its outcome waits to be taken up. -/
structure GivenUp (session : Session) (ssid : String) : Prop where
  outcomes : session.surroundings.outcomes = [.errored (some ssid)]
  current : session.surroundings.slot.current? = none

/-- The user is asked about the network. -/
structure AsksUser (session : Session) (ssid : String) : Prop where
  outcomes : session.surroundings.outcomes = []
  current : ∃ handle prompt,
    session.surroundings.slot.current? = some (handle, prompt) ∧ prompt.ssid = ssid

variable {session : Session} {ssid : String}

theorem Led.send (led : session.Led) (operation : Operation) :
    (session.send (.operate operation)).session.Led := by
  rcases led.reached with ⟨settings, initial, past, empty, reached⟩
  rw [send_operate led.running]
  exact ⟨rfl, settings, initial, _, empty, reached.turn operation⟩

theorem Led.performs (led : session.Led) (operation : Operation) :
    ∃ result, (session.send (.operate operation)).value = .ofResult? result ∧
      session.controller.gate.Performs operation (session.send (.operate operation)).events result
        (session.send (.operate operation)).session.controller.gate := by
  rw [send_operate led.running]
  exact ⟨_, rfl, performs_turn Surroundings.reply _ _ operation⟩

theorem Led.coherent (led : session.Led) : session.controller.gate.Coherent := by
  rcases led.reached with ⟨settings, _, _, _, reached⟩
  exact reached.coherent (coherent_of_fresh settings)

/-- While no flow is pending, no prompt is in the slot. -/
theorem Led.current?_eq_none (led : session.Led) (idle : session.controller.gate.state = .idle) :
    session.surroundings.slot.current? = none := by
  rcases led.reached with ⟨_, _, _, empty, reached⟩
  have onScreen := reached.onScreen Surroundings.showsIn_reply (by simp [OnScreen, empty])
  rw [state_eq_idle_iff] at idle
  rcases current : session.surroundings.slot.current? with _ | ⟨handle, prompt⟩
  · rfl
  · rcases onScreen handle prompt current with ⟨_, flow, _, isPending, _⟩
    simp [idle] at isPending

theorem Led.prepare (led : session.Led) (untaken : session.surroundings.outcomes = [])
    {profile : NetworkProfile}
    (started : (session.send (.operate (.prepare profile))).value = .result true) :
    (session.send (.operate (.prepare profile))).session.AtGate profile.ssid := by
  rcases led.performs (.prepare profile) with ⟨result, value, performs⟩
  rw [value] at started
  rcases result with _ | result
  · cases started
  · cases started
    rcases performs.of_started with ⟨silent, policy, isPending⟩
    exact {
      toLed := led.send _
      isPending := by rw [isPending]; rfl
      untaken := by rw [outcomes_send, untaken, silent]; rfl }

/-- Whether a certificate is taken or turned down, the flow stays, and nothing is reported. -/
theorem AtGate.offer (atGate : session.AtGate ssid) (certificate? : Option ServerCertificate) :
    (Attempt.offer session ssid certificate?).1.AtGate ssid := by
  cases certificate? with
  | none => exact atGate
  | some certificate =>
      have led : session.Led := atGate.toLed
      rcases led.performs (.offer ssid certificate) with ⟨result, _, effect, brings, makes, after⟩
      refine { toLed := led.send _, isPending := ?_, untaken := ?_ }
      · have pending := atGate.isPending
        simp only [Attempt.offer, after]
        cases brings with
        | declined => exact pending
        | kept takes =>
            rw [takes.isPending] at pending
            exact pending
      · simp only [Attempt.offer, outcomes_send, atGate.untaken, reports_of_makes makes]
        cases brings <;> rfl

/-- A request ends the flow or asks the user about it. -/
theorem AtGate.request (atGate : session.AtGate ssid) (userInitiated : Bool) :
    let asked := (session.send (.operate (.request userInitiated))).session
    asked.GivenUp ssid ∨ asked.AsksUser ssid := by
  have led : session.Led := atGate.toLed
  have later := led.send (.request userInitiated)
  have answered := session.answered_send (.operate (.request userInitiated))
  have outcomes := session.outcomes_send (.operate (.request userInitiated))
  rcases led.performs (.request userInitiated) with ⟨result, _, performs⟩
  rcases Option.map_eq_some_iff.mp atGate.isPending with ⟨flow, isPending, rfl⟩
  rw [atGate.untaken, List.nil_append] at outcomes
  cases lacks : lacksCertificate flow with
  | true =>
      rcases (performs.request_of_lacking led.coherent isPending lacks).2 with
        ⟨⟨ended, forgot, calls⟩, idle⟩
      exact .inl ⟨outcomes.trans (by simp [calls, reported?]), later.current?_eq_none idle⟩
  | false =>
      rcases (performs.request_of_certified isPending lacks).2 with ⟨prompt, handle, asks⟩
      rw [asks.calls] at answered outcomes
      have silent : seen reported? session.controller.gate.dismissal = [] :=
        seen_dismissal _ _ fun _ => rfl
      exact .inr {
        outcomes := outcomes.trans (by simp [silent, reported?])
        current := ⟨handle, prompt, Surroundings.current?_of_presented answered, asks.ssid⟩ }

theorem led_openSession (settings : Settings) (dryRun : Bool) (standIn : Supplicant.StandIn)
    (folder : Folder) (store : Store) :
    (Attempt.openSession settings dryRun standIn folder store).Led :=
  ⟨rfl, settings.gate, _, [], rfl, .start⟩

/-- A tick that finds no outcome leaves the prompt and the screen open. -/
theorem AsksUser.tick (asks : session.AsksUser ssid) :
    session.tick.session.AsksUser ssid ∧
      session.tick.session.screen.shouldQuit = session.screen.shouldQuit := by
  have ticks := session.ticks_tick
  generalize session.tick = step at ticks
  cases ticks with
  | goesOn snapshot empty => exact ⟨⟨empty, asks.current⟩, rfl⟩
  | ends snapshot oldest => simp [asks.outcomes] at oldest

end Session

namespace Attempt

open Gate Session

@[simp]
theorem screen_offer (session : Session) (ssid : String)
    (certificate? : Option ServerCertificate) :
    (offer session ssid certificate?).1.screen = session.screen := by
  cases certificate? <;> rfl

/-- An attempt goes on to the screen when it has to be approved and has no outcome. -/
theorem lead_of_goesOn {session : Session} {profile : NetworkProfile} {evaluation : Evaluation}
    {certificate? : Option ServerCertificate} {warnings : List String} {background : Bool} :
    let prepared := session.send (.operate (.prepare profile))
    let offered := (offer prepared.session profile.ssid certificate?).1
    let asked := (offered.send (.operate (.request !background))).session
    let attempt := lead session profile evaluation certificate? warnings background
    attempt.early? = none →
      prepared.value = .result true ∧ asked.surroundings.outcomes = [] ∧
        attempt.session = asked.tick.session := by
  intro prepared offered asked attempt goesOn
  by_cases started : prepared.value = .result true
  · have asks : attempt = ask offered background _ := if_pos started
    rw [asks] at goesOn ⊢
    cases outcomes : asked.surroundings.outcomes with
    | nil => exact ⟨started, rfl, by simp [ask, outcomes, asked]⟩
    | cons outcome rest => simp [ask, outcomes, asked] at goesOn
  · simp [attempt, lead, prepared, started] at goesOn

/-- In every state that a fresh gate can come to, a request tells whether a flow is pending. A flow
about a certificate that lacks it is given up: the supplicant drops what it has, then an error is
reported, nothing is shown and the gate is idle. Any other flow is asked about by one prompt, a
dialog if the user started the connection and a notification if not, and the gate waits.

Hence an attempt that has to be approved and has asked for it has an outcome if and only if it has
no prompt, and one that goes on to the screen has a prompt about its network there. -/
theorem request_asks_or_resolves :
    (∀ {σ : Type} (respond : (call : GateCall) → σ → GateReply call × σ) (settings : GateSettings)
        (initial surroundings : σ) (past : List (Turn σ)) (gate : Gate) (userInitiated : Bool),
      Reached respond { settings } initial past gate surroundings →
        let turn := gate.turn respond surroundings (.request userInitiated)
        turn.result = some gate.flow?.isSome ∧
          match gate.flow? with
          | none => turn.transcript = [] ∧ turn.after = gate
          | some flow =>
              if flow.policy = .tofu ∧ flow.certificate? = none then
                gate.GivesUp flow turn.transcript turn.after
              else ∃ prompt handle,
                gate.AsksUser flow userInitiated turn.transcript turn.after prompt handle) ∧
    ∀ (settings : Settings) (dryRun : Bool) (standIn : Supplicant.StandIn) (folder : Folder)
        (store : Store) (profile : NetworkProfile) (evaluation : Evaluation)
        (certificate? : Option ServerCertificate) (warnings : List String) (background : Bool),
      let session := openSession settings dryRun standIn folder store
      let prepared := session.send (.operate (.prepare profile))
      let offered := (offer prepared.session profile.ssid certificate?).1
      let asked := (offered.send (.operate (.request !background))).session
      let attempt := lead session profile evaluation certificate? warnings background
      (prepared.value = .result true →
        (asked.surroundings.outcomes ≠ [] ↔ asked.surroundings.slot.current? = none)) ∧
      (attempt.early? = none →
        attempt.session.AsksUser profile.ssid ∧ attempt.session.screen.shouldQuit = false) := by
  refine ⟨?request, ?attempt⟩
  case request =>
    intro σ respond settings initial surroundings past gate userInitiated reached turn
    have performs := performs_turn respond gate surroundings (.request userInitiated)
    cases isPending : gate.flow? with
    | none => exact performs.request_of_idle isPending
    | some flow =>
        by_cases lacks : flow.policy = .tofu ∧ flow.certificate? = none
        · simp only [if_pos lacks]
          exact performs.request_of_lacking (reached.coherent (coherent_of_fresh settings))
            isPending (decide_eq_true lacks)
        · simp only [if_neg lacks]
          exact performs.request_of_certified isPending (decide_eq_false lacks)
  case attempt =>
    intro settings dryRun standIn folder store profile evaluation certificate? warnings background
      session prepared offered asked attempt
    have led : session.Led := led_openSession settings dryRun standIn folder store
    have comes (started : prepared.value = .result true) :
        asked.GivenUp profile.ssid ∨ asked.AsksUser profile.ssid :=
      ((led.prepare rfl started).offer certificate?).request !background
    refine ⟨fun started => ?_, fun goesOn => ?_⟩
    · rcases comes started with ⟨outcomes, current⟩ | ⟨outcomes, _, _, current, _⟩ <;>
        simp [outcomes, current]
    · rcases lead_of_goesOn goesOn with ⟨started, unresolved, same⟩
      have asks : asked.AsksUser profile.ssid := (comes started).resolve_left fun givenUp =>
        List.cons_ne_nil _ _ (givenUp.outcomes.symm.trans unresolved)
      have stays : asked.screen.shouldQuit = false := by
        simp [asked, offered, prepared, session, openSession]
      rw [same]
      exact ⟨asks.tick.1, asks.tick.2.trans stays⟩

/-- A request finds a flow with a prompt on the screen and a certificate, and puts a dialog in place
of the prompt; and a request finds a flow without a certificate and gives it up. -/
theorem certified_flow_asked_again_and_bare_flow_given_up :
    (∃ past gate surroundings flow,
      Reached Surroundings.reply { settings := ⟨true, "wlan0", ""⟩ } {} past gate surroundings ∧
        gate.flow? = some flow ∧ gate.prompt? = some 1 ∧
        let turn := gate.turn Surroundings.reply surroundings (.request true)
        turn.result = some true ∧
          ∃ prompt handle, gate.AsksUser flow true turn.transcript turn.after prompt handle) ∧
    ∃ past gate surroundings flow,
      Reached Surroundings.reply { settings := ⟨true, "wlan0", ""⟩ } {} past gate surroundings ∧
        gate.flow? = some flow ∧
        let turn := gate.turn Surroundings.reply surroundings (.request true)
        turn.result = some true ∧ gate.GivesUp flow turn.transcript turn.after := by
  have prepared : Reached Surroundings.reply { settings := ⟨true, "wlan0", ""⟩ } {} _ _ _ :=
    Reached.start.turn (.prepare (newcomer 5 "corp"))
  have notified := (prepared.turn (.offer "corp" (radius [1]))).turn (.request false)
  exact ⟨⟨_, _, _, _, notified, rfl, rfl,
      request_asks_or_resolves.1 _ _ _ _ _ _ true notified⟩,
    ⟨_, _, _, _, prepared, rfl, request_asks_or_resolves.1 _ _ _ _ _ _ true prepared⟩⟩

end Attempt

end TrustGate
