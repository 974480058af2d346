import TrustGate.Proofs.Gate.Effect

/-!
# Prompts and their answers

Four prompts can be about a flow, and each of them carries its network and its
policy. `Flow.Asks` lists them; what the user can answer to a prompt follows from
the list.
-/

namespace TrustGate

/-- The response is one that the prompt gives to something the user does. -/
def Prompt.Answers : Prompt → Response → Prop
  | dialog content, response => ∃ choice, content.respond choice = response
  | notification content, response => ∃ action, content.respond? action = some response

/-- A prompt answers for the network whose name it carries. -/
theorem Prompt.Answers.ssid? {prompt : Prompt} {response : Response}
    (answers : prompt.Answers response) : response.ssid? = some prompt.ssid := by
  cases prompt with
  | dialog content =>
      rcases answers with ⟨choice, rfl⟩
      rfl
  | notification content =>
      rcases answers with ⟨action, responded⟩
      rcases Option.map_eq_some_iff.mp responded with ⟨_, _, rfl⟩
      rfl

namespace Flow

/-- The dialogs and notifications about a flow. -/
inductive Asks (flow : Flow) (helpLink : String) : Bool → Prompt → Prop
  | certificate {pending : PendingCertificate} (tofu : flow.policy = .tofu)
      (held : flow.certificate? = some pending) :
      Asks flow helpLink true (.dialog (tofuDialog flow.ssid pending))
  | exposure (legacy : flow.policy = .legacy) :
      Asks flow helpLink true (.dialog (legacyDialog flow.ssid helpLink))
  | review (tofu : flow.policy = .tofu) :
      Asks flow helpLink false (.notification (tofuNotification flow.ssid))
  | warning (legacy : flow.policy = .legacy) :
      Asks flow helpLink false (.notification (legacyNotification flow.ssid helpLink))

variable {flow : Flow} {asDialog : Bool} {helpLink : String} {prompt : Prompt}
  {response : Response}

theorem asks_of_prompt? (prompts : flow.prompt? asDialog helpLink = some prompt) :
    flow.Asks helpLink asDialog prompt := by
  cases asDialog <;> cases policy : flow.connection.policy <;>
    simp only [prompt?, Dialog.ofFlow?, Notification.ofFlow, policy, if_true, Bool.false_eq_true,
      if_false, Option.map_eq_some_iff, Option.some.injEq] at prompts
  · subst prompts
    exact .review policy
  · subst prompts
    exact .warning policy
  · rcases prompts with ⟨_, ⟨pending, held, rfl⟩, rfl⟩
    exact .certificate policy held
  · rcases prompts with ⟨_, rfl, rfl⟩
    exact .exposure policy

theorem ssid_of_prompt? (prompts : flow.prompt? asDialog helpLink = some prompt) :
    prompt.ssid = flow.ssid := by
  cases asks_of_prompt? prompts <;> rfl

theorem isDialog_of_prompt? (prompts : flow.prompt? asDialog helpLink = some prompt) :
    prompt.isDialog = asDialog := by
  cases asks_of_prompt? prompts <;> rfl

theorem policy_of_prompt? (prompts : flow.prompt? asDialog helpLink = some prompt) :
    prompt.policy = flow.policy := by
  cases asks_of_prompt? prompts with
  | certificate tofu _ | review tofu => exact tofu.symm
  | exposure legacy | warning legacy => exact legacy.symm

/-- A prompt that a flow has without a certificate is not about one, and stays its prompt when the
flow keeps one. -/
theorem prompt?_of_lacked (lacked : flow.certificate? = none)
    (prompts : flow.prompt? asDialog helpLink = some prompt)
    (certificate? : Option PendingCertificate) :
    prompt? { flow with certificate? } asDialog helpLink = some prompt := by
  cases asks_of_prompt? prompts with
  | certificate _ held => simp [lacked] at held
  | exposure legacy =>
      have policy : flow.connection.policy = .legacy := legacy
      simp [prompt?, Dialog.ofFlow?, policy, ssid]
  | review | warning => exact prompts

/-- Only the notification about a certificate asks for a review; it asks for nothing else, and the
notification of a network without a certificate never does. -/
theorem source_of_answers (prompts : flow.prompt? asDialog helpLink = some prompt)
    (answers : prompt.Answers response) :
    response.source = .dialog ∧ response.action ≠ .review ∨
      response.source = .notification ∧
        (flow.policy = .tofu ∧ response.action = .review ∨
          flow.policy = .legacy ∧ response.action ≠ .review) := by
  cases asks_of_prompt? prompts with
  | certificate | exposure =>
      rcases answers with ⟨choice, rfl⟩
      exact .inl ⟨rfl, by cases choice <;> simp [Dialog.respond]⟩
  | review tofu =>
      rcases answers with ⟨action, responded⟩
      cases action <;> cases responded
      exact .inr ⟨rfl, .inl ⟨tofu, rfl⟩⟩
  | warning legacy =>
      rcases answers with ⟨action, responded⟩
      cases action <;> cases responded <;> exact .inr ⟨rfl, .inr ⟨legacy, by simp⟩⟩

theorem eq_tofuDialog_of_prompt? {dialog : Dialog}
    (prompts : flow.prompt? asDialog helpLink = some (.dialog dialog))
    (certified : dialog.policy = .tofu) :
    flow.policy = .tofu ∧
      ∃ pending, flow.certificate? = some pending ∧ dialog = tofuDialog flow.ssid pending := by
  cases asks_of_prompt? prompts with
  | certificate tofu held => exact ⟨tofu, _, held, rfl⟩
  | exposure => cases certified

end Flow

end TrustGate
