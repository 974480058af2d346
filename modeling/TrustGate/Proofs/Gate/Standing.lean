import TrustGate.Gate.Surroundings
import TrustGate.Proofs.Gate.SlotSite

/-!
# One prompt at a time

A prompt stands from when the gate shows it until the gate dismisses it. This
file follows the prompts that stand through the calls of a history. A gate shows
a prompt only when none stands, so there is never more than one, and between its
operations the gate holds just the one that stands.

The slot on screen has a state of its own, from which answered prompts are taken
at any time. What is in it always stands, so the screen never shows more than
the gate knows of.
-/

namespace TrustGate

namespace Gate

/-! ## Prompts that stand -/

/-- The prompts that stand after a call, given those that stood before it. -/
def stand (standing : List PromptHandle) : Exchange.Event GateReply → List PromptHandle
  | ⟨.present _, handle⟩ => standing ++ [handle]
  | ⟨.dismiss handle, _⟩ => standing.filter (· ≠ handle)
  | _ => standing

/-- The prompts that stand after the calls of a transcript, given those that stood before. -/
def standing (before : List PromptHandle) (transcript : Transcript) : List PromptHandle :=
  transcript.foldl stand before

/-- Every prompt is shown at a time when none stands. -/
def Orderly : List PromptHandle → Transcript → Prop
  | _, [] => True
  | before, event :: rest =>
      (∀ prompt, event.1 = .present prompt → before = []) ∧ Orderly (stand before event) rest

section Transcripts

variable {before : List PromptHandle} {first second transcript : Transcript}
  {handle : PromptHandle}

@[simp]
theorem standing_nil : standing before [] = before :=
  rfl

@[simp]
theorem standing_cons (event : Exchange.Event GateReply) (rest : Transcript) :
    standing before (event :: rest) = standing (stand before event) rest :=
  rfl

@[simp]
theorem standing_append (first second : Transcript) :
    standing before (first ++ second) = standing (standing before first) second :=
  List.foldl_append

theorem orderly_append_iff :
    Orderly before (first ++ second) ↔
      Orderly before first ∧ Orderly (standing before first) second := by
  induction first generalizing before with
  | nil => simp [Orderly]
  | cons event first ih => simp [Orderly, ih, and_assoc]

theorem length_stand_le {event : Exchange.Event GateReply} (few : before.length ≤ 1)
    (alone : ∀ prompt, event.1 = .present prompt → before = []) :
    (stand before event).length ≤ 1 := by
  rcases event with ⟨call, reply⟩
  cases call with
  | present prompt => simp [stand, alone prompt rfl]
  | dismiss handle => exact Nat.le_trans (List.length_filter_le _ before) few
  | _ => exact few

theorem Orderly.length_standing_le (orderly : Orderly before transcript)
    (few : before.length ≤ 1) : (standing before transcript).length ≤ 1 := by
  induction transcript generalizing before with
  | nil => exact few
  | cons event rest ih => exact ih orderly.2 (length_stand_le few orderly.1)

/-- A prompt that stands goes on doing so until it is dismissed. -/
theorem mem_standing_of_undismissed (stands : handle ∈ before)
    (undismissed : ⟨.dismiss handle, ()⟩ ∉ transcript) : handle ∈ standing before transcript := by
  induction transcript generalizing before with
  | nil => exact stands
  | cons event rest ih =>
      rw [List.mem_cons, not_or] at undismissed
      apply ih ?_ undismissed.2
      rcases event with ⟨call, reply⟩
      cases call with
      | present prompt => exact List.mem_append_left _ stands
      | dismiss other =>
          have different : handle ≠ other := by
            rintro rfl
            exact undismissed.1 rfl
          simpa [stand, different] using stands
      | _ => exact stands

theorem orderly_of_unshown (unshown : seen shown? transcript = []) : Orderly before transcript := by
  induction transcript generalizing before with
  | nil => trivial
  | cons event rest ih =>
      rw [seen_cons, List.append_eq_nil_iff] at unshown
      refine ⟨fun prompt presents => ?_, ih unshown.2⟩
      simp [presents, shown?] at unshown

/-- Before a prompt is shown, those that stood before have been dismissed. -/
theorem Orderly.dismissed {between last : Transcript} {former prompt : Prompt}
    {later : PromptHandle}
    (orderly : Orderly before
      (first ++ ⟨.present former, handle⟩ :: (between ++ ⟨.present prompt, later⟩ :: last))) :
    ⟨.dismiss handle, ()⟩ ∈ between := by
  rcases (orderly_append_iff.mp orderly).2 with ⟨_, afterwards⟩
  have alone := (orderly_append_iff.mp afterwards).2.1 prompt rfl
  apply Classical.byContradiction
  intro undismissed
  have stands : handle ∈ stand (standing before first) ⟨.present former, handle⟩ := by simp [stand]
  have standsStill := mem_standing_of_undismissed stands undismissed
  rw [alone] at standsStill
  cases standsStill

end Transcripts

/-! ## Operations -/

section Operations

variable {gate : Gate} {effect : Effect} {transcript : Transcript}

@[simp]
theorem standing_dismissal (gate : Gate) :
    standing gate.prompt?.toList gate.dismissal = [] := by
  unfold dismissal
  cases held : gate.prompt? <;> simp [stand]

theorem standing_of_drops {before : List PromptHandle} {interface : String}
    {id? : Option NetworkId} {drop : Transcript} (drops : Drops interface id? drop) :
    standing before drop = before := by
  cases drops <;> rfl

theorem standing_of_records {before : List PromptHandle} {flow : Flow} {record : Transcript}
    (records : Records flow record) : standing before record = before := by
  cases records <;> rfl

/-- What stands when an operation is over is what the gate then holds. -/
theorem standing_of_makes (makes : effect.Makes gate transcript) :
    standing gate.prompt?.toList transcript = (effect.after gate).prompt?.toList := by
  cases makes with
  | nothing | kept => rfl
  | dismissed | dropped => exact standing_dismissal gate
  | trusted | presented => simp [stand, Effect.after]
  | started drops | failed drops | rejected _ drops =>
      simp [stand, Effect.after, standing_of_drops drops]
  | accepted records => simp [stand, Effect.after, standing_of_records records]

theorem orderly_of_makes (makes : effect.Makes gate transcript) :
    Orderly gate.prompt?.toList transcript := by
  have dismissal := seen_dismissal shown? gate fun _ => rfl
  have unshown := prompts_of_makes makes
  cases makes with
  | presented =>
      refine orderly_append_iff.mpr ⟨orderly_of_unshown dismissal, fun _ _ => ?_, trivial⟩
      exact standing_dismissal gate
  | _ => exact orderly_of_unshown unshown

end Operations

/-! ## Histories -/

section Histories

variable {σ : Type} {respond : (call : GateCall) → σ → GateReply call × σ}
  {slot : σ → PromptSlot} {site later : σ}

/-- What is in the slot stands. -/
theorem mem_standing_of_answered (showsIn : ShowsIn respond slot) {before : List PromptHandle}
    {transcript : Transcript} (answered : Exchange.Answered respond site transcript later)
    (stood : ∀ handle prompt, (slot site).current? = some (handle, prompt) → handle ∈ before)
    {handle : PromptHandle} {prompt : Prompt}
    (current : (slot later).current? = some (handle, prompt)) :
    handle ∈ standing before transcript := by
  induction transcript generalizing site before with
  | nil =>
      cases answered
      exact stood handle prompt current
  | cons event rest ih =>
      rcases event with ⟨call, reply⟩
      rcases answered with ⟨rfl, answered⟩
      apply ih answered
      intro shown content between
      rcases showsIn call site shown content between with ⟨former, undismissed⟩ | presented
      · have spared : ⟨.dismiss shown, ()⟩ ∉ ([⟨call, (respond call site).1⟩] : Transcript) := by
          intro dismissed
          exact undismissed (congrArg Sigma.fst (List.mem_singleton.mp dismissed)).symm
        exact mem_standing_of_undismissed (stood shown content former) spared
      · rw [← presented]
        simp [stand]

theorem Reached.standing_eq {first gate : Gate} {initial surroundings : σ} {past : List (Turn σ)}
    (reached : Reached respond first initial past gate surroundings)
    (unasked : first.prompt? = none) :
    standing [] (past.flatMap Turn.transcript) = gate.prompt?.toList ∧
      Orderly [] (past.flatMap Turn.transcript) := by
  induction reached with
  | start => simp [unasked, Orderly]
  | @turn past gate surroundings _ operation ih =>
      rcases ih with ⟨stands, orderly⟩
      rcases performs_turn respond gate surroundings operation with ⟨effect, _, makes, after⟩
      rw [List.flatMap_append, List.flatMap_singleton, standing_append, orderly_append_iff, stands,
        standing_of_makes makes, after]
      exact ⟨rfl, orderly, orderly_of_makes makes⟩

end Histories

/-- In surroundings with a screen that is its own, a gate that began fresh has shown at most one
prompt that it has not dismissed, at every moment, and it holds just this one between its
operations. Before it shows a prompt it has dismissed all that it showed before. And whichever
prompts the user has answered at whatever times: if there is a prompt on screen between operations,
it is the one that the gate holds, and it was made for the network and the policy of the flow, which
awaits an answer. Also within an operation it is the one that has not been dismissed, and for the
flow that was pending when the operation began. -/
theorem screen_agrees_with_gate {ρ : Type} {others : (call : GateCall) → ρ → GateReply call × ρ}
    {settings : GateSettings} {shown : Nat} {answered : List (List PromptHandle)} {rest : ρ}
    {past : List (Turn (SlotSite ρ))} {gate : Gate} {site : SlotSite ρ}
    (reached : Reached (SlotSite.reply others) { settings } { slot := { shown }, answered, rest }
      past gate site) :
    standing [] (past.flatMap Turn.transcript) = gate.prompt?.toList ∧
    (∀ first second, past.flatMap Turn.transcript = first ++ second →
      (standing [] first).length ≤ 1) ∧
    (∀ first between last former prompt handle later,
      past.flatMap Turn.transcript =
        first ++ ⟨.present former, handle⟩ :: (between ++ ⟨.present prompt, later⟩ :: last) →
      ⟨.dismiss handle, ()⟩ ∈ between) ∧
    (∀ (taken : List PromptHandle) (handle : PromptHandle) (prompt : Prompt),
      (taken.foldl PromptSlot.remove site.slot).current? = some (handle, prompt) →
        gate.prompt? = some handle ∧ gate.state = .awaitingApproval ∧
        ∃ flow, gate.flow? = some flow ∧ prompt.ssid = flow.ssid ∧ prompt.policy = flow.policy) ∧
    ∀ operation first second moment (taken : List PromptHandle) (handle : PromptHandle)
        (prompt : Prompt),
      (gate.turn (SlotSite.reply others) site operation).transcript = first ++ second →
      Exchange.Answered (SlotSite.reply others) site first moment →
      (taken.foldl PromptSlot.remove moment.slot).current? = some (handle, prompt) →
        standing [] (past.flatMap Turn.transcript ++ first) = [handle] ∧
        ∃ flow, gate.flow? = some flow ∧ prompt.ssid = flow.ssid ∧ prompt.policy = flow.policy := by
  have showsIn := showsIn_slotSite others
  have onScreen : gate.OnScreen site.slot := reached.onScreen showsIn (by simp [OnScreen])
  rcases reached.standing_eq rfl with ⟨stands, orderly⟩
  refine ⟨stands, ?few, ?dismissed, ?between, ?within⟩
  case few =>
    rintro first second cut
    rw [cut] at orderly
    exact (orderly_append_iff.mp orderly).1.length_standing_le (Nat.zero_le 1)
  case dismissed =>
    intro first between last former prompt handle later cut
    rw [cut] at orderly
    exact orderly.dismissed
  case between =>
    intro taken handle prompt current
    rcases onScreen handle prompt (PromptSlot.current?_of_foldl_remove current) with
      ⟨held, flow, asDialog, isPending, prompts⟩
    have coherent : gate.Coherent := reached.coherent (coherent_of_fresh settings)
    have awaiting : gate.state = .awaitingApproval := coherent.prompted.mp (by simp [held])
    exact ⟨held, awaiting, flow, isPending, Flow.ssid_of_prompt? prompts,
      Flow.policy_of_prompt? prompts⟩
  case within =>
    intro operation first second moment taken handle prompt cut answers current
    have shownNow := PromptSlot.current?_of_foldl_remove current
    rcases performs_turn _ gate site operation with ⟨effect, brings, makes, _⟩
    rw [cut] at makes
    rcases OnScreen.during showsIn onScreen brings.fits makes answers shownNow with
      ⟨flow, asDialog, isPending, prompts⟩
    have few : (standing gate.prompt?.toList first).length ≤ 1 :=
      (orderly_append_iff.mp (orderly_of_makes makes)).1.length_standing_le
        (Option.length_toList_le)
    have mem : handle ∈ standing gate.prompt?.toList first := by
      apply mem_standing_of_answered showsIn answers ?_ shownNow
      intro former content before
      simp [(onScreen former content before).1]
    refine ⟨?_, flow, isPending, Flow.ssid_of_prompt? prompts, Flow.policy_of_prompt? prompts⟩
    rw [standing_append, stands]
    cases stood : standing gate.prompt?.toList first with
    | nil => simp [stood] at mem
    | cons other others => simp_all

/-- A notification is tapped and taken off the screen, and the dialog takes its place. -/
theorem dialog_stands_after_notification :
    ∃ past gate site prompt,
      Reached (SlotSite.reply Surroundings.reply) { settings := ⟨true, "wlan0", ""⟩ }
          { slot := {}, answered := [[], [1]], rest := {} } past gate site ∧
        past.flatMap (fun turn => seen shown? turn.transcript) =
          [.notification (tofuNotification "corp"), prompt] ∧
        site.slot.current? = some (2, prompt) ∧ gate.prompt? = some 2 ∧
        standing [] (past.flatMap Turn.transcript) = [2] := by
  have reached : Reached (SlotSite.reply Surroundings.reply) { settings := ⟨true, "wlan0", ""⟩ }
      { slot := {}, answered := [[], [1]], rest := {} } _ _ _ :=
    (((Reached.start.turn (.prepare (newcomer 5 "corp"))).turn (.offer "corp" (radius [1]))).turn
      (.request false)).turn (.respond ⟨some "corp", .review, .notification⟩)
  rcases screen_agrees_with_gate reached with ⟨stands, _, _, between, _⟩
  exact ⟨_, _, _, _, reached, rfl, rfl, (between [] 2 _ rfl).1, stands⟩

end Gate

end TrustGate
