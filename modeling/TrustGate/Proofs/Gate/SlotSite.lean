import TrustGate.Proofs.Gate.Invariant
import TrustGate.Proofs.Gate.Prompts
import TrustGate.Proofs.Gate.StoreSite

/-!
# A gate with a screen

Beside a store, the surroundings of this file have a slot in which they show the
prompts of a gate, and from which the user takes those that were answered, at any
time. Of the rest nothing is known. `OnScreen` says that the prompt in the slot
is the one that the gate holds, and that it was built from the flow that is
pending.
-/

namespace TrustGate

/-- Surroundings with the place of the prompt on screen. -/
structure SlotSite (ρ : Type) where
  slot : PromptSlot := {}
  /-- The prompts that the user answers before each use of the slot to come. -/
  answered : List (List PromptHandle) := []
  rest : ρ

namespace SlotSite

variable {ρ : Type}

/-- The slot without the prompts that the user has answered since its last use. -/
def settled (site : SlotSite ρ) : PromptSlot :=
  (site.answered.headD []).foldl PromptSlot.remove site.slot

/-- The reply to a call of a gate from the slot, or else from the rest of the surroundings. -/
def reply (others : (call : GateCall) → ρ → GateReply call × ρ) (call : GateCall)
    (site : SlotSite ρ) : GateReply call × SlotSite ρ :=
  match call with
  | .present prompt =>
      let (handle, slot) := site.settled.present prompt
      (handle, { site with slot, answered := site.answered.tail })
  | .dismiss handle =>
      ((), { site with slot := site.settled.remove handle, answered := site.answered.tail })
  | call =>
      let (reply, rest) := others call site.rest
      (reply, { site with rest })

end SlotSite

namespace PromptSlot

variable {slot : PromptSlot} {handle taken : PromptHandle} {prompt : Prompt}

theorem current?_of_remove (current : (slot.remove taken).current? = some (handle, prompt)) :
    slot.current? = some (handle, prompt) ∧ handle ≠ taken := by
  unfold remove at current
  split at current
  · simp at current
  · next stays =>
      refine ⟨current, ?_⟩
      rintro rfl
      simp [current] at stays

theorem current?_of_foldl_remove {taken : List PromptHandle}
    (current : (taken.foldl remove slot).current? = some (handle, prompt)) :
    slot.current? = some (handle, prompt) := by
  induction taken generalizing slot with
  | nil => exact current
  | cons first others ih => exact (current?_of_remove (ih current)).1

end PromptSlot

namespace Gate

section Slot

variable {σ ρ : Type} {respond : (call : GateCall) → σ → GateReply call × σ}
  {slot : σ → PromptSlot} {site later : σ} {transcript : Transcript} {handle : PromptHandle}
  {prompt : Prompt}

/-- The surroundings have a slot. A prompt is in it at the earliest when the gate shows it, and at
the latest until the gate dismisses it. -/
def ShowsIn (respond : (call : GateCall) → σ → GateReply call × σ) (slot : σ → PromptSlot) : Prop :=
  ∀ call site handle prompt, (slot (respond call site).2).current? = some (handle, prompt) →
    (slot site).current? = some (handle, prompt) ∧ call ≠ .dismiss handle ∨
      (⟨.present prompt, handle⟩ : Exchange.Event GateReply) = ⟨call, (respond call site).1⟩

theorem showsIn_slotSite (others : (call : GateCall) → ρ → GateReply call × ρ) :
    ShowsIn (SlotSite.reply others) SlotSite.slot := by
  intro call site handle prompt current
  cases call with
  | present other =>
      cases current
      exact .inr rfl
  | dismiss taken =>
      rcases PromptSlot.current?_of_remove current with ⟨settled, stays⟩
      refine .inl ⟨PromptSlot.current?_of_foldl_remove settled, ?_⟩
      rintro ⟨⟩
      exact stays rfl
  | _ => exact .inl ⟨current, by simp⟩

/-- A store beside the slot makes no difference to it. -/
theorem ShowsIn.storeSite (showsIn : ShowsIn respond slot) :
    ShowsIn (StoreSite.reply respond) fun site => slot site.rest := by
  intro call site handle prompt current
  cases call with
  | hasValidTrust | update => exact .inl ⟨current, by simp⟩
  | _ => exact showsIn _ site.rest handle prompt current

/-- The prompt in the slot was there before and has not been dismissed, or it has been shown. -/
theorem current?_of_answered (showsIn : ShowsIn respond slot)
    (answered : Exchange.Answered respond site transcript later)
    (current : (slot later).current? = some (handle, prompt)) :
    (slot site).current? = some (handle, prompt) ∧ ⟨.dismiss handle, ()⟩ ∉ transcript ∨
      ⟨.present prompt, handle⟩ ∈ transcript := by
  induction transcript generalizing site with
  | nil =>
      cases answered
      exact .inl ⟨current, by simp⟩
  | cons event rest ih =>
      rcases event with ⟨call, reply⟩
      rcases answered with ⟨rfl, answered⟩
      rcases ih answered with ⟨between, undismissed⟩ | shown
      · rcases showsIn call site handle prompt between with ⟨before, stays⟩ | shown
        · refine .inl ⟨before, ?_⟩
          simp only [List.mem_cons, not_or]
          refine ⟨?_, undismissed⟩
          intro same
          exact stays (congrArg Sigma.fst same).symm
        · exact .inr (shown ▸ .head _)
      · exact .inr (.tail _ shown)

end Slot

/-- The prompt in the slot is the one that the gate holds and is about its flow. -/
def OnScreen (gate : Gate) (slot : PromptSlot) : Prop :=
  ∀ handle prompt, slot.current? = some (handle, prompt) →
    gate.prompt? = some handle ∧
      ∃ flow asDialog, gate.flow? = some flow ∧
        flow.prompt? asDialog gate.settings.helpLink = some prompt

section Step

variable {σ : Type} {respond : (call : GateCall) → σ → GateReply call × σ}
  {slot : σ → PromptSlot} {site later : σ} {gate : Gate} {effect : Effect}

theorem dismiss_mem_dismissal {handle : PromptHandle} (held : gate.prompt? = some handle) :
    ⟨.dismiss handle, ()⟩ ∈ gate.dismissal := by
  simp [dismissal, held]

/-- At every moment of an operation the prompt in the slot is about the flow that was pending at
its beginning. -/
theorem OnScreen.during {first second : Transcript} (showsIn : ShowsIn respond slot)
    (onScreen : gate.OnScreen (slot site)) (fits : effect.Fits gate)
    (makes : effect.Makes gate (first ++ second))
    (answered : Exchange.Answered respond site first later)
    {handle : PromptHandle} {prompt : Prompt}
    (current : (slot later).current? = some (handle, prompt)) :
    ∃ flow asDialog, gate.flow? = some flow ∧
      flow.prompt? asDialog gate.settings.helpLink = some prompt := by
  rcases current?_of_answered showsIn answered current with ⟨before, _⟩ | shown
  · exact (onScreen handle prompt before).2
  · rcases eq_presented_of_mem makes (List.mem_append_left second shown) with ⟨flow, rfl⟩
    rcases fits with ⟨isPending, _, asDialog, prompts⟩
    exact ⟨flow, asDialog, isPending, prompts⟩

theorem OnScreen.after {transcript : Transcript} (showsIn : ShowsIn respond slot)
    (onScreen : gate.OnScreen (slot site)) (fits : effect.Fits gate)
    (makes : effect.Makes gate transcript)
    (answered : Exchange.Answered respond site transcript later) :
    (effect.after gate).OnScreen (slot later) := by
  intro handle prompt current
  rcases current?_of_answered showsIn answered current with ⟨before, undismissed⟩ | shown
  -- All effects but two begin by dismissing the prompt that the gate holds.
  · rcases onScreen handle prompt before with ⟨held, flow, asDialog, isPending, prompts⟩
    have dismissed := dismiss_mem_dismissal held
    cases makes with
    | nothing => exact ⟨held, flow, asDialog, isPending, prompts⟩
    | @kept current pending =>
        rcases fits with ⟨currentPending, lacked, _, _⟩
        have same : current = flow := Option.some.inj (currentPending.symm.trans isPending)
        subst same
        exact ⟨held, _, asDialog, rfl, Flow.prompt?_of_lacked lacked prompts (some pending)⟩
    | _ => simp [dismissed] at undismissed
  · rcases eq_presented_of_mem makes shown with ⟨flow, rfl⟩
    rcases fits with ⟨isPending, _, asDialog, prompts⟩
    refine ⟨rfl, { flow with stage := .approval }, asDialog, rfl, ?_⟩
    exact prompts

end Step

theorem Reached.onScreen {σ : Type} {respond : (call : GateCall) → σ → GateReply call × σ}
    {slot : σ → PromptSlot} {first gate : Gate} {initial surroundings : σ} {past : List (Turn σ)}
    (reached : Reached respond first initial past gate surroundings)
    (showsIn : ShowsIn respond slot) (onScreen : first.OnScreen (slot initial)) :
    gate.OnScreen (slot surroundings) := by
  induction reached with
  | start => exact onScreen
  | @turn _ gate surroundings _ operation ih =>
      rcases performs_turn _ gate surroundings operation with ⟨effect, brings, makes, after⟩
      rw [after]
      exact .after showsIn ih brings.fits makes (answered_turn _ gate surroundings operation)

end Gate

end TrustGate
