import TrustGate.Proofs.Focus
import TrustGate.Screen.Picture

/-!
# The highlighted button

The picture of a prompt highlights the button that the focus of the screen is on.
A key press looks first whether the focus belongs to the prompt, and lets it start
anew if not; the picture does not look. So a prompt that has taken the place of
another is drawn with the focus of the other until it gets its first key, and the
enter key then presses the button on which a focus starts, not the highlighted one.

The main statement says when the two agree. What the prompt before was and which keys
it got decides it, because each prompt counts its own keys.
-/

namespace TrustGate

open Terminal

/-! ## Buttons -/

/-- A button of a prompt, with the answer it gives. One that opens a page gives none. -/
structure Button where
  label : String
  answer? : Option Response
deriving Repr, DecidableEq

def Prompt.buttons : Prompt → List Button
  | dialog content => [
      ⟨content.negativeLabel, some (content.respond .negative)⟩,
      ⟨content.positiveLabel, some (content.respond .positive)⟩]
  | notification content =>
      content.buttons.map fun button => ⟨button.label, content.respond? button.action⟩

/-- The place of the focus among the buttons of a prompt. -/
def Prompt.place (focus : Focus) : Prompt → Nat
  | dialog _ => if focus.positive then 1 else 0
  | notification _ => focus.index

def Prompt.button? (prompt : Prompt) (focus : Focus) : Option Button :=
  prompt.buttons[prompt.place focus]?

@[simp]
theorem Prompt.place_start (prompt : Prompt) : prompt.place {} = 0 := by
  cases prompt <;> rfl

section Asks

variable {flow : Flow} {helpLink : String} {asDialog : Bool} {prompt : Prompt}

/-- The buttons of a prompt about a flow look different and answer differently. -/
theorem Flow.Asks.nodup (asks : flow.Asks helpLink asDialog prompt) :
    (prompt.buttons.map fun button => Screen.buttonSpan button.label true).Nodup ∧
      (prompt.buttons.map Button.answer?).Nodup := by
  cases asks <;> simp [Prompt.buttons, Screen.buttonSpan, tofuDialog, legacyDialog,
    tofuNotification, legacyNotification, Dialog.respond, Notification.respond?,
    Notification.route?, Notification.offers]

theorem Flow.Asks.answers (asks : flow.Asks helpLink asDialog prompt) :
    ∀ button ∈ prompt.buttons, ∃ response, button.answer? = some response := by
  cases asks <;> simp [Prompt.buttons, tofuNotification, legacyNotification,
    Notification.respond?, Notification.route?, Notification.offers]

/-- Keys leave the focus on a button of the prompt that they are for. -/
theorem Flow.Asks.place_focusAfter_lt (asks : flow.Asks helpLink asDialog prompt)
    (keys : List Key) : prompt.place (prompt.focusAfter keys) < prompt.buttons.length := by
  have filled : 0 < prompt.buttons.length := by
    cases asks <;> simp [Prompt.buttons, tofuNotification, legacyNotification]
  cases prompt with
  | dialog content =>
      simp only [Prompt.place, Prompt.focusAfter, Prompt.buttons, List.length_cons,
        List.length_nil, decide_eq_true_iff]
      split <;> decide
  | notification content =>
      simp only [Prompt.place, Prompt.focusAfter, Prompt.buttons, List.length_map] at filled ⊢
      rw [Nat.max_eq_left filled, Int.toNat_lt (Int.emod_nonneg _ (by omega))]
      exact Int.emod_lt_of_pos _ (by omega)

end Asks

namespace Screen

/-- The line of buttons in the picture of a prompt. -/
def buttonLine (screen : Screen) : Prompt → Line
  | .dialog dialog => dialogButtons dialog screen.positiveFocused
  | .notification notification =>
      notificationButtons notification.buttons screen.notificationFocus

/-- The button that the picture highlights. -/
def highlighted? (screen : Screen) (prompt : Prompt) : Option Button :=
  prompt.button? screen.focus

/-- The span is drawn in the style of a button with the focus. -/
def isFocused (span : Span) : Bool :=
  span.style = Theme.button true

@[simp]
theorem isFocused_buttonSpan (label : String) (focused : Bool) :
    isFocused (buttonSpan label focused) = focused := by
  cases focused <;> rfl

/-- One button of the prompt is drawn with the focus, and its answer is what comes of the enter
key. -/
def Agrees (screen : Screen) (slot : PromptSlot) (prompt : Prompt) : Prop :=
  ∃ button ∈ prompt.buttons,
    (screen.buttonLine prompt).filter isFocused = [buttonSpan button.label true] ∧
      ∃ response, button.answer? = some response ∧
        (screen.press slot { key := .enter }).command? = some (answerCommand response)

variable {screen : Screen} {slot : PromptSlot} {handle : PromptHandle} {prompt : Prompt}

theorem filter_intercalate {gap : Span} (plain : isFocused gap = false) (parts : List Line) :
    ([gap].intercalate parts).filter isFocused = parts.flatMap (·.filter isFocused) := by
  induction parts with
  | nil => rfl
  | cons part parts ih =>
      cases parts with
      | nil => simp
      | cons next parts =>
          rw [List.intercalate_cons_cons, List.filter_append, ih]
          simp [plain]

theorem flatMap_filter_buttonSpan (buttons : List NotificationButton) (focus : Nat) :
    (buttons.mapIdx fun index button => [buttonSpan button.label (index == focus)]).flatMap
        (·.filter isFocused) =
      (buttons[focus]?.map fun button => buttonSpan button.label true).toList := by
  induction buttons generalizing focus with
  | nil => rfl
  | cons button buttons ih =>
      rw [List.mapIdx_cons, List.flatMap_cons]
      cases focus with
      | zero =>
          have others : (buttons.mapIdx fun index button =>
              [buttonSpan button.label (index + 1 == 0)]).flatMap (·.filter isFocused) = [] := by
            simp only [List.flatMap_eq_nil_iff, List.mem_mapIdx]
            rintro _ ⟨index, bound, rfl⟩
            simp
          rw [others]
          simp
      | succ focus => simpa using ih focus

/-- The highlighted button is the only one that is drawn in the style of the focus. -/
theorem filter_buttonLine (screen : Screen) (prompt : Prompt) :
    (screen.buttonLine prompt).filter isFocused =
      ((screen.highlighted? prompt).map fun button => buttonSpan button.label true).toList := by
  cases prompt with
  | dialog dialog =>
      have plain : isFocused ⟨"   ", {}⟩ = false := rfl
      cases positive : screen.positiveFocused <;>
        simp [buttonLine, dialogButtons, plain, highlighted?, Prompt.button?, Prompt.buttons,
          Prompt.place, focus, positive]
  | notification notification =>
      rw [buttonLine, notificationButtons, filter_intercalate rfl, flatMap_filter_buttonSpan,
        highlighted?, Prompt.button?, Prompt.buttons, Prompt.place, focus, List.getElem?_map,
        Option.map_map]
      rfl

/-- The enter key presses the button on which the focus is once the prompt has got the key. -/
theorem command?_enter (current : slot.current? = some (handle, prompt)) :
    (screen.press slot { key := .enter }).command? =
      ((prompt.button? (screen.attend handle).focus).bind Button.answer?).map answerCommand := by
  have stays : quits { key := .enter } = false := rfl
  cases prompt with
  | dialog dialog =>
      simp only [Screen.press, stays, current, Bool.false_eq_true, if_false, pressOnDialog,
        dialogKey, Prompt.button?, Prompt.buttons, Prompt.place, focus]
      by_cases positive : (screen.attend handle).positiveFocused = true <;> simp [positive]
  | notification notification =>
      simp only [Screen.press, stays, current, Bool.false_eq_true, if_false, pressOnNotification,
        notificationKey, Prompt.button?, Prompt.buttons, Prompt.place, focus, List.getElem?_map]
      cases notification.buttons[(screen.attend handle).notificationFocus]? with
      | none => rfl
      | some button =>
          simp only [actOnNotification, Option.map_some, Option.bind_some]
          split
          · next response responded => simp [responded]
          · next unanswered => split <;> simp [unanswered]

/-- The two agree when the focus that is drawn is on the button that it will be on. -/
theorem agrees_iff (current : slot.current? = some (handle, prompt)) {flow : Flow}
    {helpLink : String} {asDialog : Bool} (asks : flow.Asks helpLink asDialog prompt)
    (inside : prompt.place (screen.attend handle).focus < prompt.buttons.length) :
    screen.Agrees slot prompt ↔
      prompt.place screen.focus = prompt.place (screen.attend handle).focus := by
  rcases asks.nodup with ⟨spans, answers⟩
  have pressed := List.getElem?_eq_getElem inside
  rcases asks.answers _ (List.getElem_mem inside) with ⟨given, gives⟩
  have comes : (screen.press slot { key := .enter }).command? = some (answerCommand given) := by
    rw [command?_enter current, Prompt.button?, pressed, Option.bind_some, gives, Option.map_some]
  simp only [Agrees, filter_buttonLine, comes, highlighted?, Prompt.button?]
  constructor
  · rintro ⟨button, mem, drawn, response, answer, same⟩
    rcases List.mem_iff_getElem?.mp mem with ⟨place, found⟩
    have bound : place < prompt.buttons.length := (List.getElem?_eq_some_iff.mp found).1
    rw [Option.toList_eq_singleton_iff] at drawn
    have highlighted : place = prompt.place screen.focus := by
      apply (List.getElem?_inj (by simpa using bound) spans).mp
      simp [found, drawn]
    have chosen : place = prompt.place (screen.attend handle).focus := by
      apply (List.getElem?_inj (by simpa using bound) answers).mp
      cases same
      simp [found, pressed, answer, gives]
    exact highlighted.symm.trans chosen
  · intro same
    rw [same, pressed]
    exact ⟨_, List.getElem_mem inside, rfl, given, gives, rfl⟩

end Screen

/-! ## Prompts of flows -/

/-- The prompt in the slot, if there is one, is about some flow. -/
def PromptSlot.AboutFlow (slot : PromptSlot) : Prop :=
  ∀ handle prompt, slot.current? = some (handle, prompt) →
    ∃ (flow : Flow) (helpLink : String) (asDialog : Bool), flow.Asks helpLink asDialog prompt

theorem Screen.aboutFlow_press {slot : PromptSlot} (aboutFlow : slot.AboutFlow) (screen : Screen)
    (press : KeyPress) : (screen.press slot press).slot.AboutFlow := by
  have presses := screen.presses_press slot press
  generalize screen.press slot press = effect at presses
  cases presses with
  | leaves | stays => exact aboutFlow
  | answers _ _ _ _ taken =>
      rcases taken with rfl | rfl
      · exact aboutFlow
      · exact fun handle prompt current =>
          aboutFlow handle prompt (PromptSlot.current?_of_remove current).1

/-- Whatever a controller is told to do, it shows only prompts about flows. -/
theorem Session.asks_of_presented {session : Session} {command : Controller.Command}
    {prompt : Prompt} {handle : PromptHandle}
    (presented : ⟨.present prompt, handle⟩ ∈ (session.send command).events) :
    ∃ (flow : Flow) (helpLink : String) (asDialog : Bool), flow.Asks helpLink asDialog prompt := by
  cases running : session.controller.running with
  | false =>
      simp [Session.send, Controller.perform_of_stopped running, Exchange.run] at presented
  | true =>
      cases command with
      | operate operation =>
          rcases session.performs_send running operation with ⟨effect, result, brings, makes, _⟩
          rcases Gate.eq_presented_of_mem makes presented with ⟨flow, rfl⟩
          rcases brings.fits with ⟨_, _, asDialog, prompts⟩
          exact ⟨flow, _, asDialog, Flow.asks_of_prompt? prompts⟩
      | snapshot | shutdown =>
          simp [Session.send, Controller.perform, running, Exchange.run] at presented

theorem Session.aboutFlow_send {session : Session}
    (aboutFlow : session.surroundings.slot.AboutFlow) (command : Controller.Command) :
    (session.send command).session.surroundings.slot.AboutFlow := by
  intro handle prompt current
  rcases Gate.current?_of_answered Surroundings.showsIn_reply (session.answered_send command)
    current with ⟨before, _⟩ | shown
  · exact aboutFlow handle prompt before
  · exact asks_of_presented shown

namespace QueuedSession

theorem aboutFlow_work {now : QueuedSession}
    (aboutFlow : now.session.surroundings.slot.AboutFlow) :
    now.work.session.surroundings.slot.AboutFlow := by
  cases queue : now.queue with
  | nil => rwa [work_of_idle queue]
  | cons command rest =>
      rw [work_of_queued queue]
      exact Session.aboutFlow_send aboutFlow command

theorem aboutFlow_tick {now : QueuedSession}
    (aboutFlow : now.session.surroundings.slot.AboutFlow) :
    now.tick.session.surroundings.slot.AboutFlow := by
  have settled : now.settle.session.surroundings.slot.AboutFlow :=
    settle_induction (motive := fun later => later.session.surroundings.slot.AboutFlow)
      (fun _ => aboutFlow_work) aboutFlow
  have ticks := now.settle.session.ticks_tick
  simp only [QueuedSession.tick]
  generalize now.settle.session.tick = step at ticks
  cases ticks with
  | goesOn | ends => exact settled

namespace Watched

variable {watched : Watched}

theorem aboutFlow_run (aboutFlow : watched.slot.AboutFlow) (moves : List Move) :
    (watched.run moves).slot.AboutFlow := by
  induction moves generalizing watched with
  | nil => exact aboutFlow
  | cons move moves ih =>
      apply ih
      cases move with
      | press press => exact watched.screen.aboutFlow_press aboutFlow press
      | tick => exact aboutFlow_tick aboutFlow
      | send command => exact aboutFlow
      | work => exact aboutFlow_work aboutFlow

theorem aboutFlow_of_opens {now : QueuedSession} (opens : Opens now) :
    (Watched.mk now []).slot.AboutFlow := by
  simp [PromptSlot.AboutFlow, Watched.slot, opens.slot]

/-! ## The main statement -/

/-- The last prompt that got keys is another one of the same kind, and its keys have moved the focus
away from the button on which it starts. -/
def LeftAway (watched : Watched) (handle : PromptHandle) (prompt : Prompt) : Prop :=
  ∃ last, watched.keys.getLast? = some last ∧ last.handle ≠ handle ∧
    last.prompt.isDialog = prompt.isDialog ∧
    last.prompt.focusAfter (keysOf last.handle watched.keys) ≠ {}

/-- Of the focus that the keys of one prompt leave, a prompt of the other kind shows nothing. -/
theorem place_focusAfter_eq_zero_iff (keys : List Key) (former prompt : Prompt) :
    prompt.place (former.focusAfter keys) = 0 ↔
      former.isDialog = prompt.isDialog → former.focusAfter keys = {} := by
  cases former <;> cases prompt <;> simp [Prompt.place, Prompt.focusAfter, Prompt.isDialog]

/-- Let keys, ticks, commands of other clients and the worker follow one another in any way from the
opening of the screen on, and let a prompt be on it. The highlighted button is the one that the
enter key presses, unless the keys of a former prompt of the same kind have left the focus away from
its start and no prompt has got a key since. -/
theorem highlighted_is_pressed_iff {first : QueuedSession} (opens : Opens first)
    (moves : List Move) {watched : Watched} (plays : run ⟨first, []⟩ moves = watched)
    {handle : PromptHandle} {prompt : Prompt}
    (current : watched.slot.current? = some (handle, prompt)) :
    watched.screen.Agrees watched.slot prompt ↔ ¬watched.LeftAway handle prompt := by
  have tracks : watched.Tracks := plays ▸ (tracks_of_opens opens).run moves
  have aboutFlow : watched.slot.AboutFlow := by
    rw [← plays]
    exact aboutFlow_run (aboutFlow_of_opens opens) moves
  rcases aboutFlow handle prompt current with ⟨flow, helpLink, asDialog, asks⟩
  have inside : prompt.place (watched.screen.attend handle).focus < prompt.buttons.length :=
    tracks.attends current ▸ asks.place_focusAfter_lt _
  rw [Screen.agrees_iff current asks inside]
  rcases latest : watched.keys.getLast? with _ | last
  · rcases tracks.unfocused (List.getLast?_eq_none_iff.mp latest) with ⟨unfocused, start⟩
    rw [Screen.focus_attend_of_unfocused (by simp [unfocused]), start]
    simp [LeftAway, latest]
  · rcases tracks.focused last latest with ⟨focused, focus, _⟩
    by_cases same : last.handle = handle
    · rw [Screen.focus_attend_of_focused (same ▸ focused)]
      simp [LeftAway, latest, same]
    · rw [Screen.focus_attend_of_unfocused (by simpa [focused] using same), Prompt.place_start,
        focus, place_focusAfter_eq_zero_iff]
      simp [LeftAway, latest, same]

/-- The screen of a device that can pin, before the first prompt. -/
def blank : QueuedSession where
  session := { controller := { gate := { settings := ⟨true, "wlan0", ""⟩ } } }

/-- A dialog comes up, and the focus is moved to its positive button. -/
def focusMoved : List Move :=
  [.send (.operate (.prepare (Gate.newcomer 5 "corp"))),
    .send (.operate (.offer "corp" (Gate.radius [1]))), .send (.operate (.request true)),
    .tick, .press ⟨.right, false⟩]

theorem moved_focus_highlighted_and_pressed :
    let watched := run ⟨blank, []⟩ focusMoved
    ∃ prompt, watched.slot.current? = some (1, prompt) ∧ ¬watched.LeftAway 1 prompt ∧
      watched.screen.Agrees watched.slot prompt := by
  intro watched
  have opens : Opens blank := ⟨rfl, rfl⟩
  have shown : watched.slot.current?.map Prod.fst = some 1 := by decide +kernel
  rcases Option.map_eq_some_iff.mp shown with ⟨⟨_, prompt⟩, current, rfl⟩
  have unmoved : ¬watched.LeftAway 1 prompt := by
    rintro ⟨last, latest, other, _⟩
    have keyed : watched.keys.getLast?.map PromptKey.handle = some 1 := by decide +kernel
    rw [latest] at keyed
    exact other (Option.some.inj keyed)
  exact ⟨prompt, current, unmoved,
    (highlighted_is_pressed_iff opens focusMoved rfl current).mpr unmoved⟩

/-- Another dialog takes the place of the one in which the focus was moved. It is drawn with its
positive button highlighted, and the enter key presses the negative one. -/
theorem highlighted_positive_pressed_negative :
    let watched := run ⟨blank, []⟩ (focusMoved ++ [.send (.operate (.request true)), .work])
    ∃ dialog, Opens blank ∧ watched.slot.current? = some (2, .dialog dialog) ∧
      (watched.screen.buttonLine (.dialog dialog)).filter Screen.isFocused =
        [Screen.buttonSpan dialog.positiveLabel true] ∧
      (watched.screen.press watched.slot { key := .enter }).command? =
        some (Screen.answerCommand (dialog.respond .negative)) ∧
      ¬watched.screen.Agrees watched.slot (.dialog dialog) := by
  intro watched
  have shown : watched.slot.current?.map (fun current => (current.1, current.2.isDialog)) =
      some (2, true) := by decide +kernel
  have focus : watched.screen.focus = ⟨true, 0⟩ := by decide +kernel
  have unfocused : watched.screen.focusedPrompt? ≠ some 2 := by decide +kernel
  rcases Option.map_eq_some_iff.mp shown with ⟨⟨_, dialog | _⟩, current, kind⟩ <;> cases kind
  have highlights : (watched.screen.buttonLine (.dialog dialog)).filter Screen.isFocused =
      [Screen.buttonSpan dialog.positiveLabel true] := by
    rw [Screen.filter_buttonLine, Screen.highlighted?, focus]
    rfl
  have presses : (watched.screen.press watched.slot { key := .enter }).command? =
      some (Screen.answerCommand (dialog.respond .negative)) := by
    rw [Screen.command?_enter current, Screen.focus_attend_of_unfocused unfocused]
    rfl
  have opens : Opens blank := ⟨rfl, rfl⟩
  rcases aboutFlow_run (aboutFlow_of_opens opens) _ 2 _ current with ⟨_, _, _, asks⟩
  have start := Screen.focus_attend_of_unfocused unfocused
  refine ⟨dialog, opens, current, highlights, presses, ?_⟩
  rw [Screen.agrees_iff current asks (by simp [start, Prompt.buttons]), focus, start]
  simp [Prompt.place]

end Watched

end QueuedSession

end TrustGate
