import Mathlib.Data.List.Induction
import TrustGate.Proofs.Highlight

/-!
# Answers and the keys behind them

A prompt is answered by its own keys. `Prompt.answers` says what comes of the keys that
a prompt gets, one after another, and no key that another prompt got occurs in it. This
holds although the screen has one focus for all prompts: while a prompt is in the slot,
its own keys say where the focus is once it gets the next one (`Tracks.attends`), and
no other prompt ever has its number.

A dialog leaves the slot with the key that answers it. So that key is the last one it
gets, and it is answered at most once.
-/

namespace TrustGate

/-! ## What a key answers -/

/-- The key answers a dialog. -/
def Key.decides : Key → Bool
  | .enter | .escape | .char 'y' | .char 'n' => true
  | _ => false

theorem Key.decides_iff {key : Key} :
    key.decides = true ↔ key = .enter ∨ key = .escape ∨ key = .char 'y' ∨ key = .char 'n' := by
  unfold decides
  split <;> simp_all

/-- What a key answers on a dialog, after the keys that it got before. -/
def Dialog.answer? (dialog : Dialog) (earlier : List Key) : Key → Option Response
  | .char 'y' => some (dialog.respond .positive)
  | .char 'n' => some (dialog.respond .negative)
  | .escape => some (dialog.respond .cancelled)
  | .enter =>
      some (dialog.respond (if earlier.countP Key.swaps % 2 = 1 then .positive else .negative))
  | _ => none

/-- The place of the button that the enter key presses on a notification, after some keys. -/
def Notification.place (notification : Notification) (earlier : List Key) : Nat :=
  (focusShift earlier % notification.buttons.length).toNat

/-- What a key answers on a notification, after the keys that it got before. -/
def Notification.answer? (notification : Notification) (earlier : List Key) :
    Key → Option Response
  | .enter =>
      notification.buttons[notification.place earlier]?.bind fun button =>
        notification.respond? button.action
  | .char 'o' => notification.respond? .tap
  | _ => none

/-- Where there are no buttons, it does not matter how many places the focus has. -/
theorem Notification.getElem?_place (notification : Notification) (earlier : List Key) :
    notification.buttons[(focusShift earlier %
        (max notification.buttons.length 1 : Nat)).toNat]? =
      notification.buttons[notification.place earlier]? := by
  unfold place
  rcases notification.buttons with _ | ⟨first, others⟩
  · rfl
  · rw [Nat.max_eq_left (by simp)]

def Prompt.answer? : Prompt → List Key → Key → Option Response
  | dialog content => content.answer?
  | notification content => content.answer?

/-- What the keys of a prompt answer one after another, after those that it got before. -/
def Prompt.answers (prompt : Prompt) (earlier : List Key) : List Key → List Response
  | [] => []
  | key :: keys => (prompt.answer? earlier key).toList ++ prompt.answers (earlier ++ [key]) keys

theorem Prompt.answers_concat (prompt : Prompt) (earlier keys : List Key) (key : Key) :
    prompt.answers earlier (keys ++ [key]) =
      prompt.answers earlier keys ++ (prompt.answer? (earlier ++ keys) key).toList := by
  induction keys generalizing earlier with
  | nil => simp [answers]
  | cons first keys ih => simp [answers, ih]

/-- What becomes of a dialog that gets some keys. One that answers it is the last. -/
inductive Dialog.Answered (dialog : Dialog) : List Key → List Response → Prop
  | unanswered {keys : List Key} (undecided : ∀ key ∈ keys, key.decides = false) :
      Answered dialog keys []
  | accepted {earlier : List Key} {key : Key} (undecided : ∀ key ∈ earlier, key.decides = false)
      (accepts : key = .char 'y' ∨ key = .enter ∧ earlier.countP Key.swaps % 2 = 1) :
      Answered dialog (earlier ++ [key]) [⟨some dialog.ssid, .accept, .dialog⟩]
  | rejected {earlier : List Key} {key : Key} (undecided : ∀ key ∈ earlier, key.decides = false)
      (rejects : key = .char 'n' ∨ key = .escape ∨
        key = .enter ∧ earlier.countP Key.swaps % 2 = 0) :
      Answered dialog (earlier ++ [key]) [⟨some dialog.ssid, .reject, .dialog⟩]

section Dialog

variable {dialog : Dialog} {earlier : List Key} {key : Key}

theorem Dialog.answer?_of_undecided (undecided : key.decides = false) :
    dialog.answer? earlier key = none := by
  unfold answer?
  split <;> simp_all [Key.decides]

theorem Dialog.answers_of_undecided {keys : List Key}
    (undecided : ∀ key ∈ keys, key.decides = false) :
    (Prompt.dialog dialog).answers earlier keys = [] := by
  induction keys generalizing earlier with
  | nil => rfl
  | cons key keys ih =>
      obtain ⟨first, later⟩ := List.forall_mem_cons.mp undecided
      rw [Prompt.answers, ih later, Prompt.answer?, answer?_of_undecided first]
      rfl

/-- Only the last key can answer the dialog, so it makes all of what becomes of it. -/
theorem Dialog.answered_concat (undecided : ∀ key ∈ earlier, key.decides = false) :
    dialog.Answered (earlier ++ [key]) ((Prompt.dialog dialog).answers [] (earlier ++ [key])) := by
  have last : (Prompt.dialog dialog).answers [] (earlier ++ [key]) =
      (dialog.answer? earlier key).toList := by
    rw [Prompt.answers_concat, answers_of_undecided undecided]
    rfl
  rw [last]
  cases decides : key.decides with
  | false =>
      rw [answer?_of_undecided decides]
      refine .unanswered fun one mem => ?_
      rcases List.mem_append.mp mem with before | same
      · exact undecided one before
      · rwa [List.mem_singleton.mp same]
  | true =>
      rcases Key.decides_iff.mp decides with rfl | rfl | rfl | rfl
      · rcases Nat.mod_two_eq_zero_or_one (earlier.countP Key.swaps) with even | odd
        · have refuses : dialog.answer? earlier .enter = some (dialog.respond .negative) := by
            simp [answer?, even]
          rw [refuses]
          exact .rejected undecided (.inr (.inr ⟨rfl, even⟩))
        · have accepts : dialog.answer? earlier .enter = some (dialog.respond .positive) := by
            simp [answer?, odd]
          rw [accepts]
          exact .accepted undecided (.inr ⟨rfl, odd⟩)
      · exact .rejected undecided (.inr (.inl rfl))
      · exact .accepted undecided (.inl rfl)
      · exact .rejected undecided (.inl rfl)

theorem Dialog.Answered.rejected_of_enter {keys : List Key} {answers : List Response}
    (answered : dialog.Answered keys answers) (first : keys.head? = some .enter) :
    ∀ response ∈ answers, response.action = .reject := by
  cases answered with
  | unanswered => simp
  | rejected => simp
  | @accepted earlier key undecided accepts =>
      cases earlier with
      | nil => simp_all
      | cons head earlier =>
          obtain rfl : head = .enter := Option.some.inj first
          cases undecided .enter List.mem_cons_self

end Dialog

section Notification

variable {flow : Flow} {helpLink : String} {asDialog : Bool} {notification : Notification}

theorem Flow.Asks.place_lt (asks : flow.Asks helpLink asDialog (.notification notification))
    (earlier : List Key) : notification.place earlier < notification.buttons.length := by
  have filled : 0 < notification.buttons.length := by
    simpa [Prompt.buttons] using Nat.zero_lt_of_lt (asks.place_focusAfter_lt [])
  rw [Notification.place, Int.toNat_lt (Int.emod_nonneg _ (by omega))]
  exact Int.emod_lt_of_pos _ (by omega)

/-- On the notification of a flow the enter key presses a button, and each button answers. -/
theorem Flow.Asks.presses (asks : flow.Asks helpLink asDialog (.notification notification))
    (earlier : List Key) :
    ∃ button response, notification.buttons[notification.place earlier]? = some button ∧
      notification.respond? button.action = some response ∧
      notification.answer? earlier .enter = some response := by
  have pressed := List.getElem?_eq_getElem (asks.place_lt earlier)
  rcases asks.answers _ (List.mem_map_of_mem (List.mem_of_getElem? pressed)) with
    ⟨response, answers⟩
  refine ⟨_, response, pressed, answers, ?_⟩
  rw [Notification.answer?, pressed]
  exact answers

end Notification

/-! ## One key -/

namespace Screen

variable {screen : Screen} {slot : PromptSlot} {handle : PromptHandle} {press : KeyPress}

/-- A key moves the focus of a dialog, chooses or does nothing. -/
theorem dialogKey_eq (positive : Bool) (key : Key) :
    (key.decides = false ∧
        (dialogKey positive key = .moveFocus ∨ dialogKey positive key = .ignore)) ∨
      (key = .enter ∧
        dialogKey positive key = .choose (if positive then .positive else .negative)) ∨
      (key = .escape ∧ dialogKey positive key = .choose .cancelled) ∨
      (key = .char 'y' ∧ dialogKey positive key = .choose .positive) ∨
      (key = .char 'n' ∧ dialogKey positive key = .choose .negative) := by
  unfold dialogKey
  split <;> simp_all [Key.decides]

theorem pressOnDialog_eq {dialog : Dialog} {key : Key} {earlier : List Key}
    (focused : screen.positiveFocused = decide (earlier.countP Key.swaps % 2 = 1)) :
    (screen.pressOnDialog slot handle dialog key).command? =
        (dialog.answer? earlier key).map answerCommand ∧
      (screen.pressOnDialog slot handle dialog key).slot =
        if key.decides then slot.remove handle else slot := by
  have keyed := dialogKey_eq screen.positiveFocused key
  rw [focused] at keyed
  rcases keyed with
    ⟨undecided, pressed | pressed⟩ | ⟨rfl, pressed⟩ | ⟨rfl, pressed⟩ | ⟨rfl, pressed⟩ |
      ⟨rfl, pressed⟩
  · simp [pressOnDialog, focused, pressed, undecided, Dialog.answer?_of_undecided undecided]
  · simp [pressOnDialog, focused, pressed, undecided, Dialog.answer?_of_undecided undecided]
  all_goals simp [pressOnDialog, focused, pressed, Key.decides, Dialog.answer?]

theorem command?_actOnNotification (notification : Notification) (action : NotificationAction) :
    (screen.actOnNotification slot notification action).command? =
      (notification.respond? action).map answerCommand := by
  unfold actOnNotification
  split
  · next responded => rw [responded, Option.map_some]
  · next unanswered => split <;> rw [unanswered, Option.map_none]

theorem command?_pressOnNotification {notification : Notification} {key : Key}
    {earlier : List Key}
    (focused : screen.notificationFocus =
      (focusShift earlier % (max notification.buttons.length 1 : Nat)).toNat) :
    (screen.pressOnNotification slot notification key).command? =
      (notification.answer? earlier key).map answerCommand := by
  unfold pressOnNotification
  rw [focused]
  cases key with
  | enter =>
      simp only [notificationKey, Notification.answer?, notification.getElem?_place]
      cases notification.buttons[notification.place earlier]? with
      | none => rfl
      | some button => exact command?_actOnNotification notification button.action
  | char char =>
      by_cases tap : char = 'o'
      · subst tap
        exact command?_actOnNotification notification .tap
      · simp [notificationKey, Notification.answer?, tap]
  | _ => rfl

/-- The prompt in the slot gets a key, and answers as its own keys say. -/
theorem command?_press {prompt : Prompt} {earlier : List Key} (stays : quits press = false)
    (current : slot.current? = some (handle, prompt))
    (focused : (screen.attend handle).focus = prompt.focusAfter earlier) :
    (screen.press slot press).command? =
      (prompt.answer? earlier press.key).map answerCommand := by
  cases prompt with
  | dialog dialog =>
      simp only [Screen.press, stays, current, Bool.false_eq_true, if_false]
      exact (pressOnDialog_eq (Focus.mk.inj focused).1).1
  | notification notification =>
      simp only [Screen.press, stays, current, Bool.false_eq_true, if_false]
      exact command?_pressOnNotification (Focus.mk.inj focused).2

/-- A dialog that is answered leaves the slot. -/
theorem slot_press_of_dialog {dialog : Dialog} {earlier : List Key} (stays : quits press = false)
    (current : slot.current? = some (handle, .dialog dialog))
    (focused : (screen.attend handle).focus = (Prompt.dialog dialog).focusAfter earlier) :
    (screen.press slot press).slot =
      if press.key.decides then slot.remove handle else slot := by
  simp only [Screen.press, stays, current, Bool.false_eq_true, if_false]
  exact (pressOnDialog_eq (Focus.mk.inj focused).1).2

end Screen

/-! ## Answers of a history -/

/-- The response that a command hands over. -/
def Controller.Command.response? : Controller.Command → Option Response
  | .operate (.respond response) => some response
  | _ => none

@[simp]
theorem Screen.response?_answerCommand (response : Response) :
    (Screen.answerCommand response).response? = some response :=
  rfl

/-- Of two prompts with one number that are on screen one after the other, the second is the
first. -/
theorem PromptSlot.Leads.same {former later : PromptSlot} (leads : former.Leads later)
    (newest : ∀ handle prompt, former.current? = some (handle, prompt) → handle = former.shown)
    {handle : PromptHandle} {prompt next : Prompt}
    (before : former.current? = some (handle, prompt))
    (after : later.current? = some (handle, next)) : next = prompt := by
  rcases leads.current handle next after with same | new
  · exact (Prod.mk.inj (Option.some.inj (same.symm.trans before))).2
  · exact absurd (newest handle prompt before) (Nat.ne_of_gt new)

namespace QueuedSession

namespace Watched

variable {watched : Watched} {handle : PromptHandle} {prompt : Prompt}

/-- What the screen answers for a prompt with a move. -/
def answer? (handle : PromptHandle) (watched : Watched) : Move → Option Response
  | .press press =>
      if watched.slot.current?.map Prod.fst = some handle then
        (watched.screen.press watched.slot press).command?.bind Controller.Command.response?
      else none
  | _ => none

/-- What the screen answers for a prompt while moves follow one another. -/
def answersTo (handle : PromptHandle) : Watched → List Move → List Response
  | _, [] => []
  | watched, move :: moves =>
      (answer? handle watched move).toList ++ answersTo handle (watched.step move) moves

theorem answersTo_concat (handle : PromptHandle) (watched : Watched) (moves : List Move)
    (move : Move) :
    answersTo handle watched (moves ++ [move]) =
      answersTo handle watched moves ++ (answer? handle (watched.run moves) move).toList := by
  induction moves generalizing watched with
  | nil => simp [answersTo, run]
  | cons first moves ih => simp [answersTo, ih, run]

theorem leads_step (watched : Watched) (move : Move) :
    watched.slot.Leads (watched.step move).slot := by
  cases move with
  | press press => exact watched.screen.leads_press watched.slot press
  | tick => exact watched.now.frame_tick.1
  | send command => exact .refl _
  | work => exact watched.now.leads_work

theorem leads_run (watched : Watched) (moves : List Move) :
    watched.slot.Leads (watched.run moves).slot := by
  induction moves generalizing watched with
  | nil => exact .refl _
  | cons move moves ih => exact (watched.leads_step move).trans (ih (watched.step move))

theorem run_append (watched : Watched) (past future : List Move) :
    watched.run (past ++ future) = (watched.run past).run future :=
  List.foldl_append

theorem run_concat (watched : Watched) (moves : List Move) (move : Move) :
    watched.run (moves ++ [move]) = (watched.run moves).step move :=
  watched.run_append moves [move]

/-- With a move, the prompt of some number gets no key and is not answered, or it is in the slot and
gets a key that answers as its own keys say. -/
theorem Tracks.gets (tracks : watched.Tracks) (handle : PromptHandle) (move : Move) :
    (keysOf handle (watched.step move).keys = keysOf handle watched.keys ∧
        answer? handle watched move = none) ∨
      ∃ prompt press, move = .press press ∧ Screen.quits press = false ∧
        watched.slot.current? = some (handle, prompt) ∧
        keysOf handle (watched.step move).keys = keysOf handle watched.keys ++ [press.key] ∧
        answer? handle watched move = prompt.answer? (keysOf handle watched.keys) press.key := by
  cases move with
  | tick | send | work => exact .inl ⟨rfl, rfl⟩
  | press press =>
      simp only [Watched.step, answer?]
      cases keyed : watched.slot.keyed? press with
      | none =>
          refine .inl ⟨by simp, ?_⟩
          by_cases leaves : Screen.quits press = true
          · simp [Screen.press, leaves, Controller.Command.response?]
          · have empty : watched.slot.current? = none := by
              simpa [PromptSlot.keyed?, leaves] using keyed
            simp [empty]
      | some given =>
          rcases given with ⟨shown, prompt, key⟩
          rcases PromptSlot.keyed?_eq_some_iff.mp keyed with ⟨stays, current, same⟩
          dsimp only at current same
          subst same
          by_cases own : shown = handle
          · subst own
            refine .inr ⟨prompt, press, rfl, stays, current, keysOf_concat _ _ _ _, ?_⟩
            rw [Screen.command?_press stays current (tracks.attends current), current]
            cases prompt.answer? (keysOf shown watched.keys) press.key <;> simp
          · refine .inl ⟨by simp [keysOf, own], ?_⟩
            simp [current, own]

/-- The number stands for no other prompt while the moves follow one another. -/
def Names (watched : Watched) (moves : List Move) (handle : PromptHandle) (prompt : Prompt) :
    Prop :=
  ∀ past, past <+: moves → ∀ shown,
    (watched.run past).slot.current? = some (handle, shown) → shown = prompt

theorem Names.prefix {moves : List Move} {move : Move}
    (names : watched.Names (moves ++ [move]) handle prompt) : watched.Names moves handle prompt :=
  fun past part => names past (part.trans (List.prefix_append moves [move]))

/-- What a prompt is answered comes of its own keys. -/
theorem Tracks.answersTo_eq (tracks : watched.Tracks) (unkeyed : keysOf handle watched.keys = [])
    {moves : List Move} (names : watched.Names moves handle prompt) :
    answersTo handle watched moves =
      prompt.answers [] (keysOf handle (watched.run moves).keys) := by
  -- From the end, for an answer comes of all the keys before it.
  induction moves using List.reverseRecOn with
  | nil => simp [answersTo, Watched.run, unkeyed, Prompt.answers]
  | append_singleton moves move ih =>
      rw [answersTo_concat, ih names.prefix, run_concat]
      rcases (tracks.run moves).gets handle move with
        ⟨keys, unanswered⟩ | ⟨shown, press, -, -, current, keys, answer⟩
      · rw [keys, unanswered, Option.toList_none, List.append_nil]
      · obtain rfl := names moves (List.prefix_append moves [move]) shown current
        rw [keys, answer, Prompt.answers_concat, List.nil_append]

/-- Wherever a prompt is shown in a history, its number stands for no other one. -/
theorem Tracks.names (tracks : watched.Tracks) {past : List Move}
    (shown : (watched.run past).slot.current? = some (handle, prompt)) (future : List Move) :
    watched.Names (past ++ future) handle prompt := by
  intro moves part other current
  rcases List.prefix_or_prefix_of_prefix part (List.prefix_append past future) with
    ⟨rest, rfl⟩ | ⟨rest, rfl⟩
  · rw [run_append] at shown
    exact (((watched.run moves).leads_run rest).same (tracks.run moves).newest current shown).symm
  · rw [run_append] at current
    exact ((watched.run past).leads_run rest).same (tracks.run past).newest shown current

/-! ## Dialogs -/

/-- A dialog in the slot has not been answered. -/
def Undecided (watched : Watched) : Prop :=
  ∀ handle dialog, watched.slot.current? = some (handle, .dialog dialog) →
    ∀ key ∈ keysOf handle watched.keys, key.decides = false

theorem Tracks.keysOf_eq_nil_of_new (tracks : watched.Tracks) (new : watched.slot.shown < handle) :
    keysOf handle watched.keys = [] := by
  simp only [keysOf, List.map_eq_nil_iff, List.filter_eq_nil_iff, decide_eq_true_iff]
  rintro key mem rfl
  exact absurd (tracks.past key mem) (Nat.not_le_of_gt new)

theorem Undecided.step (undecided : watched.Undecided) (tracks : watched.Tracks) (move : Move) :
    (watched.step move).Undecided := by
  intro handle dialog current key mem
  rcases (watched.leads_step move).current handle _ current with before | new
  · rcases tracks.gets handle move with ⟨keys, -⟩ | ⟨shown, press, rfl, stays, inSlot, keys, -⟩
    · exact undecided handle dialog before key (keys ▸ mem)
    · cases before.symm.trans inSlot
      rw [keys] at mem
      rcases List.mem_append.mp mem with earlier | last
      · exact undecided handle dialog before key earlier
      · obtain rfl := List.mem_singleton.mp last
        -- A key that answers the dialog would have taken it out.
        by_contra decides
        have slot := Screen.slot_press_of_dialog stays inSlot (tracks.attends inSlot)
        rw [if_pos (by simpa using decides)] at slot
        have taken : (watched.slot.remove handle).current? = some (handle, .dialog dialog) :=
          slot ▸ current
        exact (PromptSlot.current?_of_remove taken).2 rfl
  · rcases tracks.gets handle move with ⟨keys, -⟩ | ⟨shown, press, -, -, inSlot, -⟩
    · rw [keys, tracks.keysOf_eq_nil_of_new new] at mem
      cases mem
    · exact absurd (tracks.newest handle shown inSlot) (Nat.ne_of_gt new)

theorem Undecided.run (undecided : watched.Undecided) (tracks : watched.Tracks)
    (moves : List Move) : (watched.run moves).Undecided := by
  induction moves generalizing watched with
  | nil => exact undecided
  | cons move moves ih => exact ih (undecided.step tracks move) (tracks.step move)

/-- Only the last key that a dialog gets can answer it. -/
theorem Tracks.answered (tracks : watched.Tracks) (undecided : watched.Undecided)
    (unkeyed : keysOf handle watched.keys = []) {dialog : Dialog} {moves : List Move}
    (names : watched.Names moves handle (.dialog dialog)) :
    dialog.Answered (keysOf handle (watched.run moves).keys) (answersTo handle watched moves) := by
  rw [tracks.answersTo_eq unkeyed names]
  induction moves using List.reverseRecOn with
  | nil =>
      have none : keysOf handle (watched.run []).keys = [] := unkeyed
      rw [none]
      exact .unanswered (by simp)
  | append_singleton moves move ih =>
      rw [run_concat]
      rcases (tracks.run moves).gets handle move with
        ⟨keys, -⟩ | ⟨shown, press, -, -, current, keys, -⟩
      · rw [keys]
        exact ih names.prefix
      · obtain rfl := names moves (List.prefix_append moves [move]) shown current
        rw [keys]
        exact Dialog.answered_concat (undecided.run tracks moves handle dialog current)

/-! ## The main statement -/

/-- Let keys, ticks, commands of other clients and the worker follow one another in any way from the
opening of the screen on, and let a prompt be on it after some of them. What it is answered, then or
at any other time, comes of the keys that it gets itself. A dialog is answered by the last of them
or not at all, and never positively by an enter key that is the first. On a notification the enter
key presses the button to which the keys have moved the focus. There always is one, and a step to
the left of it does not go below zero. -/
theorem answered_by_own_keys {first : QueuedSession} (opens : Opens first)
    (past future : List Move) {watched : Watched} (plays : run ⟨first, []⟩ past = watched)
    {handle : PromptHandle} {prompt : Prompt}
    (shown : watched.slot.current? = some (handle, prompt)) :
    let keys := keysOf handle (watched.run future).keys
    let answers := answersTo handle ⟨first, []⟩ (past ++ future)
    answers = prompt.answers [] keys ∧
      (∀ dialog, prompt = .dialog dialog → dialog.Answered keys answers ∧
        (keys.head? = some .enter → ∀ response ∈ answers, response.action = .reject)) ∧
      ∀ notification, prompt = .notification notification →
        (∀ earlier, ∃ button response,
          notification.buttons[notification.place earlier]? = some button ∧
            notification.respond? button.action = some response ∧
            notification.answer? earlier .enter = some response) ∧
        let focus := (watched.screen.attend handle).notificationFocus
        let count := max notification.buttons.length 1
        focus = notification.place (keysOf handle watched.keys) ∧
          focus < notification.buttons.length ∧
          ((focus + count - 1 : Nat) : Int) = focus + notification.buttons.length - 1 := by
  have start : (Watched.mk first []).Tracks := tracks_of_opens opens
  have tracks : watched.Tracks := plays ▸ start.run past
  have aboutFlow : watched.slot.AboutFlow := plays ▸ aboutFlow_run (aboutFlow_of_opens opens) past
  have names := start.names (plays.symm ▸ shown) future
  have undecided : (Watched.mk first []).Undecided := by simp [Undecided, keysOf]
  have whole : run ⟨first, []⟩ (past ++ future) = watched.run future := by
    rw [run_append, plays]
  rcases aboutFlow handle prompt shown with ⟨flow, helpLink, asDialog, asks⟩
  intro keys answers
  refine ⟨?comes, ?dialog, ?notification⟩
  case comes => simpa only [whole] using start.answersTo_eq rfl names
  case dialog =>
    rintro dialog rfl
    have answered : dialog.Answered keys answers := by
      simpa only [whole] using start.answered undecided rfl names
    exact ⟨answered, answered.rejected_of_enter⟩
  case notification =>
    rintro notification rfl
    have inside := asks.place_lt (keysOf handle watched.keys)
    have count : max notification.buttons.length 1 = notification.buttons.length := by omega
    have focused : (watched.screen.attend handle).notificationFocus =
        notification.place (keysOf handle watched.keys) := by
      have index := congrArg Focus.index (tracks.attends shown)
      rwa [Prompt.focusAfter, count] at index
    refine ⟨asks.presses, focused, focused ▸ inside, ?_⟩
    rw [focused, count]
    omega

/-- The focus is moved to the positive button of one dialog, and another one takes its place. -/
def replaced : List Move :=
  focusMoved ++ [.send (.operate (.request true)), .work]

/-- The enter key refuses on the second dialog, whatever the first one got. -/
theorem enter_refuses_after_focus_moved :
    let watched := run ⟨blank, []⟩ replaced
    let enter : List Move := [.press { key := .enter }]
    ∃ dialog, watched.slot.current? = some (2, .dialog dialog) ∧
      keysOf 1 watched.keys = [.right] ∧ keysOf 2 (watched.run enter).keys = [.enter] ∧
      answersTo 2 ⟨blank, []⟩ (replaced ++ enter) = [⟨some dialog.ssid, .reject, .dialog⟩] := by
  intro watched enter
  have shown : watched.slot.current?.map (fun current => (current.1, current.2.isDialog)) =
      some (2, true) := by decide +kernel
  rcases Option.map_eq_some_iff.mp shown with ⟨⟨_, dialog | _⟩, current, kind⟩ <;> cases kind
  have keys : keysOf 2 (watched.run enter).keys = [.enter] := by decide +kernel
  have comes := (answered_by_own_keys ⟨rfl, rfl⟩ replaced enter rfl current).1
  refine ⟨dialog, current, by decide +kernel, keys, ?_⟩
  rw [comes, keys]
  rfl

end Watched

end QueuedSession

end TrustGate
