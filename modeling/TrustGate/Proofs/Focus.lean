import TrustGate.Proofs.Session

/-!
# The focus and the keys behind it

A screen has one focus for all prompts, and lets it start anew with the first key
that another prompt gets. So where it stands follows from the keys of one prompt,
the last one that got any: `Prompt.focusAfter` counts them.

This holds whatever goes on around the screen. Ticks come, the worker takes
commands at any time, and commands come from other clients too, so that the prompt
in the slot may change between any two keys. But each prompt gets a number of its
own, and only the newest one is ever in the slot.
-/

namespace TrustGate

/-! ## Keys of a prompt -/

/-- A key that a prompt gets. -/
structure PromptKey where
  handle : PromptHandle
  prompt : Prompt
  key : Key
deriving Repr, DecidableEq

/-- The key that the prompt in the slot gets with a key press. One that leaves the screen is for no
prompt. -/
def PromptSlot.keyed? (slot : PromptSlot) (press : KeyPress) : Option PromptKey :=
  if Screen.quits press then none
  else slot.current?.map fun (handle, prompt) => ⟨handle, prompt, press.key⟩

/-- The keys that one prompt got. -/
def keysOf (handle : PromptHandle) (keys : List PromptKey) : List Key :=
  (keys.filter (·.handle = handle)).map PromptKey.key

/-- The key moves the focus from one button of a dialog to the other. -/
def Key.swaps : Key → Bool
  | .left | .right | .tab | .char 'h' | .char 'l' => true
  | _ => false

/-- The key moves the focus to the next button of a notification. -/
def Key.advances : Key → Bool
  | .right | .tab => true
  | _ => false

/-- The focus of a screen: for dialogs, whether it is on the positive button, and for notifications
the button that has it. -/
structure Focus where
  positive : Bool := false
  index : Nat := 0
deriving Repr, DecidableEq

def Screen.focus (screen : Screen) : Focus :=
  ⟨screen.positiveFocused, screen.notificationFocus⟩

/-- How far keys move the focus of a notification, to the right if positive. -/
def focusShift (keys : List Key) : Int :=
  keys.countP Key.advances - keys.countP (· = .left)

/-- Where the keys of a prompt leave the focus. -/
def Prompt.focusAfter (keys : List Key) : Prompt → Focus
  | dialog _ => { positive := keys.countP Key.swaps % 2 = 1 }
  | notification content =>
      { index := (focusShift keys % (max content.buttons.length 1 : Nat)).toNat }

@[simp]
theorem Prompt.focusAfter_nil (prompt : Prompt) : prompt.focusAfter [] = {} := by
  cases prompt <;> rfl

theorem keysOf_concat (handle : PromptHandle) (prompt : Prompt) (key : Key)
    (keys : List PromptKey) :
    keysOf handle (keys ++ [⟨handle, prompt, key⟩]) = keysOf handle keys ++ [key] := by
  simp [keysOf]

theorem PromptSlot.keyed?_eq_some_iff {slot : PromptSlot} {press : KeyPress} {key : PromptKey} :
    slot.keyed? press = some key ↔
      Screen.quits press = false ∧ slot.current? = some (key.handle, key.prompt) ∧
        key.key = press.key := by
  rcases key with ⟨handle, prompt, key⟩
  cases quits : Screen.quits press with
  | true => simp [keyed?, quits]
  | false =>
      simp only [keyed?, quits, Bool.false_eq_true, if_false, Option.map_eq_some_iff,
        PromptKey.mk.injEq, true_and]
      constructor
      · rintro ⟨_, current, rfl, rfl, rfl⟩
        exact ⟨current, rfl⟩
      · rintro ⟨current, rfl⟩
        exact ⟨_, current, rfl, rfl, rfl⟩

/-! ## One key -/

section Counting

variable (keys : List Key) (key : Key)

theorem odd_swaps_concat :
    decide ((keys ++ [key]).countP Key.swaps % 2 = 1) =
      (decide (keys.countP Key.swaps % 2 = 1) ^^ key.swaps) := by
  rw [List.countP_append, List.countP_singleton]
  cases key.swaps with
  | false => simp
  | true =>
      simp only [if_true, Bool.xor_true, ← decide_not, decide_eq_decide]
      omega

theorem focusShift_concat :
    focusShift (keys ++ [key]) =
      focusShift keys + if key = .left then -1 else if key.advances then 1 else 0 := by
  simp only [focusShift, List.countP_append, List.countP_singleton, decide_eq_true_iff]
  by_cases left : key = .left
  · subst left
    have stays : Key.advances .left = false := rfl
    simp only [stays, Bool.false_eq_true, if_false, if_true]
    omega
  · simp only [left, if_false]
    split <;> omega

/-- Steps to the right around some places. -/
theorem toNat_emod_add {count : Nat} (places : 0 < count) (position : Int) (steps : Nat) :
    ((position % count).toNat + steps) % count = ((position + steps) % count).toNat := by
  have inside (x : Int) : ((x % count).toNat : Int) = x % count :=
    Int.toNat_of_nonneg (Int.emod_nonneg x (by omega))
  apply Int.ofNat_inj.mp
  rw [inside, Int.natCast_emod, Int.natCast_add, inside, Int.emod_add_emod]

theorem place_concat {count : Nat} (places : 0 < count) :
    (focusShift (keys ++ [key]) % count).toNat =
      if key = .left then ((focusShift keys % count).toNat + count - 1) % count
      else if key.advances then ((focusShift keys % count).toNat + 1) % count
      else (focusShift keys % count).toNat := by
  rw [focusShift_concat]
  split
  · rw [Nat.add_sub_assoc places, toNat_emod_add places, ← Int.add_emod_right]
    congr 2
    omega
  · split
    · exact (toNat_emod_add places (focusShift keys) 1).symm
    · rw [Int.add_zero]

end Counting

namespace Screen

variable {screen : Screen} {slot : PromptSlot} {handle : PromptHandle}

theorem dialogKey_eq_moveFocus_iff {positive : Bool} {key : Key} :
    dialogKey positive key = .moveFocus ↔ key.swaps = true := by
  unfold dialogKey Key.swaps
  split <;> simp_all

theorem focus_pressOnDialog (dialog : Dialog) (key : Key) :
    (screen.pressOnDialog slot handle dialog key).screen.focus =
      ⟨screen.positiveFocused ^^ key.swaps, screen.notificationFocus⟩ := by
  have swaps := @dialogKey_eq_moveFocus_iff screen.positiveFocused key
  unfold pressOnDialog
  cases pressed : dialogKey screen.positiveFocused key with
  | moveFocus => simp [focus, swaps.mp pressed]
  | choose | ignore =>
      have stays : key.swaps = false := by simpa [pressed] using swaps
      simp [focus, stays]

theorem notificationKey_eq (buttons : List NotificationButton) (index : Nat) (key : Key) :
    let count := max buttons.length 1
    (key = .left ∧
        notificationKey buttons index key = .focus ((index + count - 1) % count)) ∨
      (key ≠ .left ∧ key.advances = true ∧
        notificationKey buttons index key = .focus ((index + 1) % count)) ∨
      (key ≠ .left ∧ key.advances = false ∧
        ∀ next, notificationKey buttons index key ≠ .focus next) := by
  cases key with
  | enter =>
      simp only [notificationKey]
      split <;> simp [Key.advances]
  | char char => by_cases tap : char = 'o' <;> simp [notificationKey, Key.advances, tap]
  | _ => simp [notificationKey, Key.advances]

@[simp]
theorem focus_actOnNotification (notification : Notification) (action : NotificationAction) :
    (screen.actOnNotification slot notification action).screen.focus = screen.focus := by
  unfold actOnNotification
  split
  · rfl
  · split <;> rfl

theorem focus_pressOnNotification (notification : Notification) (key : Key) :
    (screen.pressOnNotification slot notification key).screen.focus =
      ⟨screen.positiveFocused,
        if key = .left then
          (screen.notificationFocus + max notification.buttons.length 1 - 1) %
            max notification.buttons.length 1
        else if key.advances then
          (screen.notificationFocus + 1) % max notification.buttons.length 1
        else screen.notificationFocus⟩ := by
  unfold pressOnNotification
  rcases notificationKey_eq notification.buttons screen.notificationFocus key with
    ⟨left, pressed⟩ | ⟨other, advances, pressed⟩ | ⟨other, stays, unmoved⟩
  · rw [pressed, if_pos left]
    rfl
  · rw [pressed, if_neg other, if_pos advances]
    rfl
  · rw [if_neg other, if_neg (by simp [stays])]
    split
    · next moves => exact absurd moves (unmoved _)
    · exact focus_actOnNotification notification _
    · rfl

/-- The focus of the prompt in the slot counts one key more when the key is pressed. -/
theorem focus_press {prompt : Prompt} {press : KeyPress} {keys : List Key}
    (stays : quits press = false) (current : slot.current? = some (handle, prompt))
    (focused : (screen.attend handle).focus = prompt.focusAfter keys) :
    (screen.press slot press).screen.focus = prompt.focusAfter (keys ++ [press.key]) := by
  cases prompt with
  | dialog dialog =>
      rcases Focus.mk.inj focused with ⟨positive, index⟩
      simp only [Screen.press, stays, current, Bool.false_eq_true, if_false, focus_pressOnDialog,
        positive, index, Prompt.focusAfter, odd_swaps_concat]
  | notification notification =>
      rcases Focus.mk.inj focused with ⟨positive, index⟩
      have places : 0 < max notification.buttons.length 1 := by omega
      simp only [Screen.press, stays, current, Bool.false_eq_true, if_false,
        focus_pressOnNotification, positive, index, Prompt.focusAfter, place_concat _ _ places]

@[simp]
theorem focus_attend_of_focused (focused : screen.focusedPrompt? = some handle) :
    (screen.attend handle).focus = screen.focus := by
  rw [attend, if_pos focused]

@[simp]
theorem focus_attend_of_unfocused (unfocused : screen.focusedPrompt? ≠ some handle) :
    (screen.attend handle).focus = {} := by
  rw [attend, if_neg unfocused]
  rfl

theorem focusedPrompt?_press {prompt : Prompt} {press : KeyPress} (stays : quits press = false)
    (current : slot.current? = some (handle, prompt)) :
    (screen.press slot press).screen.focusedPrompt? = some handle := by
  have attends : (screen.attend handle).focusedPrompt? = some handle := by
    unfold attend
    split
    · next focused => exact focused
    · rfl
  cases prompt with
  | dialog dialog =>
      simp only [Screen.press, stays, current, Bool.false_eq_true, if_false, pressOnDialog]
      split <;> exact attends
  | notification notification =>
      simp only [Screen.press, stays, current, Bool.false_eq_true, if_false, pressOnNotification]
      split
      · exact attends
      · simp only [actOnNotification]
        split
        · exact attends
        · split <;> exact attends
      · exact attends

/-- A key that no prompt gets leaves the focus alone. -/
theorem frame_press {press : KeyPress} (unkeyed : slot.keyed? press = none) :
    (screen.press slot press).screen.focus = screen.focus ∧
      (screen.press slot press).screen.focusedPrompt? = screen.focusedPrompt? := by
  unfold Screen.press
  split
  · exact ⟨rfl, rfl⟩
  · next stays =>
      have empty : slot.current? = none := by simpa [PromptSlot.keyed?, stays] using unkeyed
      simp [empty]

end Screen

/-! ## The slot over time -/

namespace PromptSlot

/-- What a slot can come to: it shows what it shows, or nothing, or a prompt with a new number. -/
structure Leads (former later : PromptSlot) : Prop where
  shown : former.shown ≤ later.shown
  current : ∀ handle prompt, later.current? = some (handle, prompt) →
    former.current? = some (handle, prompt) ∨ former.shown < handle
  /-- The prompt in the slot is still the newest one, if it was. -/
  newest : (∀ handle prompt, former.current? = some (handle, prompt) → handle = former.shown) →
    ∀ handle prompt, later.current? = some (handle, prompt) → handle = later.shown

theorem Leads.refl (slot : PromptSlot) : slot.Leads slot :=
  ⟨Nat.le_refl _, fun _ _ => .inl, id⟩

theorem Leads.trans {former slot later : PromptSlot} (first : former.Leads slot)
    (second : slot.Leads later) : former.Leads later where
  shown := Nat.le_trans first.shown second.shown
  current handle prompt current := by
    rcases second.current handle prompt current with between | new
    · exact first.current handle prompt between
    · exact .inr (Nat.lt_of_le_of_lt first.shown new)
  newest newest := second.newest (first.newest newest)

theorem leads_present (slot : PromptSlot) (prompt : Prompt) :
    slot.Leads (slot.present prompt).2 where
  shown := Nat.le_succ _
  current := by
    rintro handle shown ⟨⟩
    exact .inr (Nat.lt_succ_self _)
  newest := by
    rintro - handle shown ⟨⟩
    rfl

theorem leads_remove (slot : PromptSlot) (handle : PromptHandle) :
    slot.Leads (slot.remove handle) := by
  unfold remove
  split
  · exact ⟨Nat.le_refl _, by simp, by simp⟩
  · exact .refl slot

end PromptSlot

theorem Screen.leads_press (screen : Screen) (slot : PromptSlot) (press : KeyPress) :
    slot.Leads (screen.press slot press).slot := by
  have presses := screen.presses_press slot press
  generalize screen.press slot press = effect at presses
  cases presses with
  | leaves | stays => exact .refl slot
  | @answers _ _ handle _ _ _ _ _ _ taken =>
      rcases taken with rfl | rfl
      · exact .refl _
      · exact PromptSlot.leads_remove slot handle

theorem Surroundings.leads_reply (call : GateCall) (surroundings : Surroundings) :
    surroundings.slot.Leads (reply call surroundings).2.slot := by
  have replies := replies_reply call surroundings
  generalize (reply call surroundings).2 = later at replies ⊢
  cases replies with
  | trust | session | credentials | report => exact .refl _
  | update same => exact same ▸ .refl _
  | present prompt => exact PromptSlot.leads_present _ prompt
  | dismiss handle => exact PromptSlot.leads_remove _ handle

theorem Surroundings.leads_of_answered {surroundings later : Surroundings}
    {transcript : Gate.Transcript}
    (answered : Exchange.Answered reply surroundings transcript later) :
    surroundings.slot.Leads later.slot := by
  induction transcript generalizing surroundings with
  | nil =>
      cases answered
      exact .refl _
  | cons event rest ih =>
      rcases event with ⟨call, answer⟩
      rcases answered with ⟨rfl, answered⟩
      exact (leads_reply call surroundings).trans (ih answered)

/-! ## Histories of a screen -/

namespace QueuedSession

/-- What can happen around a screen. -/
inductive Move
  | press (press : KeyPress)
  | tick
  /-- Another client sends a command, which waits in the queue. -/
  | send (command : Controller.Command)
  | work
deriving Repr, DecidableEq

/-- A session with a record of the keys that prompts got. -/
structure Watched where
  now : QueuedSession
  keys : List PromptKey := []

namespace Watched

def screen (watched : Watched) : Screen :=
  watched.now.session.screen

/-- The slot that the screen shares with the controller. -/
def slot (watched : Watched) : PromptSlot :=
  watched.now.session.surroundings.slot

def step (watched : Watched) : Move → Watched
  | .press press =>
      ⟨watched.now.press press, watched.keys ++ (watched.slot.keyed? press).toList⟩
  | .tick => { watched with now := watched.now.tick }
  | .send command =>
      { watched with now := { watched.now with queue := watched.now.queue ++ [command] } }
  | .work => { watched with now := watched.now.work }

def run (watched : Watched) (moves : List Move) : Watched :=
  moves.foldl step watched

/-- What the keys so far say about the focus, and about the prompt in the slot. -/
structure Tracks (watched : Watched) : Prop where
  newest : ∀ handle prompt,
    watched.slot.current? = some (handle, prompt) → handle = watched.slot.shown
  past : ∀ key ∈ watched.keys, key.handle ≤ watched.slot.shown
  same : ∀ key ∈ watched.keys, ∀ prompt,
    watched.slot.current? = some (key.handle, prompt) → key.prompt = prompt
  unfocused : watched.keys = [] →
    watched.screen.focusedPrompt? = none ∧ watched.screen.focus = {}
  focused : ∀ last, watched.keys.getLast? = some last →
    watched.screen.focusedPrompt? = some last.handle ∧
      watched.screen.focus = last.prompt.focusAfter (keysOf last.handle watched.keys) ∧
      ∀ key ∈ watched.keys, key.handle ≤ last.handle

variable {watched : Watched} {handle : PromptHandle} {prompt : Prompt}

/-- Only the newest prompt can get keys, so an older one than the last that did gets none again. -/
theorem Tracks.keysOf_eq_nil (tracks : watched.Tracks) {last : PromptKey}
    (latest : watched.keys.getLast? = some last)
    (current : watched.slot.current? = some (handle, prompt)) (other : last.handle ≠ handle) :
    keysOf handle watched.keys = [] := by
  have bounded := (tracks.focused last latest).2.2
  -- The prompt in the slot is the newest, and it is not the last that got a key: it got none.
  have old : last.handle ≤ handle :=
    tracks.newest handle prompt current ▸ tracks.past last (List.mem_of_getLast? latest)
  simp only [keysOf, List.map_eq_nil_iff, List.filter_eq_nil_iff, decide_eq_true_iff]
  intro key mem same
  exact other (Nat.le_antisymm old (same ▸ bounded key mem))

/-- Once it gets a key, the prompt in the slot has the focus where its own keys leave it. -/
theorem Tracks.attends (tracks : watched.Tracks)
    (current : watched.slot.current? = some (handle, prompt)) :
    (watched.screen.attend handle).focus = prompt.focusAfter (keysOf handle watched.keys) := by
  rcases latest : watched.keys.getLast? with _ | last
  · have unkeyed : watched.keys = [] := List.getLast?_eq_none_iff.mp latest
    have unfocused := (tracks.unfocused unkeyed).1
    rw [Screen.focus_attend_of_unfocused (by simp [unfocused]), unkeyed]
    exact (Prompt.focusAfter_nil prompt).symm
  · rcases tracks.focused last latest with ⟨focused, focus, _⟩
    by_cases same : last.handle = handle
    · subst same
      rw [Screen.focus_attend_of_focused focused, focus,
        tracks.same last (List.mem_of_getLast? latest) prompt current]
    · rw [Screen.focus_attend_of_unfocused (by simpa [focused] using same),
        tracks.keysOf_eq_nil latest current same, Prompt.focusAfter_nil]

/-- The focus is tracked as long as no prompt gets a key, whatever becomes of the slot. -/
theorem Tracks.frame (tracks : watched.Tracks) {later : Watched} (keys : later.keys = watched.keys)
    (leads : watched.slot.Leads later.slot)
    (frame : later.screen.focus = watched.screen.focus ∧
      later.screen.focusedPrompt? = watched.screen.focusedPrompt?) : later.Tracks where
  newest := leads.newest tracks.newest
  past key mem := Nat.le_trans (tracks.past key (keys ▸ mem)) leads.shown
  same key mem prompt current := by
    rw [keys] at mem
    rcases leads.current key.handle prompt current with before | new
    · exact tracks.same key mem prompt before
    · exact absurd (tracks.past key mem) (Nat.not_le_of_gt new)
  unfocused := by
    rw [keys, frame.1, frame.2]
    exact tracks.unfocused
  focused := by
    rw [keys, frame.1, frame.2]
    exact tracks.focused

/-- The prompt in the slot gets a key. -/
theorem Tracks.press (tracks : watched.Tracks) {press : KeyPress}
    (stays : Screen.quits press = false)
    (current : watched.slot.current? = some (handle, prompt)) :
    (Watched.mk (watched.now.press press)
      (watched.keys ++ [⟨handle, prompt, press.key⟩])).Tracks := by
  have leads := watched.screen.leads_press watched.slot press
  have newest : handle = watched.slot.shown := tracks.newest handle prompt current
  have focus := Screen.focus_press stays current (tracks.attends current)
  exact {
    newest := leads.newest tracks.newest
    past := by
      intro key mem
      rcases List.mem_append.mp mem with before | last
      · exact Nat.le_trans (tracks.past key before) leads.shown
      · rw [List.mem_singleton.mp last]
        exact newest ▸ leads.shown
    same := by
      intro key mem other later
      -- A key can take the prompt out of the slot, but puts no other into it.
      rcases leads.current key.handle other later with former | new
      · rcases List.mem_append.mp mem with before | last
        · exact tracks.same key before other former
        · cases List.mem_singleton.mp last
          cases current.symm.trans former
          rfl
      · refine absurd ?_ (Nat.not_le_of_gt new)
        rcases List.mem_append.mp mem with before | last
        · exact tracks.past key before
        · rw [List.mem_singleton.mp last]
          exact Nat.le_of_eq newest
    unfocused := by simp
    focused := by
      intro last latest
      cases Option.some.inj (List.getLast?_concat.symm.trans latest)
      refine ⟨Screen.focusedPrompt?_press stays current, ?_, ?_⟩
      · rw [keysOf_concat]
        exact focus
      · intro key mem
        rcases List.mem_append.mp mem with before | last
        · exact newest ▸ tracks.past key before
        · exact Nat.le_of_eq (congrArg PromptKey.handle (List.mem_singleton.mp last)) }

end Watched

/-! ### The worker and ticks -/

theorem leads_work (now : QueuedSession) :
    now.session.surroundings.slot.Leads now.work.session.surroundings.slot := by
  cases queue : now.queue with
  | nil =>
      rw [work_of_idle queue]
      exact .refl _
  | cons command rest =>
      rw [work_of_queued queue]
      exact Surroundings.leads_of_answered (now.session.answered_send command)

theorem leads_settle (now : QueuedSession) :
    now.session.surroundings.slot.Leads now.settle.session.surroundings.slot :=
  settle_induction
    (motive := fun later =>
      now.session.surroundings.slot.Leads later.session.surroundings.slot)
    (fun later leads => leads.trans later.leads_work) (.refl _)

theorem frame_tick (now : QueuedSession) :
    now.session.surroundings.slot.Leads now.tick.session.surroundings.slot ∧
      now.tick.session.screen.focus = now.session.screen.focus ∧
      now.tick.session.screen.focusedPrompt? = now.session.screen.focusedPrompt? := by
  have leads := now.leads_settle
  have screen := (frame_settle now).1
  have ticks := now.settle.session.ticks_tick
  simp only [QueuedSession.tick]
  generalize now.settle.session.tick = step at ticks
  cases ticks with
  | goesOn | ends =>
      rw [← screen]
      exact ⟨leads, rfl, rfl⟩

namespace Watched

variable {watched : Watched}

theorem Tracks.step (tracks : watched.Tracks) (move : Move) : (watched.step move).Tracks := by
  cases move with
  | press press =>
      simp only [Watched.step]
      cases keyed : watched.slot.keyed? press with
      | none =>
          refine tracks.frame (List.append_nil _) ?_ (Screen.frame_press keyed)
          exact watched.screen.leads_press watched.slot press
      | some key =>
          rcases key with ⟨handle, prompt, key⟩
          rcases PromptSlot.keyed?_eq_some_iff.mp keyed with ⟨stays, current, rfl⟩
          exact tracks.press stays current
  | tick => exact tracks.frame rfl watched.now.frame_tick.1 watched.now.frame_tick.2
  | send command => exact tracks.frame rfl (.refl _) ⟨rfl, rfl⟩
  | work =>
      refine tracks.frame rfl watched.now.leads_work ?_
      simp [Watched.step, Watched.screen]

theorem Tracks.run (tracks : watched.Tracks) (moves : List Move) : (watched.run moves).Tracks := by
  induction moves generalizing watched with
  | nil => exact tracks
  | cons move moves ih => exact ih (tracks.step move)

/-- A screen that has just been opened, before the first prompt. -/
structure Opens (now : QueuedSession) : Prop where
  screen : now.session.screen = {}
  slot : now.session.surroundings.slot = {}

theorem tracks_of_opens {now : QueuedSession} (opens : Opens now) : (Watched.mk now []).Tracks where
  newest := by simp [Watched.slot, opens.slot]
  past := by simp
  same := by simp
  unfocused _ := by simp [Watched.screen, opens.screen, Screen.focus]
  focused := by simp

end Watched

end QueuedSession

end TrustGate
