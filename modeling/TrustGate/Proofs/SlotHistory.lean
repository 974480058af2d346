import TrustGate.Prompt.Slot

/-!
# A slot and all who hold it

A slot is shared. Surfaces show prompts in it and dismiss them, and whoever draws
the slot takes out the prompt that was answered. Each of them locks the slot for
a call, so the calls of all holders come one after another, in any order, and a
call may name any number.

What comes of them is read off the calls alone. The shows count the numbers up,
whoever makes them. The last prompt that was shown is in the slot until a later
call names its number.
-/

namespace TrustGate

inductive SlotCall
  | present (prompt : Prompt)
  | dismiss (handle : PromptHandle)
  | takeAnswered (handle : PromptHandle)
deriving Repr, DecidableEq

def SlotCall.isShow : SlotCall → Bool
  | present _ => true
  | _ => false

/-- Whether the call is to take the prompt of a number away. -/
def SlotCall.names (handle : PromptHandle) : SlotCall → Bool
  | present _ => false
  | dismiss taken | takeAnswered taken => taken = handle

/-- A call, with the one of the holders of the slot that makes it. -/
structure SlotEvent (Holder : Type) where
  holder : Holder
  call : SlotCall

namespace PromptSlot

variable {Holder : Type}

def shows (events : List (SlotEvent Holder)) : Nat :=
  events.countP (·.call.isShow)

/-- The reply to a call, which is the number of the prompt that it shows, and the slot after it. -/
def reply (slot : PromptSlot) : SlotCall → Option PromptHandle × PromptSlot
  | .present prompt =>
      let (handle, slot) := slot.present prompt
      (some handle, slot)
  | .dismiss handle | .takeAnswered handle => (none, slot.remove handle)

def replies (slot : PromptSlot) : List (SlotEvent Holder) → List (Holder × Option PromptHandle)
  | [] => []
  | event :: events =>
      let (reply, next) := slot.reply event.call
      (event.holder, reply) :: next.replies events

def after (slot : PromptSlot) : List (SlotEvent Holder) → PromptSlot
  | [] => slot
  | event :: events => (slot.reply event.call).2.after events

variable {slot : PromptSlot} {handle : PromptHandle} {prompt : Prompt}

theorem after_append (slot : PromptSlot) (front rest : List (SlotEvent Holder)) :
    slot.after (front ++ rest) = (slot.after front).after rest := by
  induction front generalizing slot with
  | nil => rfl
  | cons event front ih => exact ih _

theorem replies_append (slot : PromptSlot) (front rest : List (SlotEvent Holder)) :
    slot.replies (front ++ rest) = slot.replies front ++ (slot.after front).replies rest := by
  induction front generalizing slot with
  | nil => rfl
  | cons event front ih => simp only [replies, List.cons_append, ih, after]

theorem length_replies (slot : PromptSlot) (events : List (SlotEvent Holder)) :
    (slot.replies events).length = events.length := by
  induction events generalizing slot with
  | nil => rfl
  | cons event events ih => simp only [replies, List.length_cons, ih]

/-! ## The numbers -/

@[simp]
theorem shown_remove (slot : PromptSlot) (handle : PromptHandle) :
    (slot.remove handle).shown = slot.shown := by
  unfold remove
  split <;> rfl

theorem shown_reply (slot : PromptSlot) (call : SlotCall) :
    (slot.reply call).2.shown = slot.shown + if call.isShow then 1 else 0 := by
  cases call with
  | present prompt => rfl
  | dismiss | takeAnswered => simp [reply, SlotCall.isShow]

theorem shown_after (slot : PromptSlot) (events : List (SlotEvent Holder)) :
    (slot.after events).shown = slot.shown + shows events := by
  induction events generalizing slot with
  | nil => rfl
  | cons event events ih =>
      rw [after, ih, shown_reply, shows, shows, List.countP_cons]
      omega

/-! ## The prompt in the slot -/

theorem current?_remove (current : slot.current? = some (handle, prompt)) (taken : PromptHandle) :
    (slot.remove taken).current? = if taken = handle then none else some (handle, prompt) := by
  by_cases own : taken = handle
  · simp [remove, current, own]
  · simp [remove, current, own, Ne.symm own]

theorem current?_reply {call : SlotCall} (removal : call.isShow = false)
    (current : slot.current? = some (handle, prompt)) :
    (slot.reply call).2.current? =
      if call.names handle then none else some (handle, prompt) := by
  cases call with
  | present => cases removal
  | dismiss taken | takeAnswered taken => simp [reply, SlotCall.names, current?_remove current]

theorem current?_reply_of_none {call : SlotCall} (removal : call.isShow = false)
    (empty : slot.current? = none) : (slot.reply call).2.current? = none := by
  cases call with
  | present => cases removal
  | dismiss | takeAnswered => simp [reply, remove, empty]

section Removals

variable {events : List (SlotEvent Holder)}

theorem current?_after_of_none (removals : ∀ event ∈ events, event.call.isShow = false)
    (empty : slot.current? = none) : (slot.after events).current? = none := by
  induction events generalizing slot with
  | nil => exact empty
  | cons event events ih =>
      obtain ⟨removal, removals⟩ := List.forall_mem_cons.mp removals
      exact ih removals (current?_reply_of_none removal empty)

/-- A prompt stands until its number is named, as long as no other one is shown. -/
theorem current?_after (removals : ∀ event ∈ events, event.call.isShow = false)
    (current : slot.current? = some (handle, prompt)) :
    (slot.after events).current? =
      if events.any (·.call.names handle) then none else some (handle, prompt) := by
  induction events generalizing slot with
  | nil => exact current
  | cons event events ih =>
      obtain ⟨removal, removals⟩ := List.forall_mem_cons.mp removals
      have next := current?_reply removal current
      rw [after, List.any_cons]
      cases named : event.call.names handle with
      | true =>
          rw [named, if_pos rfl] at next
          rw [Bool.true_or, if_pos rfl]
          exact current?_after_of_none removals next
      | false =>
          rw [named, if_neg Bool.false_ne_true] at next
          rw [Bool.false_or]
          exact ih removals next

end Removals

/-- From an empty slot on, whoever calls in whatever order and with whatever numbers: a show gets
the number that it has among the shows. If no prompt was shown, the slot is empty. The last prompt
that was shown is in it with its number, if no call after that names this number, and else it is
empty. -/
theorem last_shown_stands_until_named (events : List (SlotEvent Holder)) :
    (∀ front holder prompt rest, events = front ++ ⟨holder, .present prompt⟩ :: rest →
      (replies {} events)[front.length]? = some (holder, some (shows front + 1))) ∧
    ((∀ event ∈ events, event.call.isShow = false) → (after {} events).current? = none) ∧
    ∀ front holder prompt rest, events = front ++ ⟨holder, .present prompt⟩ :: rest →
      (∀ event ∈ rest, event.call.isShow = false) →
        (after {} events).current? =
          if rest.any (·.call.names (shows front + 1)) then none
          else some (shows front + 1, prompt) := by
  have counted (front : List (SlotEvent Holder)) : (after {} front).shown = shows front := by
    rw [shown_after, Nat.zero_add]
  refine ⟨?numbers, ?unshown, ?last⟩
  case numbers =>
    rintro front holder prompt rest rfl
    have before : (replies {} front).length = front.length := length_replies {} front
    rw [replies_append, List.getElem?_append_right (Nat.le_of_eq before), before, Nat.sub_self,
      ← counted front]
    rfl
  case unshown =>
    intro removals
    exact current?_after_of_none removals rfl
  case last =>
    -- The show makes its prompt current, whatever came before, and the rest only takes away.
    rintro front holder prompt rest rfl removals
    rw [after_append, after]
    apply current?_after removals
    rw [← counted front]
    rfl

/-- Two surfaces and two copies of the slot. -/
inductive ExampleHolder
  | surface (first : Bool)
  | copy (first : Bool)

/-- Each surface shows a prompt. The first surface dismisses its own, which the other one has
replaced, and the copies take away the same one and one that is not there yet. -/
def crossedCalls : List (SlotEvent ExampleHolder) := [
  ⟨.surface true, .present (.notification (tofuNotification "corp"))⟩,
  ⟨.surface false, .present (.notification (tofuNotification "lab"))⟩,
  ⟨.surface true, .dismiss 1⟩,
  ⟨.copy true, .takeAnswered 1⟩,
  ⟨.copy false, .takeAnswered 3⟩]

theorem newer_prompt_stands :
    (replies {} crossedCalls)[1]? = some (.surface false, some 2) ∧
      (after {} crossedCalls).current? =
        some (2, .notification (tofuNotification "lab")) := by
  rcases last_shown_stands_until_named crossedCalls with ⟨numbers, -, last⟩
  refine ⟨numbers [_] _ _ _ rfl, ?_⟩
  apply last [_] _ _ _ rfl
  simp [SlotCall.isShow]

end PromptSlot

end TrustGate
