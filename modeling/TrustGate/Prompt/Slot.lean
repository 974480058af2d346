import TrustGate.Prompt.Basic

/-!
# The prompt on screen

At most one prompt is on screen, and every prompt that is shown gets the next
number. Whoever takes a prompt away names its number, so that a prompt that
has taken its place stays.
-/

namespace TrustGate

/-- The number of a prompt. Numbers have 64 bits; a slot counts up from 1, and no run shows so many
prompts that this would overflow. -/
abbrev PromptHandle := Nat

structure PromptSlot where
  current? : Option (PromptHandle × Prompt) := none
  /-- How many prompts have been shown. -/
  shown : Nat := 0
deriving Repr, DecidableEq

namespace PromptSlot

/-- Shows a prompt in place of the one on screen and returns its number. -/
def present (slot : PromptSlot) (prompt : Prompt) : PromptHandle × PromptSlot :=
  let handle := slot.shown + 1
  (handle, ⟨some (handle, prompt), handle⟩)

/-- Takes a prompt away, if it is still on screen. -/
def remove (slot : PromptSlot) (handle : PromptHandle) : PromptSlot :=
  if slot.current?.map (·.1) = some handle then { slot with current? := none } else slot

end PromptSlot

end TrustGate
