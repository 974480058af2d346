import TrustGate.Gate.Basic
import TrustGate.Supplicant.StandIn

/-!
# What surrounds a gate

A store with its folder, a supplicant, the prompt on screen and the outcomes
that nobody has taken up yet. `reply` answers the calls of a gate from them.

Without a store every change counts as done, and a setting tells whether there
is trust; without a supplicant every reset counts as done. Kinds of calls can
be made to fail: a change of the store is then not tried at all, while a reset
is made and then counts as failed.
-/

namespace TrustGate

inductive FallibleCall
  | setApproved
  | pin
  | setTofu
  | setAutoConnect
  | invalidateSession
  | forgetCredentials
deriving Repr, DecidableEq

/-- The kind of a change, if it can be made to fail. -/
def FallibleCall.ofChange? : Store.Change → Option FallibleCall
  | .reset => none
  | .setApproved _ => some .setApproved
  | .pin _ => some .pin
  | .setTofu _ => some .setTofu
  | .setAutoConnect _ => some .setAutoConnect

structure Surroundings where
  store? : Option Store := none
  folder : Folder := {}
  supplicant? : Option Supplicant := none
  standIn : Supplicant.StandIn := {}
  toolCalls : List (List String) := []
  slot : PromptSlot := {}
  /-- The outcomes that nobody has taken up, the oldest first. -/
  outcomes : List TrustOutcome := []
  failing : List FallibleCall := []
  /-- Whether there is trust, where there is no store. -/
  trusted : Bool := false
deriving Repr, DecidableEq

namespace Surroundings

def setFailing (surroundings : Surroundings) (kind : FallibleCall) (fails : Bool) : Surroundings :=
  let others := surroundings.failing.filter (· ≠ kind)
  { surroundings with failing := if fails then kind :: others else others }

def fails (surroundings : Surroundings) (kind? : Option FallibleCall) : Bool :=
  surroundings.failing.any fun kind => kind? = some kind

def update (surroundings : Surroundings) (id : NetworkId) (change : Store.Change) :
    Except Store.Error Unit × Surroundings :=
  if surroundings.fails (FallibleCall.ofChange? change) then
    (.error (.unknownNetwork id), surroundings)
  else
    match surroundings.store? with
    | none => (.ok (), surroundings)
    | some store =>
        let left := store.update surroundings.folder id change
        (left.result, { surroundings with store? := left.store, folder := left.folder })

/-- Lets the supplicant act, and tells whether that worked. -/
def command (surroundings : Surroundings) (kind : FallibleCall)
    (action : Supplicant → Exchange ToolReply (Except Supplicant.Error Unit)) :
    Bool × Surroundings :=
  match surroundings.supplicant? with
  | none => (!surroundings.fails kind, surroundings)
  | some supplicant =>
      let (result, calls) := surroundings.standIn.serve (action supplicant)
      (result.isOk && !surroundings.fails kind,
        { surroundings with toolCalls := surroundings.toolCalls ++ calls })

def reply (call : GateCall) (surroundings : Surroundings) : GateReply call × Surroundings :=
  match call with
  | .hasValidTrust id =>
      match surroundings.store? with
      | some store => (store.hasValidTrust id, surroundings)
      | none => (surroundings.trusted, surroundings)
  | .update id change => surroundings.update id change
  | .invalidateSession id => surroundings.command .invalidateSession (·.invalidateSession id)
  | .forgetCredentials interface =>
      surroundings.command .forgetCredentials (·.forgetAll interface)
  | .present prompt =>
      let (handle, slot) := surroundings.slot.present prompt
      (handle, { surroundings with slot })
  | .dismiss handle => ((), { surroundings with slot := surroundings.slot.remove handle })
  | .report outcome =>
      ((), { surroundings with outcomes := surroundings.outcomes ++ [outcome] })

end Surroundings

end TrustGate
