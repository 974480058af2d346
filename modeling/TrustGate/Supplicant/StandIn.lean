import TrustGate.Supplicant.Basic

/-!
# A stand-in for the control tool

A table of answers that takes the place of the control tool: the first entry
whose trigger is among the arguments gives the answer, and without one the
answer is that all went well.
-/

namespace TrustGate.Supplicant

/-- An answer and the argument that brings it. -/
structure ScriptedAnswer where
  trigger : String
  answer : ToolAnswer
deriving Repr, DecidableEq

structure StandIn where
  missing : Bool := false
  answers : List ScriptedAnswer := []
deriving Repr, DecidableEq

def plainAnswer : ToolAnswer :=
  .ended true (Utf8.encodeString "OK\n") []

def StandIn.answer (standIn : StandIn) (arguments : List String) : ToolAnswer :=
  if standIn.missing then .notStarted
  else
    match standIn.answers.find? fun scripted => arguments.contains scripted.trigger with
    | some scripted => scripted.answer
    | none => plainAnswer

/-- What an exchange with the tool comes to, and the calls that it makes. A tool that cannot be
started takes no call. -/
def StandIn.serve {α : Type} (standIn : StandIn) (exchange : Exchange ToolReply α) :
    α × List (List String) :=
  let run := exchange.run (fun arguments (_ : Unit) => (standIn.answer arguments, ())) ()
  (run.value, if standIn.missing then [] else run.transcript.map (·.1))

end TrustGate.Supplicant
