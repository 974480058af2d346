import TrustGate.Proofs.Blank
import TrustGate.Proofs.Exchange
import TrustGate.Supplicant.Basic

/-!
# What a reset of credentials does

The calls of the control tool that a reset makes, whatever the tool answers. The
commands of a session are issued up to the first that fails, and what came of them
has no influence on the removal of the networks after them.

Surroundings may answer each call as they like and change by it. So a tool that
cannot be started, or one that fails now and then, is one of them.
-/

namespace TrustGate

/-- The tool was started, ended well, and did not print that the supplicant failed. -/
def ToolAnswer.Succeeds (answer : ToolAnswer) : Prop :=
  ∃ output errors, answer = .ended true output errors ∧
    ¬"FAIL".toList <:+: Utf8.decodeLossy output

namespace Supplicant

theorem occursIn_iff (text chars : List Char) :
    occursIn text chars = true ↔ text <:+: chars := by
  induction chars with
  | nil => simp [occursIn]
  | cons char chars ih => simp [occursIn, ih, List.infix_cons_iff]

/-- Trimming the output does not hide a failure. -/
theorem judge_eq_ok_iff (arguments : List String) (answer : ToolAnswer) :
    judge arguments answer = .ok () ↔ answer.Succeeds := by
  cases answer with
  | notStarted => simp [judge, ToolAnswer.Succeeds]
  | ended success output errors =>
      have visible : ∀ char ∈ "FAIL".toList, Text.isBlank char = false := by
        simp [Text.isBlank]
      have failed : occursIn "FAIL".toList (printed output) = true ↔
          "FAIL".toList <:+: Utf8.decodeLossy output := by
        rw [occursIn_iff, printed, Text.infix_trim_iff visible]
      simp only [judge, ToolAnswer.Succeeds]
      -- What the word is does not matter any more.
      generalize "FAIL".toList = word at failed ⊢
      cases success <;> cases occurs : occursIn word (printed output) <;> simp [← failed, occurs]

/-- Commands that are issued up to the first that fails, with the answers to those that are, and
what this comes to. -/
inductive Issued :
    List (List String) → List (Exchange.Event ToolReply) → Except Error Unit → Prop
  | finished : Issued [] [] (.ok ())
  | failed {command : List String} {later : List (List String)} {answer : ToolAnswer}
      {error : Error} (fails : ¬answer.Succeeds) :
      Issued (command :: later) [⟨command, answer⟩] (.error error)
  | succeeded {command : List String} {later : List (List String)} {answer : ToolAnswer}
      {transcript : List (Exchange.Event ToolReply)} {result : Except Error Unit}
      (succeeds : answer.Succeeds) (rest : Issued later transcript result) :
      Issued (command :: later) (⟨command, answer⟩ :: transcript) result

/-- All went well just if all commands were issued and succeeded. -/
theorem Issued.eq_ok_iff {commands : List (List String)}
    {transcript : List (Exchange.Event ToolReply)} {result : Except Error Unit}
    (issued : Issued commands transcript result) :
    result = .ok () ↔
      transcript.map (·.1) = commands ∧ ∀ event ∈ transcript, event.2.Succeeds := by
  induction issued with
  | finished => simp
  | failed fails => simp [fails]
  | succeeded succeeds rest ih => simp [succeeds, ih]

section Live

variable {supplicant : Supplicant} (live : supplicant.dryRun = false)
include live

theorem yields_issue_iff {arguments : List String} {transcript : List (Exchange.Event ToolReply)}
    {result : Except Error Unit} :
    (supplicant.issue arguments).Yields transcript result ↔
      ∃ answer, transcript = [⟨arguments, answer⟩] ∧ result = judge arguments answer := by
  simp only [issue, live, Bool.false_eq_true, if_false, Exchange.yields_ask_iff,
    Exchange.yields_done_iff]
  constructor
  · rintro ⟨answer, _, rfl, rfl, rfl⟩
    exact ⟨answer, rfl, rfl⟩
  · rintro ⟨answer, rfl, rfl⟩
    exact ⟨answer, [], rfl, rfl, rfl⟩

theorem issued_of_yields {commands : List (List String)}
    {transcript : List (Exchange.Event ToolReply)} {result : Except Error Unit}
    (yields : (supplicant.issueAll commands).Yields transcript result) :
    Issued commands transcript result := by
  induction commands generalizing transcript with
  | nil =>
      obtain ⟨rfl, rfl⟩ := Exchange.yields_done_iff.mp yields
      exact .finished
  | cons command later ih =>
      rw [issueAll, Exchange.yields_bind_iff] at yields
      obtain ⟨first, judged, rest, issued, goesOn, rfl⟩ := yields
      obtain ⟨answer, rfl, rfl⟩ := (yields_issue_iff live).mp issued
      cases verdict : judge command answer with
      | error error =>
          simp only [verdict, Exchange.yields_pure_iff] at goesOn
          obtain ⟨rfl, rfl⟩ := goesOn
          refine .failed ?_
          rw [← judge_eq_ok_iff command, verdict]
          simp
      | ok =>
          simp only [verdict] at goesOn
          exact .succeeded ((judge_eq_ok_iff command answer).mp verdict) (ih goesOn)

/-- The removal of all networks is one call, whatever the tool answers. -/
theorem exists_transcript_forgetAll {σ : Type}
    (respond : (arguments : List String) → σ → ToolAnswer × σ) (surroundings : σ)
    (interface : String) :
    ∃ answer, ((supplicant.forgetAll interface).run respond surroundings).transcript =
      [⟨["-i", interface, "remove_network", "all"], answer⟩] := by
  have yields := Exchange.yields_run respond (supplicant.forgetAll interface) surroundings
  generalize (supplicant.forgetAll interface).run respond surroundings = ran at yields ⊢
  have issued : Issued [["-i", interface, "remove_network", "all"]] ran.transcript ran.value :=
    issued_of_yields live yields
  rcases ran with ⟨result, transcript, left⟩
  cases issued with
  | failed => exact ⟨_, rfl⟩
  | succeeded _ rest =>
      cases rest
      exact ⟨_, rfl⟩

end Live

section Dry

variable {supplicant : Supplicant} (dry : supplicant.dryRun = true)
include dry

theorem issueAll_of_dryRun (commands : List (List String)) :
    supplicant.issueAll commands = .done (.ok ()) := by
  induction commands with
  | nil => rfl
  | cons command later ih =>
      rw [issueAll, issue, if_pos dry]
      exact ih

theorem reset_of_dryRun (id? : Option NetworkId) (interface : String) :
    supplicant.reset id? interface = .done () := by
  cases id? with
  | none => simp only [reset, resetCredentials, forgetAll, issueAll_of_dryRun dry]; rfl
  | some id =>
      simp only [reset, resetCredentials, forgetAll, invalidateSession, issueAll_of_dryRun dry]
      rfl

end Dry

/-- However the tool answers, also if it cannot be started. A command succeeds just if the tool was
started, ended well and did not print that the supplicant failed. The session of a network is
dropped by a flush of the key cache and then by disabling the network, up to the first that fails,
and well just if both succeed. A reset drops it if a network is given, and then removes all networks
of the interface that is given, whatever came of the session. In a dry run the tool is not called,
and all goes well. -/
theorem reset_always_removes {σ : Type}
    (respond : (arguments : List String) → σ → ToolAnswer × σ) (surroundings : σ) (own : String) :
    let live : Supplicant := { interface := own, dryRun := false }
    let dry : Supplicant := { interface := own, dryRun := true }
    (∀ arguments,
      let issued := (live.issue arguments).run respond surroundings
      ∃ answer, issued.transcript = [⟨arguments, answer⟩] ∧
        (issued.value = .ok () ↔ answer.Succeeds)) ∧
    (∀ id,
      let session := (live.invalidateSession id).run respond surroundings
      let commands :=
        [["-i", own, "pmksa_flush"], ["-i", own, "disable_network", toString id.toNat]]
      Issued commands session.transcript session.value ∧
        (session.value = .ok () ↔ session.transcript.map (·.1) = commands ∧
          ∀ event ∈ session.transcript, event.2.Succeeds)) ∧
    (∀ id? interface,
      let session := match id? with
        | none => []
        | some id => ((live.invalidateSession id).run respond surroundings).transcript
      ∃ answer, ((live.reset id? interface).run respond surroundings).transcript =
        session ++ [⟨["-i", interface, "remove_network", "all"], answer⟩]) ∧
    (∀ id, (dry.invalidateSession id).run respond surroundings = ⟨.ok (), [], surroundings⟩) ∧
    (∀ interface, (dry.forgetAll interface).run respond surroundings =
      ⟨.ok (), [], surroundings⟩) ∧
    ∀ id? interface, (dry.reset id? interface).run respond surroundings =
      ⟨(), [], surroundings⟩ := by
  intro live dry
  refine ⟨?command, ?session, ?reset, ?drySession, ?dryRemoval, ?dryReset⟩
  case command =>
    intro arguments issued
    obtain ⟨answer, called, judged⟩ := (yields_issue_iff rfl).mp
      (Exchange.yields_run respond (live.issue arguments) surroundings)
    exact ⟨answer, called, judged ▸ judge_eq_ok_iff arguments answer⟩
  case session =>
    intro id session commands
    have issued : Issued commands session.transcript session.value :=
      issued_of_yields rfl (Exchange.yields_run respond (live.invalidateSession id) surroundings)
    exact ⟨issued, issued.eq_ok_iff⟩
  case reset =>
    intro id? interface session
    have working : live.dryRun = false := rfl
    cases id? with
    | none =>
        obtain ⟨answer, removal⟩ :=
          exists_transcript_forgetAll working respond surroundings interface
        refine ⟨answer, ?_⟩
        simp only [reset, resetCredentials, Exchange.run_bind, removal]
        rfl
    | some id =>
        let left := ((live.invalidateSession id).run respond surroundings).surroundings
        obtain ⟨answer, removal⟩ := exists_transcript_forgetAll working respond left interface
        refine ⟨answer, ?_⟩
        simp only [reset, resetCredentials, Exchange.run_bind, removal, left]
        rfl
  case drySession =>
    intro id
    rw [invalidateSession, issueAll_of_dryRun rfl, Exchange.run]
  case dryRemoval =>
    intro interface
    rw [forgetAll, issueAll_of_dryRun rfl, Exchange.run]
  case dryReset =>
    intro id? interface
    rw [reset_of_dryRun rfl, Exchange.run]

end Supplicant

end TrustGate
