import TrustGate.Proofs.Gate.Outcomes
import TrustGate.Proofs.Gate.Pinning

/-!
# The certificate of a flow

From its start to its end a flow gets at most one certificate, and keeps it with
what its names say. An offer counts if it is for the pending flow, the flow has no
certificate yet and both names can be read. It makes no calls, and one that does
not count leaves the gate as it is, so a flow that was offered nothing but unfit
certificates takes the first fit one.

`Reached.held_since_start` carries this from a start through the turns after it.
-/

namespace TrustGate

/-- What a gate keeps of a certificate: itself, and what its subject and its issuer say. -/
structure PendingCertificate.Keeps (pending : PendingCertificate)
    (certificate : ServerCertificate) : Prop where
  same : pending.certificate = certificate
  subject : SubjectInfo.parse certificate.subject = .ok pending.subject
  issuer : SubjectInfo.parse certificate.issuer = .ok pending.issuer

namespace Gate

variable {σ : Type} {respond : (call : GateCall) → σ → GateReply call × σ}

theorem certificate?_of_pending {gate : Gate} {flow : Flow} (isPending : gate.flow? = some flow) :
    gate.certificate? = flow.certificate? := by
  simp [certificate?, isPending]

theorem certificate?_of_idle {gate : Gate} (idle : gate.flow? = none) :
    gate.certificate? = none := by
  simp [certificate?, idle]

/-! ## Offers -/

theorem exists_readCertificate?_iff {certificate : ServerCertificate} :
    (∃ pending, readCertificate? certificate = some pending) ↔
      (∃ subject, SubjectInfo.parse certificate.subject = .ok subject) ∧
        ∃ issuer, SubjectInfo.parse certificate.issuer = .ok issuer := by
  constructor
  · rintro ⟨pending, readable⟩
    rcases parsed_of_readCertificate? readable with ⟨_, subject, issuer⟩
    exact ⟨⟨_, subject⟩, ⟨_, issuer⟩⟩
  · rintro ⟨⟨subject, subjectParsed⟩, ⟨issuer, issuerParsed⟩⟩
    refine ⟨⟨certificate, subject, issuer⟩, ?_⟩
    simp [readCertificate?, ServerCertificate.subjectInfo, ServerCertificate.issuerInfo,
      subjectParsed, issuerParsed]

theorem exists_takes_iff {gate : Gate} {ssid : String} {certificate : ServerCertificate} :
    (∃ flow pending, gate.Takes ssid certificate flow pending) ↔
      ssid ≠ "" ∧ gate.flow?.map Flow.ssid = some ssid ∧ gate.certificate? = none ∧
        (∃ subject, SubjectInfo.parse certificate.subject = .ok subject) ∧
        ∃ issuer, SubjectInfo.parse certificate.issuer = .ok issuer := by
  rw [← exists_readCertificate?_iff]
  constructor
  · rintro ⟨flow, pending, isPending, named, current, first, readable⟩
    rw [certificate?_of_pending isPending, isPending]
    exact ⟨named, congrArg some current, first, pending, readable⟩
  · rintro ⟨named, current, first, pending, readable⟩
    rcases Option.map_eq_some_iff.mp current with ⟨flow, isPending, rfl⟩
    rw [certificate?_of_pending isPending] at first
    exact ⟨flow, pending, isPending, named, rfl, first, readable⟩

/-- An offer makes no calls; it is taken if it is fit, and else nothing is changed. -/
theorem turn_offer (respond : (call : GateCall) → σ → GateReply call × σ) (gate : Gate)
    (surroundings : σ) (ssid : String) (certificate : ServerCertificate) :
    let turn := gate.turn respond surroundings (.offer ssid certificate)
    turn.transcript = [] ∧ turn.later = surroundings ∧
      ((∃ flow pending, gate.Takes ssid certificate flow pending) ∧ turn.result = some true ∨
        (¬∃ flow pending, gate.Takes ssid certificate flow pending) ∧
          turn.result = some false ∧ turn.after = gate) := by
  refine ⟨rfl, rfl, ?_⟩
  by_cases fit : ∃ flow pending, gate.Takes ssid certificate flow pending
  · left
    refine ⟨fit, ?_⟩
    rcases fit with ⟨flow, pending, takes⟩
    simp [turn, perform, Exchange.run, offer_of_takes takes]
  · right
    have unfit : ∀ flow pending, ¬gate.Takes ssid certificate flow pending :=
      fun flow pending takes => fit ⟨flow, pending, takes⟩
    simp [turn, perform, Exchange.run, offer_of_unfit unfit, unfit]

/-! ## The flow -/

section Run

variable {first gate : Gate} {initial surroundings : σ} {past : List (Turn σ)}

/-- From the start of a flow up to the next at most one certificate is taken, and as long as the
flow is pending it holds just what was taken. -/
theorem Reached.held_since_start
    (reached : Reached respond first initial past gate surroundings) {flow : Flow}
    (isPending : first.flow? = some flow) (lacking : flow.certificate? = none)
    (unstarted : ∀ turn ∈ past, ¬turn.StartsFlow) :
    (past.filterMap Turn.taken?).length ≤ 1 ∧
      ∀ current, gate.flow? = some current →
        past.filterMap Turn.taken? =
          (current.certificate?.map PendingCertificate.certificate).toList := by
  induction reached with
  | start =>
      refine ⟨Nat.zero_le 1, ?_⟩
      intro current currentPending
      cases isPending.symm.trans currentPending
      simp [lacking]
  | @turn past gate surroundings _ operation ih =>
      simp only [List.forall_mem_append, List.forall_mem_singleton] at unstarted
      rcases ih unstarted.1 with ⟨once, held⟩
      rw [List.filterMap_append]
      cases (performs_turn respond gate surroundings operation).passes with
      | starts prepared started _ => exact absurd ⟨_, prepared, started⟩ unstarted.2
      | ends idle untaken =>
          have nothing : (gate.turn respond surroundings operation).taken? = none := untaken
          simpa [nothing, idle] using once
      | @goesOn before now wasPending stillPending _ _ brought =>
          have taken : [gate.turn respond surroundings operation].filterMap Turn.taken? =
              (gate.turn respond surroundings operation).taken?.toList := by
            cases found : (gate.turn respond surroundings operation).taken? <;> simp [found]
          have whole : past.filterMap Turn.taken? ++
              [gate.turn respond surroundings operation].filterMap Turn.taken? =
                (now.certificate?.map PendingCertificate.certificate).toList := by
            rw [held before wasPending, taken, brought]
            rfl
          rw [whole]
          refine ⟨Option.length_toList_le, ?_⟩
          intro current currentPending
          cases stillPending.symm.trans currentPending
          rfl

end Run

/-- What happens to certificates in a run of a fresh gate. From the start of a flow up to the next
at most one offer is taken. Before that the flow has no certificate; from then on, as long as it is
pending, it has the one that was taken, with what its names say. Without a flow there is none. An
offer is taken just if it names the network of the pending flow, there is no certificate yet and
both names can be read; it makes no calls, and one that is not taken changes nothing. So a flow that
has been offered only what it could not take takes a readable certificate still. -/
theorem one_certificate_per_flow {settings : GateSettings} {initial surroundings : σ}
    {past : List (Turn σ)} {gate : Gate}
    (reached : Reached respond { settings } initial past gate surroundings) :
    (∀ earlier start segment, past = earlier ++ start :: segment → start.StartsFlow →
      (∀ turn ∈ segment, ¬turn.StartsFlow) →
        (segment.filterMap Turn.taken?).length ≤ 1 ∧
        (segment.filterMap Turn.taken? = [] → gate.certificate? = none) ∧
        (∀ certificate ∈ segment.filterMap Turn.taken?, gate.state ≠ .idle →
          ∃ pending, gate.certificate? = some pending ∧ pending.Keeps certificate) ∧
        (segment.filterMap Turn.taken? = [] → ∀ flow, gate.flow? = some flow → flow.ssid ≠ "" →
          ∀ certificate subject issuer,
            SubjectInfo.parse certificate.subject = .ok subject →
            SubjectInfo.parse certificate.issuer = .ok issuer →
              (gate.turn respond surroundings (.offer flow.ssid certificate)).result =
                some true)) ∧
    (gate.state = .idle → gate.certificate? = none) ∧
    ∀ ssid certificate,
      let turn := gate.turn respond surroundings (.offer ssid certificate)
      (turn.result = some true ↔
        ssid ≠ "" ∧ gate.flow?.map Flow.ssid = some ssid ∧ gate.certificate? = none ∧
          (∃ subject, SubjectInfo.parse certificate.subject = .ok subject) ∧
          ∃ issuer, SubjectInfo.parse certificate.issuer = .ok issuer) ∧
      (turn.result ≠ some true → turn.result = some false ∧ turn.after = gate) ∧
      turn.transcript = [] ∧ turn.later = surroundings := by
  have offers := turn_offer respond gate surroundings
  refine ⟨?flows, ?idle, ?offers⟩
  case flows =>
    intro earlier start segment cut starts unstarted
    rcases reached.cut cut with ⟨_, performed, since⟩
    rcases starts with ⟨profile, prepared, started⟩
    have performs := performs_of_eq_turn performed
    rw [prepared, started] at performs
    rcases performs.of_started with ⟨_, policy, fresh⟩
    rcases since.held_since_start fresh rfl unstarted with ⟨once, held⟩
    have bare : segment.filterMap Turn.taken? = [] → gate.certificate? = none := by
      intro nothing
      cases pending? : gate.flow? with
      | none => exact certificate?_of_idle pending?
      | some flow =>
          rw [certificate?_of_pending pending?]
          simpa [nothing] using held flow pending?
    refine ⟨once, bare, ?kept, ?takes⟩
    case kept =>
      intro certificate taken awaits
      cases pending? : gate.flow? with
      | none => exact absurd (state_eq_idle_iff.mpr pending?) awaits
      | some flow =>
          rw [held flow pending?, Option.mem_toList, Option.map_eq_some_iff] at taken
          rcases taken with ⟨pending, has, rfl⟩
          have coherent := (reached.coherent (coherent_of_fresh settings)).flow flow pending?
          rcases parsed_of_readCertificate? (coherent.readable pending has).2 with
            ⟨_, subject, issuer⟩
          exact ⟨pending, (certificate?_of_pending pending?).trans has, rfl, subject, issuer⟩
    case takes =>
      intro nothing flow isPending named certificate subject issuer subjectParsed issuerParsed
      have fit : ∃ current pending, gate.Takes flow.ssid certificate current pending :=
        exists_takes_iff.mpr ⟨named, by rw [isPending]; rfl, bare nothing, ⟨_, subjectParsed⟩,
          ⟨_, issuerParsed⟩⟩
      exact ((offers flow.ssid certificate).2.2.resolve_right fun unfit => unfit.1 fit).2
  case idle =>
    intro idle
    exact certificate?_of_idle (state_eq_idle_iff.mp idle)
  case offers =>
    intro ssid certificate turn
    rcases offers ssid certificate with ⟨silent, same, fate⟩
    refine ⟨?_, ?_, silent, same⟩
    · rw [← exists_takes_iff]
      rcases fate with ⟨fit, taken⟩ | ⟨unfit, declined, _⟩
      · exact iff_of_true taken fit
      · apply iff_of_false _ unfit
        intro taken
        cases declined.symm.trans taken
    · intro untaken
      exact (fate.resolve_left fun taken => untaken taken.2).2

/-- Of three certificates the one for another network and the second for its own are turned down,
and the gate keeps the first for its own. -/
theorem first_certificate_stays :
    ∃ past gate surroundings,
      Reached Surroundings.reply { settings := ⟨true, "wlan0", ""⟩ } {} past gate surroundings ∧
        past.map Turn.result = [some true, some false, some true, some false] ∧
        ∃ pending, gate.certificate? = some pending ∧ pending.Keeps (radius [1]) := by
  have reached : Reached Surroundings.reply { settings := ⟨true, "wlan0", ""⟩ } {} _ _ _ :=
    (((Reached.start.turn (.prepare (newcomer 5 "corp"))).turn (.offer "lab" (radius [0]))).turn
      (.offer "corp" (radius [1]))).turn (.offer "corp" (radius [2]))
  refine ⟨_, _, _, reached, rfl, ?_⟩
  have flow := (one_certificate_per_flow reached).1 [] _ [_, _, _] rfl ⟨_, rfl, rfl⟩ ?_
  · exact flow.2.2.1 (radius [1]) (List.mem_singleton.mpr rfl) (by decide)
  · simp [Turn.StartsFlow, turn]

end Gate

end TrustGate
