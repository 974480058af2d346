import TrustGate.Policy
import TrustGate.Proofs.Store

/-!
# Who is asked

Whether the user is asked about a connection follows from the profile alone.
`NetworkProfile.asks_iff` spells the conditions out, and the lemmas after it say
what the changes of a store do to them: which approvals keep the user from being
asked, what takes them back, and what makes no difference.
-/

namespace TrustGate

namespace NetworkProfile

/-- Whether the user has to be asked about a connection to the network. -/
def asks (profile : NetworkProfile) (tofuSupported : Bool) : Bool :=
  (profile.approvalNeed tofuSupported).policy?.isSome

/-- The network is approved, and the user would have to be asked about it otherwise. -/
def Remembers (profile : NetworkProfile) (tofuSupported : Bool) : Prop :=
  ∃ enterprise, profile.enterprise = some enterprise ∧
    enterprise.eapMethod.usesServerCertificate = true ∧
    if tofuSupported then enterprise.tofuEnabled = true ∧ enterprise.hasCaCertificate = true
    else enterprise.approvedWithoutCa = true

variable {profile : NetworkProfile} {tofuSupported : Bool}

theorem asks_iff :
    profile.asks tofuSupported = true ↔
      ∃ enterprise, profile.enterprise = some enterprise ∧
        enterprise.eapMethod.usesServerCertificate = true ∧
        enterprise.hasCaCertificate = false ∧
        if tofuSupported then enterprise.tofuEnabled = true
        else enterprise.approvedWithoutCa = false := by
  unfold asks approvalNeed Enterprise.approvalNeed
  cases profile.enterprise with
  | none => simp [ApprovalNeed.policy?]
  | some enterprise =>
      cases tofuSupported <;> grind [ApprovalNeed.policy?]

theorem Remembers.asks_eq_false (remembers : profile.Remembers tofuSupported) :
    profile.asks tofuSupported = false := by
  rcases remembers with ⟨enterprise, present, _, approved⟩
  apply Bool.eq_false_iff.mpr
  intro asks
  rcases asks_iff.mp asks with ⟨same, samePresent, _, untrusted, unapproved⟩
  cases present.symm.trans samePresent
  cases tofuSupported <;> simp_all

theorem enterprise_mapEnterprise {change : Enterprise → Enterprise} {enterprise : Enterprise}
    (present : profile.enterprise = some enterprise) :
    (profile.mapEnterprise change).enterprise = some (change enterprise) := by
  rw [mapEnterprise, present, Option.map_some]

theorem Remembers.asks_reset (remembers : profile.Remembers tofuSupported) :
    (Store.Change.reset.amend profile).asks tofuSupported = true := by
  rcases remembers with ⟨enterprise, present, method, approved⟩
  refine asks_iff.mpr ⟨_, enterprise_mapEnterprise present, method, rfl, ?_⟩
  cases tofuSupported with
  | false => rfl
  | true => exact approved.1

theorem remembers_of_pin (asks : profile.asks true = true) (certificate : ServerCertificate) :
    (Store.Change.amend (.pin certificate) profile).Remembers true := by
  rcases asks_iff.mp asks with ⟨enterprise, present, method, _, enabled⟩
  exact ⟨_, enterprise_mapEnterprise present, method, enabled, rfl⟩

theorem remembers_of_setApproved (asks : profile.asks false = true) :
    (Store.Change.amend (.setApproved true) profile).Remembers false := by
  rcases asks_iff.mp asks with ⟨enterprise, present, method, _, _⟩
  exact ⟨_, enterprise_mapEnterprise present, method, rfl⟩

theorem Remembers.setApproved (remembers : profile.Remembers false) (made : Bool) :
    (Store.Change.amendIf (.setApproved true) made profile).Remembers false := by
  rcases remembers with ⟨enterprise, present, method, approved⟩
  cases made with
  | false => exact ⟨enterprise, present, method, approved⟩
  | true => exact ⟨_, enterprise_mapEnterprise present, method, rfl⟩

theorem Remembers.setAutoConnect (remembers : profile.Remembers tofuSupported)
    (allowed made : Bool) :
    (Store.Change.amendIf (.setAutoConnect allowed) made profile).Remembers tofuSupported := by
  cases made <;> exact remembers

theorem asks_setAutoConnect (allowed made : Bool) :
    (Store.Change.amendIf (.setAutoConnect allowed) made profile).asks tofuSupported =
      profile.asks tofuSupported := by
  cases made <;> rfl

theorem asks_setApproved (approved made : Bool) :
    (Store.Change.amendIf (.setApproved approved) made profile).asks true = profile.asks true := by
  rcases profile with ⟨networkId, ssid, autoConnect, enterprise⟩
  cases made <;> cases enterprise <;> rfl

theorem asks_setTofu (made : Bool) :
    (Store.Change.amendIf (.setTofu false) made profile).asks true =
      (profile.asks true && !made) := by
  cases made with
  | false => simp [Store.Change.amendIf]
  | true =>
      -- Where no first certificate may be trusted, there is nothing to ask.
      simp only [Store.Change.amendIf, if_true, Bool.not_true, Bool.and_false]
      apply Bool.eq_false_iff.mpr
      intro asks
      rcases asks_iff.mp asks with ⟨enterprise, present, _, _, enabled⟩
      rcases Option.map_eq_some_iff.mp present with ⟨_, _, rfl⟩
      cases enabled

end NetworkProfile

end TrustGate
