import TrustGate.Proofs.Gate.History
import TrustGate.Proofs.Store

/-!
# A gate over a store

The surroundings of this file have a store with its folder, and of the rest
nothing is known. Saving may fail each time anew, at any step. The store of the
next call is the one that an operation leaves in memory, whether it worked or not.

What a transcript makes of the store is read off its calls: a change whose reply is
`ok` was made, and one whose reply is an error was taken back, if it had been made.
-/

namespace TrustGate

/-- Surroundings with a store. -/
structure StoreSite (ρ : Type) where
  store : Store
  folder : Folder := {}
  /-- The steps at which the disk fails at the saves to come, and at none after these. -/
  faults : List (Option SaveStep) := []
  rest : ρ

/-- The reply to a call of a gate from the store, or else from the rest of the surroundings. -/
def StoreSite.reply {ρ : Type} (others : (call : GateCall) → ρ → GateReply call × ρ)
    (call : GateCall) (site : StoreSite ρ) : GateReply call × StoreSite ρ :=
  match call with
  | .hasValidTrust id => (site.store.hasValidTrust id, site)
  | .update id change =>
      let left :=
        site.store.update { site.folder with fault := site.faults.headD none } id change
      (left.result,
        { site with store := left.store, folder := left.folder, faults := site.faults.tail })
  | call =>
      let (reply, rest) := others call site.rest
      (reply, { site with rest })

namespace Gate

/-! ## What a transcript makes of a profile -/

/-- What a call with its reply makes of the profile of a network. -/
def amended (id : NetworkId) (event : Exchange.Event GateReply) (profile : NetworkProfile) :
    NetworkProfile :=
  match event with
  | ⟨.update other change, .ok _⟩ => if id = other then change.amend profile else profile
  | _ => profile

/-- What a transcript makes of the profile of a network. -/
def amendment (id : NetworkId) (transcript : Transcript) (profile : NetworkProfile) :
    NetworkProfile :=
  transcript.foldl (fun profile event => amended id event profile) profile

section Amendment

variable (id : NetworkId) (profile : NetworkProfile)

@[simp]
theorem amendment_nil : amendment id [] profile = profile :=
  rfl

@[simp]
theorem amendment_cons (event : Exchange.Event GateReply) (rest : Transcript) :
    amendment id (event :: rest) profile = amendment id rest (amended id event profile) :=
  rfl

@[simp]
theorem amendment_append (first second : Transcript) :
    amendment id (first ++ second) profile = amendment id second (amendment id first profile) :=
  List.foldl_append

/-- A change of just this network counts if its reply says so. -/
theorem amended_update (change : Store.Change) (reply : Except Store.Error Unit) :
    amended id ⟨.update id change, reply⟩ profile = change.amendIf reply.isOk profile := by
  cases reply with
  | ok _ => exact if_pos rfl
  | error _ => rfl

theorem amended_update_of_ne {other : NetworkId} (different : id ≠ other) (change : Store.Change)
    (reply : Except Store.Error Unit) :
    amended id ⟨.update other change, reply⟩ profile = profile := by
  cases reply with
  | ok _ => exact if_neg different
  | error _ => rfl

/-- A change that fails counts for nothing. -/
theorem amended_error (other : NetworkId) (change : Store.Change) (error : Store.Error) :
    amended id ⟨.update other change, .error error⟩ profile = profile :=
  rfl

theorem fixed_amended (event : Exchange.Event GateReply) :
    (amended id event profile).fixed = profile.fixed := by
  unfold amended
  split
  · split
    · exact Store.fixed_amend _ profile
    · rfl
  · rfl

theorem fixed_amendment (transcript : Transcript) :
    (amendment id transcript profile).fixed = profile.fixed := by
  induction transcript generalizing profile with
  | nil => rfl
  | cons event rest ih => rw [amendment_cons, ih, fixed_amended]

/-- Calls that ask for no change of a network make nothing of its profile. -/
theorem amendment_of_unchanged {transcript : Transcript}
    (unchanged : ∀ change, (id, change) ∉ seen changed? transcript) :
    amendment id transcript profile = profile := by
  induction transcript generalizing profile with
  | nil => rfl
  | cons event rest ih =>
      simp only [seen_cons, List.mem_append, not_or] at unchanged
      rw [amendment_cons, ih _ fun change => (unchanged change).2]
      unfold amended
      split
      · next other change _ =>
          have different : id ≠ other := fun same => (unchanged change).1 (by simp [changed?, same])
          rw [if_neg different]
      · rfl

theorem amendment_dismissal (gate : Gate) : amendment id gate.dismissal profile = profile :=
  amendment_of_unchanged id profile (by simp [seen_dismissal changed? gate fun _ => rfl])

theorem amendment_report (outcome : TrustOutcome) :
    amendment id [⟨.report outcome, ()⟩] profile = profile :=
  rfl

end Amendment

/-! ## What a transcript makes of the store -/

section Answered

variable {ρ : Type} {others : (call : GateCall) → ρ → GateReply call × ρ}
  {site later : StoreSite ρ}

theorem get?_of_reply (call : GateCall) (site : StoreSite ρ) (id : NetworkId) :
    (StoreSite.reply others call site).2.store.get? id =
      (site.store.get? id).map (amended id ⟨call, (StoreSite.reply others call site).1⟩) := by
  cases call with
  | update other change =>
      simp only [StoreSite.reply, Store.get?_of_update]
      apply Option.map_congr
      intro profile _
      by_cases own : id = other
      · subst own
        rw [if_pos rfl, amended_update]
      · rw [if_neg own, amended_update_of_ne id profile own]
  | _ => cases found : site.store.get? id <;> simp [StoreSite.reply, amended, found]

/-- A change that counts is one of a stored profile that it can be applied to. -/
theorem exists_of_reply {id : NetworkId} {change : Store.Change} {site : StoreSite ρ} {done : Unit}
    (replied : (StoreSite.reply others (.update id change) site).1 = .ok done) :
    ∃ profile, site.store.get? id = some profile ∧
      change.apply profile = .ok (change.amend profile) := by
  rcases Store.exists_insert_of_update replied with ⟨profile, found, applied, _⟩
  exact ⟨profile, found, applied⟩

/-- The store holds of each network what the transcript makes of its profile. -/
theorem get?_of_answered {transcript : Transcript}
    (answered : Exchange.Answered (StoreSite.reply others) site transcript later)
    (id : NetworkId) :
    later.store.get? id = (site.store.get? id).map (amendment id transcript) := by
  induction transcript generalizing site with
  | nil =>
      cases answered
      cases later.store.get? id <;> rfl
  | cons event rest ih =>
      rcases event with ⟨call, reply⟩
      rcases answered with ⟨rfl, answered⟩
      rw [ih answered, get?_of_reply, Option.map_map]
      rfl

/-- Without a change asked for, the store is as it was. -/
theorem store_of_answered {transcript : Transcript}
    (answered : Exchange.Answered (StoreSite.reply others) site transcript later)
    (unchanged : seen changed? transcript = []) : later.store = site.store := by
  induction transcript generalizing site with
  | nil =>
      cases answered
      rfl
  | cons event rest ih =>
      rcases event with ⟨call, reply⟩
      rcases answered with ⟨rfl, answered⟩
      simp only [seen_cons, List.append_eq_nil_iff] at unchanged
      rw [ih answered unchanged.2]
      cases call with
      | update other change => simp [changed?] at unchanged
      | _ => rfl

end Answered

end Gate

end TrustGate
