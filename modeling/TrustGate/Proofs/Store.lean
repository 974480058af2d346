import TrustGate.Store.Basic

/-!
# Changes of a store

A change that works replaces the profile of one network and leaves all others as
they are. What it makes of the profile does not depend on the folder, so it is
given apart, as `Store.Change.amend`: the name of the network and its way to
authenticate users stay as they are.

A change that cannot be saved is taken back. Since a store lists its profiles in
order, each under its own number, what was in the place of a profile determines the
store that there was, and `commit_of_unsaved` says that it is there again.
-/

namespace TrustGate

/-- The profile with its enterprise part changed, if it has one. -/
def NetworkProfile.mapEnterprise (change : Enterprise → Enterprise) (profile : NetworkProfile) :
    NetworkProfile :=
  { profile with enterprise := profile.enterprise.map change }

/-- What no change of trust touches: the number of a network, its name and its way to authenticate
users. -/
def NetworkProfile.fixed (profile : NetworkProfile) : NetworkId × String × Option EapMethod :=
  (profile.networkId, profile.ssid, profile.enterprise.map Enterprise.eapMethod)

namespace Store

/-! ## Looking up -/

theorem get?_put (store : Store) (id : NetworkId) (profile : NetworkProfile)
    (own : profile.networkId = id) (sought : NetworkId) :
    (store.put id profile own).get? sought =
      if id = sought then some profile else store.get? sought :=
  store.map.get?_insert id profile sought

theorem get?_insert (store : Store) (profile : NetworkProfile) (id : NetworkId) :
    (store.insert profile).get? id =
      if profile.networkId = id then some profile else store.get? id :=
  store.get?_put profile.networkId profile rfl id

theorem get?_erase (store : Store) (id sought : NetworkId) :
    (store.erase id).get? sought = if id = sought then none else store.get? sought :=
  store.map.get?_erase id sought

/-- Stores are the same if they have the same profile under each number. -/
theorem eq_of_get? {store other : Store} (found : ∀ id, store.get? id = other.get? id) :
    store = other :=
  Store.ext (NetworkMap.eq_of_get? found)

/-! ## Changing -/

/-- What a change makes of a profile that it can be applied to. -/
def Change.amend : Change → NetworkProfile → NetworkProfile
  | .reset => .mapEnterprise ({ · with caCertificate := none, approvedWithoutCa := false })
  | .setApproved approved => .mapEnterprise ({ · with approvedWithoutCa := approved })
  | .pin certificate => .mapEnterprise ({ · with caCertificate := some (pinned certificate) })
  | .setTofu enabled => .mapEnterprise ({ · with tofuEnabled := enabled })
  | .setAutoConnect allowed => fun profile => { profile with autoConnect := allowed }

/-- What a change makes of a profile, if it is made at all. -/
def Change.amendIf (change : Change) (made : Bool) (profile : NetworkProfile) : NetworkProfile :=
  if made then change.amend profile else profile

@[simp]
theorem fixed_amend (change : Change) (profile : NetworkProfile) :
    (change.amend profile).fixed = profile.fixed := by
  rcases profile with ⟨_, _, _, enterprise⟩
  cases change <;> cases enterprise <;> rfl

theorem networkId_amend (change : Change) (profile : NetworkProfile) :
    (change.amend profile).networkId = profile.networkId :=
  congrArg Prod.fst (fixed_amend change profile)

theorem mapEnterprise_of_onEnterprise {change : Enterprise → Enterprise}
    {profile amended : NetworkProfile} (applied : onEnterprise change profile = .ok amended) :
    profile.enterprise.isSome ∧ amended = profile.mapEnterprise change := by
  unfold onEnterprise at applied
  split at applied
  · cases applied
  · next enterprise present =>
      cases applied
      simp [NetworkProfile.mapEnterprise, present]

theorem eq_amend_of_apply {change : Change} {profile amended : NetworkProfile}
    (applied : change.apply profile = .ok amended) : amended = change.amend profile := by
  cases change with
  | setAutoConnect allowed =>
      cases applied
      rfl
  | _ => exact (mapEnterprise_of_onEnterprise applied).2

/-! ## Saving and taking back -/

/-- A profile that was replaced is put back in its place. -/
theorem put_insert_of_get? {store : Store} {profile previous : NetworkProfile}
    (found : store.get? profile.networkId = some previous) :
    (store.insert profile).put profile.networkId previous (networkId_of_get? found) = store :=
  Store.ext (NetworkMap.insert_insert_of_get? found)

/-- A profile that replaced no other is taken out again. -/
theorem erase_insert_of_get? {store : Store} {profile : NetworkProfile}
    (absent : store.get? profile.networkId = none) :
    (store.insert profile).erase profile.networkId = store :=
  Store.ext (NetworkMap.erase_insert_of_get? absent)

theorem commit_of_saved {store : Store} {folder left : Folder} {profile : NetworkProfile}
    (saved : folder.save (store.insert profile).fileText = (left, true)) :
    store.commit folder profile = ⟨left, store.insert profile, .ok ()⟩ := by
  simp only [commit, saved]

/-- If saving fails, the store is as it was. -/
theorem commit_of_unsaved {store : Store} {folder left : Folder} {profile : NetworkProfile}
    (failed : folder.save (store.insert profile).fileText = (left, false)) :
    store.commit folder profile = ⟨left, store, .error .io⟩ := by
  simp only [commit, failed]
  split
  · next previous found => rw [put_insert_of_get? found]
  · next absent => rw [erase_insert_of_get? absent]

/-- A profile that is committed is in the store just if it could be saved. -/
theorem store_of_commit (store : Store) (folder : Folder) (profile : NetworkProfile) :
    (store.commit folder profile).store =
      if (store.commit folder profile).result.isOk then store.insert profile else store := by
  rcases saving : folder.save (store.insert profile).fileText with ⟨left, _ | _⟩
  · rw [commit_of_unsaved saving]
    rfl
  · rw [commit_of_saved saving]
    rfl

/-- What comes of a change: nothing if there is no profile that it can be made to, and else the
changed profile is committed. -/
inductive Updates (store : Store) (folder : Folder) (id : NetworkId) (change : Change) :
    Committed → Prop
  | unknown (absent : store.get? id = none) :
      Updates store folder id change ⟨folder, store, .error (.unknownNetwork id)⟩
  | refused {profile : NetworkProfile} {error : Error} (found : store.get? id = some profile)
      (unfit : change.apply profile = .error error) :
      Updates store folder id change ⟨folder, store, .error error⟩
  | committed {profile : NetworkProfile} (found : store.get? id = some profile)
      (applied : change.apply profile = .ok (change.amend profile)) :
      Updates store folder id change (store.commit folder (change.amend profile))

theorem updates_update (store : Store) (folder : Folder) (id : NetworkId) (change : Change) :
    Updates store folder id change (store.update folder id change) := by
  cases found : store.get? id with
  | none =>
      rw [update, found]
      exact .unknown found
  | some profile =>
      cases applied : change.apply profile with
      | error error =>
          simp only [update, found, applied]
          exact .refused found applied
      | ok changed =>
          obtain rfl := eq_amend_of_apply applied
          simp only [update, found, applied]
          exact .committed found applied

section Update

variable {store : Store} {folder : Folder} {id : NetworkId} {change : Change}

/-- Only a stored network can be changed, and only its profile is. -/
theorem exists_insert_of_update (updated : (store.update folder id change).result = .ok ()) :
    ∃ profile, store.get? id = some profile ∧ change.apply profile = .ok (change.amend profile) ∧
      (store.update folder id change).store = store.insert (change.amend profile) := by
  have updates := updates_update store folder id change
  generalize store.update folder id change = left at updates updated ⊢
  cases updates with
  | unknown | refused => cases updated
  | committed found applied =>
      refine ⟨_, found, applied, ?_⟩
      rw [store_of_commit, updated]
      rfl

/-- A change that fails leaves the store as it was, also if it had been made by then. -/
theorem store_of_failed_update {error : Error}
    (failed : (store.update folder id change).result = .error error) :
    (store.update folder id change).store = store := by
  have updates := updates_update store folder id change
  generalize store.update folder id change = left at updates failed ⊢
  cases updates with
  | unknown | refused => rfl
  | committed found applied =>
      rw [store_of_commit, failed]
      rfl

end Update

/-- A change amends the profile of its network, if it works, and leaves all others as they are. -/
theorem get?_of_update (store : Store) (folder : Folder) (id : NetworkId) (change : Change)
    (other : NetworkId) :
    (store.update folder id change).store.get? other =
      (store.get? other).map fun profile =>
        if other = id then
          change.amendIf (store.update folder id change).result.isOk profile
        else profile := by
  cases ended : (store.update folder id change).result with
  | error error =>
      rw [store_of_failed_update ended]
      cases store.get? other <;> simp [Change.amendIf, Except.isOk, Except.toBool]
  | ok =>
      rcases exists_insert_of_update ended with ⟨profile, found, _, changed⟩
      rw [changed, get?_insert, networkId_amend, networkId_of_get? found]
      by_cases sought : other = id
      · subst sought
        simp [found, Change.amendIf, Except.isOk, Except.toBool]
      · simp [sought, Ne.symm sought]

end Store

end TrustGate
