import TrustGate.Proofs.StoreFile

/-!
# All or nothing

An operation on a store changes the profiles in memory before it saves them, and
nobody can tell when saving fails: the store is the very one that there was, whether
or not there was a profile in the place of the one that could not be saved.

`Performed` lists the four ways in which an operation ends, with what is then in
memory and in the folder. A change that counts writes the fields it names, and
`Field.Kept` says what it means that all other fields stay.
-/

namespace TrustGate.Store

/-! ## When saving works -/

theorem saved_iff {folder : Folder} {text : String} :
    (folder.save text).2 = true ↔
      folder.fault = none ∧ folder.temporary ≠ .folder ∧ folder.profiles ≠ .folder := by
  simp only [Folder.save, Folder.writeTemporary?, Folder.rename?]
  by_cases blocked : folder.temporary = .folder
  · simp [blocked]
  · by_cases occupied : folder.profiles = .folder
    · rcases folder.fault with _ | _ | _ | _ <;> simp [blocked, occupied]
    · rcases folder.fault with _ | _ | _ | _ <;> simp [blocked, occupied]

theorem profiles_ne_folder_of_ofFolder {folder : Folder} {store : Store}
    (opened : ofFolder folder = .ok store) : folder.profiles ≠ .folder := by
  intro occupied
  simp [ofFolder, occupied, Entry.text?] at opened

/-! ## Fields -/

/-- The fields of a stored profile. -/
inductive Field
  | networkId
  | ssid
  | autoConnect
  | eapMethod
  | caCertificate
  | tofuEnabled
  | approvedWithoutCa
deriving DecidableEq

/-- A field is the same in two profiles. -/
def Field.Kept (former later : NetworkProfile) : Field → Prop
  | networkId => later.networkId = former.networkId
  | ssid => later.ssid = former.ssid
  | autoConnect => later.autoConnect = former.autoConnect
  | eapMethod => later.enterprise.map (·.eapMethod) = former.enterprise.map (·.eapMethod)
  | caCertificate =>
      later.enterprise.map (·.caCertificate) = former.enterprise.map (·.caCertificate)
  | tofuEnabled => later.enterprise.map (·.tofuEnabled) = former.enterprise.map (·.tofuEnabled)
  | approvedWithoutCa =>
      later.enterprise.map (·.approvedWithoutCa) = former.enterprise.map (·.approvedWithoutCa)

/-- The fields that a change is about. -/
def Change.fields : Change → List Field
  | .reset => [.caCertificate, .approvedWithoutCa]
  | .setApproved _ => [.approvedWithoutCa]
  | .pin _ => [.caCertificate]
  | .setTofu _ => [.tofuEnabled]
  | .setAutoConnect _ => [.autoConnect]

theorem kept_amend (change : Change) (profile : NetworkProfile) {field : Field}
    (unnamed : field ∉ change.fields) : field.Kept profile (change.amend profile) := by
  rcases profile with ⟨_, _, _, _ | _⟩ <;> cases change <;> cases field <;>
    first
    | rfl
    | exact absurd (by simp [Change.fields]) unnamed

/-- Whether a change is one of the enterprise part. -/
def Change.needsEnterprise : Change → Bool
  | .setAutoConnect _ => false
  | _ => true

theorem onEnterprise_eq (change : Enterprise → Enterprise) (profile : NetworkProfile) :
    onEnterprise change profile =
      if profile.enterprise = none then .error (.notEnterprise profile.networkId)
      else .ok (profile.mapEnterprise change) := by
  rcases profile with ⟨_, _, _, _ | _⟩ <;> rfl

theorem apply_eq (change : Change) (profile : NetworkProfile) :
    change.apply profile =
      if change.needsEnterprise ∧ profile.enterprise = none then
        .error (.notEnterprise profile.networkId)
      else .ok (change.amend profile) := by
  cases change <;> simp [Change.apply, Change.amend, Change.needsEnterprise, onEnterprise_eq]

/-! ## What operations do -/

/-- The network that an operation is about. -/
def Operation.target : Operation → NetworkId
  | .upsert profile => profile.networkId
  | .update id _ => id

/-- The operation can be made: what it changes is stored, and has an enterprise part if the change
is one of that. -/
def Operation.Acceptable (store : Store) : Operation → Prop
  | .upsert _ => True
  | .update id change => ∃ profile, store.get? id = some profile ∧
      (change.needsEnterprise = true → profile.enterprise ≠ none)

/-- The later store has what the operation writes for its network, in the fields that it names, and
is the former one in everything else. -/
structure Operation.Amends (operation : Operation) (former later : Store) : Prop where
  others : ∀ id, id ≠ operation.target → later.get? id = former.get? id
  own : match operation with
    | .upsert profile => later.get? profile.networkId = some profile
    | .update id change => ∃ profile, former.get? id = some profile ∧
        later.get? id = some (change.amend profile) ∧
        ∀ field, field ∉ change.fields → field.Kept profile (change.amend profile)

theorem Operation.amends_upsert (store : Store) (profile : NetworkProfile) :
    (Operation.upsert profile).Amends store (store.insert profile) where
  others id other := by
    have different : profile.networkId ≠ id := Ne.symm other
    simp [get?_insert, different]
  own := by simp [get?_insert]

theorem Operation.amends_update {store : Store} {id : NetworkId} {profile : NetworkProfile}
    (change : Change) (found : store.get? id = some profile) :
    (Operation.update id change).Amends store (store.insert (change.amend profile)) where
  others other different := by
    have elsewhere : id ≠ other := Ne.symm different
    simp [get?_insert, networkId_amend, networkId_of_get? found, elsewhere]
  own := by
    refine ⟨profile, found, ?_, ?_⟩
    · simp [get?_insert, networkId_amend, networkId_of_get? found]
    · intro field unnamed
      exact kept_amend change profile unnamed

/-- Something is in the way of saving: the disk fails at one of the steps, or a folder stands in
place of the temporary file. -/
def Call.IsHindered (call : Call) : Prop :=
  call.fault ≠ none ∨ call.temporary = .folder

/-- The ways in which a call of an operation ends. -/
inductive Performed (now : InUse) (call : Call) : Committed → Prop
  | unknown {id : NetworkId} {change : Change} (asked : call.operation = .update id change)
      (absent : now.store.get? id = none) :
      Performed now call ⟨now.met call, now.store, .error (.unknownNetwork id)⟩
  | unfit {id : NetworkId} {change : Change} {profile : NetworkProfile}
      (asked : call.operation = .update id change) (found : now.store.get? id = some profile)
      (needs : change.needsEnterprise = true) (plain : profile.enterprise = none) :
      Performed now call ⟨now.met call, now.store, .error (.notEnterprise id)⟩
  | unsaved {left : Folder} (acceptable : call.operation.Acceptable now.store)
      (hindered : call.IsHindered) (untouched : left.profiles = now.folder.profiles) :
      Performed now call ⟨left, now.store, .error .io⟩
  | saved {left : Folder} {changed : Store} (acceptable : call.operation.Acceptable now.store)
      (free : ¬call.IsHindered) (amends : call.operation.Amends now.store changed)
      (content : left.profiles = .file (Utf8.encodeString changed.fileText)) :
      Performed now call ⟨left, changed, .ok ()⟩

theorem InUse.saved_met_iff {now : InUse} (present : now.folder.profiles ≠ .folder) (call : Call)
    (text : String) : ((now.met call).save text).2 = true ↔ ¬call.IsHindered := by
  simp only [saved_iff, InUse.met, Call.IsHindered]
  simp [present]

theorem performed_commit {now : InUse} (present : now.folder.profiles ≠ .folder) (call : Call)
    (acceptable : call.operation.Acceptable now.store) {profile : NetworkProfile}
    (amends : call.operation.Amends now.store (now.store.insert profile)) :
    Performed now call (now.store.commit (now.met call) profile) := by
  have works := InUse.saved_met_iff present call (now.store.insert profile).fileText
  rcases saving : (now.met call).save (now.store.insert profile).fileText with ⟨left, _ | _⟩
  · have untouched : left.profiles = (now.met call).profiles := profiles_of_unsaved saving
    rw [commit_of_unsaved saving]
    refine .unsaved acceptable ?_ untouched
    by_contra free
    simpa [saving] using works.mpr free
  · rw [commit_of_saved saving]
    refine .saved acceptable ?_ amends (profiles_of_saved saving)
    exact works.mp (by simp [saving])

/-- What the file holds has no part in how an operation ends. -/
theorem performed_of_present {now : InUse} (present : now.folder.profiles ≠ .folder)
    (call : Call) : Performed now call (now.perform call) := by
  rcases call with ⟨operation, temporary, fault⟩
  cases operation with
  | upsert profile =>
      apply performed_commit present
      · trivial
      · exact Operation.amends_upsert now.store profile
  | update id change =>
      have updates := updates_update now.store (now.met ⟨.update id change, temporary, fault⟩) id
        change
      rw [InUse.perform, Operation.commit]
      generalize now.store.update _ id change = left at updates ⊢
      cases updates with
      | unknown absent => exact .unknown rfl absent
      | refused found unfit =>
          rw [apply_eq, networkId_of_get? found, ite_eq_iff] at unfit
          rcases unfit with ⟨⟨needs, plain⟩, ⟨⟩⟩ | ⟨_, ⟨⟩⟩
          exact .unfit rfl found needs plain
      | @committed profile found applied =>
          rw [apply_eq, ite_eq_iff] at applied
          have fits := (applied.resolve_left (by simp)).1
          apply performed_commit present
          · exact ⟨profile, found, fun needs plain => fits ⟨needs, plain⟩⟩
          · exact Operation.amends_update change found

theorem performed_perform {now : InUse} (agrees : now.Agrees) (call : Call) :
    Performed now call (now.perform call) :=
  performed_of_present (profiles_ne_folder_of_ofFolder agrees) call

/-! ## How operations end -/

namespace Performed

variable {now : InUse} {call : Call} {left : Committed}

theorem not_acceptable_of_unknown {id : NetworkId} {change : Change}
    (asked : call.operation = .update id change) (absent : now.store.get? id = none) :
    ¬call.operation.Acceptable now.store := by
  rw [asked]
  rintro ⟨profile, found, -⟩
  simp [found] at absent

theorem not_acceptable_of_unfit {id : NetworkId} {change : Change} {profile : NetworkProfile}
    (asked : call.operation = .update id change) (found : now.store.get? id = some profile)
    (needs : change.needsEnterprise = true) (plain : profile.enterprise = none) :
    ¬call.operation.Acceptable now.store := by
  rw [asked]
  rintro ⟨_, found', present⟩
  cases found.symm.trans found'
  exact present needs plain

theorem kept_of_error (performed : Performed now call left) {error : Error}
    (failed : left.result = .error error) :
    left.store = now.store ∧ left.folder.profiles = now.folder.profiles := by
  cases performed with
  | unknown | unfit => exact ⟨rfl, rfl⟩
  | unsaved _ _ untouched => exact ⟨rfl, untouched⟩
  | saved => cases failed

theorem written_of_ok (performed : Performed now call left) (worked : left.result = .ok ()) :
    call.operation.Amends now.store left.store ∧
      left.folder.profiles = .file (Utf8.encodeString left.store.fileText) := by
  cases performed with
  | saved _ _ amends content => exact ⟨amends, content⟩
  | _ => cases worked

theorem ok_iff (performed : Performed now call left) :
    left.result = .ok () ↔ call.operation.Acceptable now.store ∧ ¬call.IsHindered := by
  cases performed with
  | unknown asked absent => simp [not_acceptable_of_unknown asked absent]
  | unfit asked found needs plain => simp [not_acceptable_of_unfit asked found needs plain]
  | unsaved _ hindered => simp [hindered]
  | saved acceptable free => simp [acceptable, free]

theorem unknownNetwork_iff (performed : Performed now call left) (id : NetworkId) :
    left.result = .error (.unknownNetwork id) ↔
      ∃ change, call.operation = .update id change ∧ now.store.get? id = none := by
  cases performed with
  | unknown asked absent =>
      constructor
      · rintro ⟨rfl⟩
        exact ⟨_, asked, absent⟩
      · rintro ⟨change, same, -⟩
        cases asked.symm.trans same
        rfl
  | unfit asked found =>
      constructor
      · rintro ⟨⟩
      · rintro ⟨change, same, absent⟩
        cases asked.symm.trans same
        simp [found] at absent
  | unsaved acceptable | saved acceptable =>
      constructor
      · rintro ⟨⟩
      · rintro ⟨change, same, absent⟩
        exact absurd acceptable (not_acceptable_of_unknown same absent)

theorem notEnterprise_iff (performed : Performed now call left) (id : NetworkId) :
    left.result = .error (.notEnterprise id) ↔
      ∃ change profile, call.operation = .update id change ∧ change.needsEnterprise = true ∧
        now.store.get? id = some profile ∧ profile.enterprise = none := by
  cases performed with
  | unknown asked absent =>
      constructor
      · rintro ⟨⟩
      · rintro ⟨change, profile, same, -, found, -⟩
        cases asked.symm.trans same
        simp [found] at absent
  | unfit asked found needs plain =>
      constructor
      · rintro ⟨rfl⟩
        exact ⟨_, _, asked, needs, found, plain⟩
      · rintro ⟨change, profile, same, -, -, -⟩
        cases asked.symm.trans same
        rfl
  | unsaved acceptable | saved acceptable =>
      constructor
      · rintro ⟨⟩
      · rintro ⟨change, profile, same, needs, found, plain⟩
        exact absurd acceptable (not_acceptable_of_unfit same found needs plain)

theorem io_iff (performed : Performed now call left) :
    left.result = .error .io ↔ call.operation.Acceptable now.store ∧ call.IsHindered := by
  cases performed with
  | unknown asked absent => simp [not_acceptable_of_unknown asked absent]
  | unfit asked found needs plain => simp [not_acceptable_of_unfit asked found needs plain]
  | unsaved acceptable hindered => simp [acceptable, hindered]
  | saved acceptable free => simp [free]

theorem result_ne_corrupt (performed : Performed now call left) :
    left.result ≠ .error .corrupt := by
  cases performed <;> simp

theorem folder_of_refused (performed : Performed now call left)
    (refused : ¬call.operation.Acceptable now.store) : left.folder = now.met call := by
  cases performed with
  | unknown | unfit => rfl
  | unsaved acceptable | saved acceptable => exact absurd acceptable refused

end Performed

/-- From any folder that opens, after any operations and failures, an operation counts wholly or not
at all. If it ends in an error, the profiles in memory and the file of profiles are as they were. If
not, it has written the fields that it names of the profile of its network, kept the other fields of
this profile and all other profiles, and left a file that is the written list of the profiles in
memory, in ascending order. A change ends in an unknown network just if its network is not stored,
and in a missing enterprise part just if it needs one and its network is stored without; then
nothing is written. All other errors come just from what is in the way of saving. -/
theorem operation_counts_wholly_or_not {folder : Folder} {store : Store}
    (opened : ofFolder folder = .ok store) {calls : List Call} {now : InUse}
    (reached : InUse.performAll ⟨store, folder⟩ calls = now) (call : Call) :
    let left := now.perform call
    (∀ error, left.result = .error error →
      left.store = now.store ∧ left.folder.profiles = now.folder.profiles) ∧
    (left.result = .ok () →
      call.operation.Amends now.store left.store ∧ Ordered left.store.profiles ∧
        left.folder.profiles =
          .file (Utf8.encodeString (NetworkProfile.listText left.store.profiles))) ∧
    (∀ id, left.result = .error (.unknownNetwork id) ↔
      ∃ change, call.operation = .update id change ∧ now.store.get? id = none) ∧
    (∀ id, left.result = .error (.notEnterprise id) ↔
      ∃ change profile, call.operation = .update id change ∧ change.needsEnterprise = true ∧
        now.store.get? id = some profile ∧ profile.enterprise = none) ∧
    (¬call.operation.Acceptable now.store → left.folder = now.met call) ∧
    (left.result = .error .io ↔ call.operation.Acceptable now.store ∧ call.IsHindered) ∧
    left.result ≠ .error .corrupt := by
  have agrees : now.Agrees := reached ▸ (InUse.agrees_of_opened opened).performAll calls
  have performed : Performed now call (now.perform call) := performed_perform agrees call
  intro left
  refine ⟨?kept, ?written, ?unknown, ?unfit, ?refused, ?hindered, ?readable⟩
  case kept => exact fun error failed => performed.kept_of_error failed
  case written =>
    intro worked
    obtain ⟨amends, content⟩ := performed.written_of_ok worked
    exact ⟨amends, left.store.ordered, content⟩
  case unknown => exact performed.unknownNetwork_iff
  case unfit => exact performed.notEnterprise_iff
  case refused => exact performed.folder_of_refused
  case hindered => exact performed.io_iff
  case readable => exact performed.result_ne_corrupt

/-- A certificate is pinned after troubled calls: not while the disk fails to rename, and then for
network 7, with all else kept. -/
theorem pinned_once_the_disk_works :
    let now := InUse.performAll ⟨ofList doubled, doubledFolder⟩ troubledCalls
    let pin : Operation := .update 7 (.pin ⟨[1], "CN=radius", "CN=authority"⟩)
    ofFolder doubledFolder = .ok (ofList doubled) ∧
      (now.perform { operation := pin, fault := some .rename }).result = .error .io ∧
      (now.perform { operation := pin, fault := some .rename }).store = now.store ∧
      (now.perform { operation := pin }).result = .ok () ∧
      (now.perform { operation := pin }).store.get? 3 = now.store.get? 3 := by
  intro now pin
  have opened : ofFolder doubledFolder = .ok (ofList doubled) := ofFolder_of_file rfl
  rcases operation_counts_wholly_or_not opened rfl
    { operation := pin, fault := some .rename } with ⟨kept, -⟩
  rcases operation_counts_wholly_or_not opened rfl { operation := pin } with ⟨-, written, -⟩
  exact ⟨opened, rfl, (kept .io rfl).1, rfl, (written rfl).1.others 3 (by decide)⟩

end TrustGate.Store
