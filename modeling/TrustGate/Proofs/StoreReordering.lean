import Mathlib.Data.List.FinRange
import TrustGate.Proofs.StoreAtomicity

/-!
# Updates in another order

Whether an update of a stored network succeeds depends on nothing that updates
change: on the network being stored, and on its having an enterprise part. And an
update writes its own fields, to values that do not depend on what was there. So a
field ends up with what the last successful update of it wrote, and the order of
two updates matters only if both write one field of one network.

The stores of this file are those that can be reached, and saving works while the
updates are made.
-/

namespace TrustGate.Store

/-! ## Values of fields -/

abbrev Field.Value : Field → Type
  | networkId => NetworkId
  | ssid => String
  | eapMethod => EapMethod
  | caCertificate => Option PinnedCertificate
  | autoConnect | tofuEnabled | approvedWithoutCa => Bool

/-- The value of a field of a profile. Without an enterprise part there are no fields of that. -/
def Field.read? (profile : NetworkProfile) : (field : Field) → Option field.Value
  | networkId => some profile.networkId
  | ssid => some profile.ssid
  | autoConnect => some profile.autoConnect
  | eapMethod => profile.enterprise.map (·.eapMethod)
  | caCertificate => profile.enterprise.map (·.caCertificate)
  | tofuEnabled => profile.enterprise.map (·.tofuEnabled)
  | approvedWithoutCa => profile.enterprise.map (·.approvedWithoutCa)

/-- The value of a field of a network, if it is stored and has the field. -/
def value? (store : Store) (id : NetworkId) (field : Field) : Option field.Value :=
  (store.get? id).bind fun profile => field.read? profile

/-- The value that a change gives to a field, if it writes it. -/
def Change.written? : Change → (field : Field) → Option field.Value
  | .reset, .caCertificate => some none
  | .reset, .approvedWithoutCa => some false
  | .setApproved approved, .approvedWithoutCa => some approved
  | .pin certificate, .caCertificate => some (some (pinned certificate))
  | .setTofu enabled, .tofuEnabled => some enabled
  | .setAutoConnect allowed, .autoConnect => some allowed
  | _, _ => none

theorem isSome_written?_iff (change : Change) (field : Field) :
    (change.written? field).isSome ↔ field ∈ change.fields := by
  cases change <;> cases field <;> simp [Change.written?, Change.fields]

theorem read?_amend {change : Change} {profile : NetworkProfile}
    (fits : change.needsEnterprise = true → profile.enterprise ≠ none) (field : Field) :
    field.read? (change.amend profile) =
      (change.written? field).or (field.read? profile) := by
  rcases profile with ⟨networkId, ssid, autoConnect, _ | enterprise⟩
  · cases change with
    | setAutoConnect allowed => cases field <;> rfl
    | _ => exact absurd rfl (fits rfl)
  · cases change <;> cases field <;> rfl

theorem eq_of_read? {profile other : NetworkProfile}
    (same : ∀ field : Field, field.read? profile = field.read? other) : profile = other := by
  rcases profile with ⟨networkId, ssid, autoConnect, enterprise⟩
  rcases other with ⟨otherId, otherSsid, otherConnect, otherEnterprise⟩
  obtain rfl : networkId = otherId := Option.some.inj (same .networkId)
  obtain rfl : ssid = otherSsid := Option.some.inj (same .ssid)
  obtain rfl : autoConnect = otherConnect := Option.some.inj (same .autoConnect)
  have method := same .eapMethod
  have authority := same .caCertificate
  have tofu := same .tofuEnabled
  have approved := same .approvedWithoutCa
  simp only [Field.read?] at method authority tofu approved
  rcases enterprise with _ | ⟨_, _, _, _⟩ <;> rcases otherEnterprise with _ | ⟨_, _, _, _⟩ <;>
    simp_all

theorem get?_eq_of_value? {store other : Store} {id : NetworkId}
    (same : ∀ field, store.value? id field = other.value? id field) :
    store.get? id = other.get? id := by
  have number := same .networkId
  simp only [value?] at same number
  cases here : store.get? id with
  | none =>
      cases there : other.get? id with
      | none => rfl
      | some profile => simp [here, there, Field.read?] at number
  | some profile =>
      cases there : other.get? id with
      | none => simp [here, there, Field.read?] at number
      | some otherProfile =>
          have equal : profile = otherProfile := by
            apply eq_of_read?
            intro field
            simpa [here, there] using same field
          rw [equal]

/-! ## One update -/

/-- A change of a network, called while saving works. -/
structure Update where
  id : NetworkId
  change : Change
  /-- What stands in place of the temporary file by then. -/
  temporary : Entry := .missing
  free : temporary ≠ .folder := by simp

def Update.call (update : Update) : Call where
  operation := .update update.id update.change
  temporary := update.temporary

theorem Update.not_isHindered_call (update : Update) : ¬update.call.IsHindered := by
  simp [Call.IsHindered, Update.call, update.free]

def Update.verdict (store : Store) (update : Update) : Except Error Unit :=
  match store.get? update.id with
  | none => .error (.unknownNetwork update.id)
  | some profile =>
      if update.change.needsEnterprise ∧ profile.enterprise = none then
        .error (.notEnterprise update.id)
      else .ok ()

theorem Update.verdict_eq_ok_iff {store : Store} {update : Update} :
    update.verdict store = .ok () ↔ update.call.operation.Acceptable store := by
  simp only [verdict, call, Operation.Acceptable]
  cases store.get? update.id with
  | none => simp
  | some profile => simp

/-- The value that an update gives to a field of a network, if it succeeds and writes it. -/
def Update.writes? (store : Store) (id : NetworkId) (field : Field) (update : Update) :
    Option field.Value :=
  if update.id = id ∧ update.verdict store = .ok () then update.change.written? field else none

section Step

variable {now : InUse} (agrees : now.Agrees) (update : Update)
include agrees

theorem result_perform : (now.perform update.call).result = update.verdict now.store := by
  have performed := performed_perform agrees update.call
  generalize now.perform update.call = left at performed ⊢
  cases performed with
  | unknown asked absent =>
      cases asked
      simp [Update.verdict, absent]
  | unfit asked found needs plain =>
      cases asked
      simp [Update.verdict, found, needs, plain]
  | unsaved _ hindered => exact absurd hindered update.not_isHindered_call
  | saved acceptable => exact (Update.verdict_eq_ok_iff.mpr acceptable).symm

theorem fixed_perform (id : NetworkId) :
    ((now.perform update.call).store.get? id).map NetworkProfile.fixed =
      (now.store.get? id).map NetworkProfile.fixed := by
  have performed := performed_perform agrees update.call
  cases ended : (now.perform update.call).result with
  | error error => rw [(performed.kept_of_error ended).1]
  | ok =>
      have amends := (performed.written_of_ok ended).1
      by_cases own : id = update.id
      · subst own
        obtain ⟨profile, found, written, -⟩ := amends.own
        rw [written, found, Option.map_some, Option.map_some, fixed_amend]
      · rw [amends.others id own]

theorem value?_perform (id : NetworkId) (field : Field) :
    (now.perform update.call).store.value? id field =
      (update.writes? now.store id field).or (now.store.value? id field) := by
  have performed := performed_perform agrees update.call
  have judged := result_perform agrees update
  cases ended : (now.perform update.call).result with
  | error error =>
      simp [(performed.kept_of_error ended).1, Update.writes?, ← judged, ended]
  | ok =>
      have succeeded : update.verdict now.store = .ok () := judged ▸ ended
      have amends := (performed.written_of_ok ended).1
      by_cases own : update.id = id
      · subst own
        obtain ⟨profile, found, written, -⟩ := amends.own
        obtain ⟨_, found', fits⟩ := Update.verdict_eq_ok_iff.mp succeeded
        cases found.symm.trans found'
        simp [value?, written, found, Update.writes?, succeeded, read?_amend fits]
      · simp [value?, amends.others id (Ne.symm own), Update.writes?, own]

end Step

/-! ## Runs of updates -/

/-- How updates end that are made one after another. -/
def InUse.results (now : InUse) : List Update → List (Except Error Unit)
  | [] => []
  | update :: later =>
      let left := now.perform update.call
      left.result :: left.inUse.results later

def InUse.updated (now : InUse) (updates : List Update) : InUse :=
  now.performAll (updates.map Update.call)

/-- The value that the last successful update of a field wrote, if there is one. -/
def lastWritten? (id : NetworkId) (field : Field)
    (ended : List (Update × Except Error Unit)) : Option field.Value :=
  ended.reverse.findSome? fun (update, result) =>
    if update.id = id ∧ result = .ok () then update.change.written? field else none

theorem InUse.updated_concat (now : InUse) (updates : List Update) (update : Update) :
    now.updated (updates ++ [update]) = ((now.updated updates).perform update.call).inUse := by
  simp only [updated, performAll, List.map_append, List.foldl_append]
  rfl

/-- Updates do not change how others end. -/
theorem verdict_of_fixed {store other : Store}
    (same : ∀ id, (other.get? id).map NetworkProfile.fixed =
      (store.get? id).map NetworkProfile.fixed) (update : Update) :
    update.verdict other = update.verdict store := by
  have fixed := same update.id
  simp only [Update.verdict]
  cases here : store.get? update.id with
  | none =>
      rw [here, Option.map_none, Option.map_eq_none_iff] at fixed
      rw [fixed]
  | some profile =>
      rw [here, Option.map_some, Option.map_eq_some_iff] at fixed
      obtain ⟨changed, there, same⟩ := fixed
      have plain : changed.enterprise = none ↔ profile.enterprise = none := by
        have methods : changed.enterprise.map Enterprise.eapMethod =
            profile.enterprise.map Enterprise.eapMethod := congrArg (·.2.2) same
        rw [← Option.map_eq_none_iff (f := Enterprise.eapMethod), methods, Option.map_eq_none_iff]
      simp only [there, plain]

section Run

variable {now : InUse} (agrees : now.Agrees)
include agrees

theorem InUse.Agrees.updated (updates : List Update) : (now.updated updates).Agrees :=
  agrees.performAll _

theorem fixed_updated (updates : List Update) (id : NetworkId) :
    ((now.updated updates).store.get? id).map NetworkProfile.fixed =
      (now.store.get? id).map NetworkProfile.fixed := by
  induction updates using List.reverseRecOn with
  | nil => rfl
  | append_singleton updates update ih =>
      rw [InUse.updated_concat, ← ih]
      exact fixed_perform (agrees.updated updates) update id

theorem verdict_updated (updates : List Update) (update : Update) :
    update.verdict (now.updated updates).store = update.verdict now.store :=
  verdict_of_fixed (fixed_updated agrees updates) update

theorem results_eq (updates : List Update) :
    now.results updates = updates.map (·.verdict now.store) := by
  induction updates generalizing now with
  | nil => rfl
  | cons update later ih =>
      have next : (now.perform update.call).inUse.Agrees := agrees.updated [update]
      have same (other : Update) :
          other.verdict (now.perform update.call).inUse.store = other.verdict now.store :=
        verdict_updated agrees [update] other
      simp only [InUse.results, List.map_cons, result_perform agrees, ih next, same]

theorem lastWritten?_eq (updates : List Update) (id : NetworkId) (field : Field) :
    lastWritten? id field (updates.zip (now.results updates)) =
      updates.reverse.findSome? (·.writes? now.store id field) := by
  rw [results_eq agrees, ← List.map_prod_left_eq_zip, lastWritten?, ← List.map_reverse,
    List.findSome?_map]
  rfl

/-- A field has the value that was written last, or else the one that it had. -/
theorem value?_updated (updates : List Update) (id : NetworkId) (field : Field) :
    (now.updated updates).store.value? id field =
      (updates.reverse.findSome? (·.writes? now.store id field)).or
        (now.store.value? id field) := by
  -- From the end, for the last update decides before all others.
  induction updates using List.reverseRecOn with
  | nil => rfl
  | append_singleton updates update ih =>
      have last := value?_perform (agrees.updated updates) update id field
      have judged := verdict_updated agrees updates update
      rw [InUse.updated_concat, List.reverse_concat, List.findSome?_cons]
      simp only [Committed.inUse, last, Update.writes?, judged, ih]
      cases (if update.id = id ∧ update.verdict now.store = .ok () then
        update.change.written? field else none) <;> rfl

theorem profiles_updated (updates : List Update) :
    (now.updated updates).folder.profiles =
      if ∃ update ∈ updates, update.verdict now.store = .ok () then
        .file (Utf8.encodeString (now.updated updates).store.fileText)
      else now.folder.profiles := by
  induction updates using List.reverseRecOn with
  | nil => simp [InUse.updated, InUse.performAll]
  | append_singleton updates update ih =>
      have before := agrees.updated updates
      have performed := performed_perform before update.call
      have judged : ((now.updated updates).perform update.call).result =
          update.verdict now.store := by
        rw [result_perform before, verdict_updated agrees]
      rw [InUse.updated_concat]
      cases ended : ((now.updated updates).perform update.call).result with
      | ok =>
          have succeeded : ∃ other ∈ updates ++ [update], other.verdict now.store = .ok () :=
            ⟨update, by simp, judged ▸ ended⟩
          rw [if_pos succeeded]
          exact (performed.written_of_ok ended).2
      | error error =>
          obtain ⟨sameStore, sameFile⟩ := performed.kept_of_error ended
          have failed : update.verdict now.store ≠ .ok () := by simp [← judged, ended]
          simp only [Committed.inUse, sameStore, sameFile, ih, List.mem_append,
            List.mem_singleton, or_and_right, exists_or, exists_eq_left, failed, or_false]

end Run

/-! ## Reorderings -/

/-- Two updates write the same field of the same network. -/
def Update.Conflicts (first second : Update) : Prop :=
  first.id = second.id ∧ ∃ field ∈ first.change.fields, field ∈ second.change.fields

instance (first second : Update) : Decidable (first.Conflicts second) :=
  inferInstanceAs (Decidable (_ ∧ _))

/-- Another order of some updates, by their places, in which those that write the same field of the
same network come in the order that they had. -/
structure Reordering (updates : List Update) where
  places : List (Fin updates.length)
  complete : places.Perm (List.finRange updates.length)
  keeps : places.Pairwise fun first second =>
    (updates.get first).Conflicts (updates.get second) → first < second

namespace Reordering

variable {updates : List Update} (reordering : Reordering updates)

def reordered : List Update :=
  reordering.places.map updates.get

theorem mem_reordered_iff {update : Update} : update ∈ reordering.reordered ↔ update ∈ updates := by
  have same := (reordering.complete.map updates.get).mem_iff (a := update)
  rwa [List.map_get_finRange] at same

/-- Updates any two of which conflict come one after another as before. -/
theorem filter_reordered {p : Update → Bool}
    (conflicting : ∀ first second, p first → p second → first.Conflicts second) :
    reordering.reordered.filter p = updates.filter p := by
  -- Both orders list the chosen places in ascending order, and they are the same places.
  let chosen (place : Fin updates.length) : Bool := p (updates.get place)
  have ascending : (reordering.places.filter chosen).Pairwise (· < ·) := by
    refine (reordering.keeps.filter chosen).imp_of_mem ?_
    intro first second memFirst memSecond keeps
    exact keeps (conflicting _ _ (List.mem_filter.mp memFirst).2 (List.mem_filter.mp memSecond).2)
  have same : reordering.places.filter chosen = (List.finRange updates.length).filter chosen := by
    apply List.Perm.eq_of_pairwise _ ascending
    · exact (List.pairwise_lt_finRange _).filter chosen
    · exact reordering.complete.filter chosen
    · intro first second _ _ below above
      exact absurd above (lt_asymm below)
  calc reordering.reordered.filter p
      = (reordering.places.filter chosen).map updates.get := List.filter_map
    _ = ((List.finRange updates.length).filter chosen).map updates.get := by rw [same]
    _ = ((List.finRange updates.length).map updates.get).filter p := List.filter_map.symm
    _ = updates.filter p := by rw [List.map_get_finRange]

end Reordering

theorem findSome?_filter {α β : Type} {f : α → Option β} {p : α → Bool}
    (found : ∀ item, (f item).isSome → p item) (items : List α) :
    (items.filter p).findSome? f = items.findSome? f := by
  induction items with
  | nil => rfl
  | cons item items ih =>
      cases chosen : p item with
      | true => rw [List.filter_cons_of_pos chosen, List.findSome?_cons, List.findSome?_cons, ih]
      | false =>
          have absent : f item = none := by
            rw [← Option.not_isSome_iff_eq_none]
            intro present
            simp [found item present] at chosen
          rw [List.filter_cons_of_neg (by simp [chosen]), List.findSome?_cons, absent, ih]

def Update.isAbout (id : NetworkId) (field : Field) (update : Update) : Bool :=
  update.id = id ∧ field ∈ update.change.fields

/-- The last successful update of a field is the same one in both orders. -/
theorem Reordering.findSome?_writes? {updates : List Update} (reordering : Reordering updates)
    (store : Store) (id : NetworkId) (field : Field) :
    reordering.reordered.reverse.findSome? (·.writes? store id field) =
      updates.reverse.findSome? (·.writes? store id field) := by
  have about (update : Update) (writes : (update.writes? store id field).isSome) :
      update.isAbout id field := by
    unfold Update.writes? at writes
    split at writes
    · next own => simpa [Update.isAbout, own.1] using (isSome_written?_iff _ _).mp writes
    · cases writes
  have same : reordering.reordered.filter (·.isAbout id field) =
      updates.filter (·.isAbout id field) := by
    apply reordering.filter_reordered
    intro first second aboutFirst aboutSecond
    simp only [Update.isAbout, decide_eq_true_iff] at aboutFirst aboutSecond
    exact ⟨aboutFirst.1.trans aboutSecond.1.symm, field, aboutFirst.2, aboutSecond.2⟩
  rw [← findSome?_filter about, ← findSome?_filter about updates.reverse, List.filter_reverse,
    List.filter_reverse, same]

/-- From any folder that opens, after any operations and failures, let updates be made while saving
works. A field of a network has the value that the last successful update of it wrote, or else the
one that it had. Any order of the updates in which those of the same field of the same network stay
in their order gives the same result for each, the same profiles and the same file, which is the
written list of these profiles if an update succeeded. -/
theorem independent_updates_commute {folder : Folder} {store : Store}
    (opened : ofFolder folder = .ok store) {calls : List Call} {now : InUse}
    (reached : InUse.performAll ⟨store, folder⟩ calls = now) (updates : List Update)
    (reordering : Reordering updates) :
    let other := reordering.reordered
    (∀ place : Nat, (now.results other)[place]? =
      reordering.places[place]?.bind fun former => (now.results updates)[former.val]?) ∧
    (now.updated other).store = (now.updated updates).store ∧
    (now.updated other).folder.profiles = (now.updated updates).folder.profiles ∧
    (.ok () ∈ now.results updates → (now.updated updates).folder.profiles =
      .file (Utf8.encodeString (NetworkProfile.listText (now.updated updates).store.profiles))) ∧
    ∀ id field, (now.updated updates).store.value? id field =
      (lastWritten? id field (updates.zip (now.results updates))).or
        (now.store.value? id field) := by
  intro other
  have agrees : now.Agrees := reached ▸ (InUse.agrees_of_opened opened).performAll calls
  have sameStore : (now.updated other).store = (now.updated updates).store := by
    apply eq_of_get?
    intro id
    apply get?_eq_of_value?
    intro field
    rw [value?_updated agrees, value?_updated agrees, reordering.findSome?_writes?]
  refine ⟨?results, sameStore, ?file, ?text, ?last⟩
  case results =>
    intro place
    rw [results_eq agrees, results_eq agrees]
    simp only [other, Reordering.reordered, List.map_map, List.getElem?_map]
    cases reordering.places[place]? with
    | none => rfl
    | some former => simp
  case file =>
    rw [profiles_updated agrees, profiles_updated agrees, sameStore]
    simp only [other, reordering.mem_reordered_iff]
  case text =>
    intro succeeded
    rw [results_eq agrees, List.mem_map] at succeeded
    rw [profiles_updated agrees, if_pos succeeded]
    rfl
  case last =>
    intro id field
    rw [lastWritten?_eq agrees, value?_updated agrees]

/-- Updates of several networks. Only the second and the third one write the same field, and the
last two fail. -/
def mixedUpdates : List Update := [
  { id := 7, change := .setTofu true },
  { id := 7, change := .reset },
  { id := 7, change := .setApproved true },
  { id := 3, change := .setAutoConnect false },
  { id := 3, change := .reset },
  { id := 9, change := .setAutoConnect false }]

def mixedReordering : Reordering mixedUpdates where
  places := [⟨5, by decide⟩, ⟨1, by decide⟩, ⟨3, by decide⟩, ⟨4, by decide⟩, ⟨2, by decide⟩,
    ⟨0, by decide⟩]
  complete := by decide
  keeps := by decide

theorem reset_before_approval_in_both_orders :
    let now := InUse.performAll ⟨ofList doubled, doubledFolder⟩ troubledCalls
    ofFolder doubledFolder = .ok (ofList doubled) ∧
      (now.results mixedReordering.reordered)[3]? = some (.error (.notEnterprise 3)) ∧
      (now.updated mixedReordering.reordered).store = (now.updated mixedUpdates).store ∧
      (now.updated mixedUpdates).store.value? 7 .approvedWithoutCa = some true ∧
      (now.updated mixedReordering.reordered).folder.profiles =
        .file (Utf8.encodeString
          (NetworkProfile.listText (now.updated mixedUpdates).store.profiles)) := by
  intro now
  have opened : ofFolder doubledFolder = .ok (ofList doubled) := ofFolder_of_file rfl
  have agrees : now.Agrees := (InUse.agrees_of_opened opened).performAll troubledCalls
  have ended : now.results mixedUpdates = [.ok (), .ok (), .ok (), .ok (),
      .error (.notEnterprise 3), .error (.unknownNetwork 9)] := by
    rw [results_eq agrees]
    rfl
  have reached : InUse.performAll ⟨ofList doubled, doubledFolder⟩ troubledCalls = now := rfl
  rcases independent_updates_commute opened reached mixedUpdates mixedReordering with
    ⟨results, sameStore, sameFile, text, last⟩
  refine ⟨opened, ?_, sameStore, ?_, ?_⟩
  · rw [results 3]
    exact congrArg (·[4]?) ended
  · have wrote : lastWritten? 7 .approvedWithoutCa
        (mixedUpdates.zip (now.results mixedUpdates)) = some true := by
      rw [ended]
      rfl
    rw [last, wrote, Option.some_or]
  · apply sameFile.trans
    apply text
    rw [ended]
    exact List.mem_cons_self

end TrustGate.Store
