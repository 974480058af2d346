import TrustGate.Proofs.StoreAtomicity

/-!
# Files of older forms

A file may list profiles without the fields that have their defaults, in any order
and with members that nobody knows. Such a file is opened as the profiles that it
means. The first operation on it leaves the profiles of all other networks as they
were, now with every field spelled out.
-/

namespace TrustGate.Store

/-- A folder whose file lists profiles with every field spelled out. -/
def SpellsOut (folder : Folder) (profiles : List NetworkProfile) : Prop :=
  ∃ items text, List.Forall₂ NetworkProfile.IsFullForm profiles items ∧
    (Json.array items).IsText text ∧ folder.profiles = .file (Utf8.encodeString text)

theorem spellsOut_of_file {folder : Folder} {profiles : List NetworkProfile}
    (content : folder.profiles = .file (Utf8.encodeString (NetworkProfile.listText profiles))) :
    SpellsOut folder profiles :=
  ⟨_, _, NetworkProfile.isFullForm_writtenForms profiles, NetworkProfile.isText_listText profiles,
    content⟩

/-- An object that leaves out fields of a profile that have their defaults, in any order and with
any unknown members, is read as the profile, in whatever spelling and layout. A file of such objects
is opened as their profiles, of several with one number the last. Any operation that can be made
then works unless something is in the way of saving, and leaves a file with every field of every
profile spelled out, where the profiles of the other networks are those of the older file. -/
theorem older_files_keep_their_meaning :
    (∀ (profile : NetworkProfile) (written : Json) (text : String),
      profile.IsOlderForm written → written.IsText text →
        NetworkProfile.ofText? text = some profile) ∧
    ∀ (profiles : List NetworkProfile) (items : List Json) (text : String) (folder : Folder),
      List.Forall₂ NetworkProfile.IsOlderForm profiles items → (Json.array items).IsText text →
      folder.profiles = .file (Utf8.encodeString text) →
        ofFolder folder = .ok (ofList profiles) ∧
        ∀ call : Call, call.operation.Acceptable (ofList profiles) → ¬call.IsHindered →
          let left := InUse.perform ⟨ofList profiles, folder⟩ call
          left.result = .ok () ∧ SpellsOut left.folder left.store.profiles ∧
            ∀ profile, profile.networkId ≠ call.operation.target →
              (profile ∈ left.store.profiles ↔
                profiles.reverse.find? (·.networkId == profile.networkId) = some profile) := by
  refine ⟨fun _ _ _ older isText => NetworkProfile.ofText?_of_isOlderForm older isText, ?_⟩
  intro profiles items text folder older isText content
  have opened : ofFolder folder = .ok (ofList profiles) :=
    ofFolder_of_listed content (NetworkProfile.listOfText?_of_isOlderForm older isText)
  refine ⟨opened, ?_⟩
  intro call acceptable free left
  have performed := performed_perform (InUse.agrees_of_opened opened) call
  have worked : left.result = .ok () := performed.ok_iff.mpr ⟨acceptable, free⟩
  obtain ⟨amends, written⟩ := performed.written_of_ok worked
  refine ⟨worked, spellsOut_of_file written, ?_⟩
  intro profile other
  have kept : left.store.get? profile.networkId = (ofList profiles).get? profile.networkId :=
    amends.others profile.networkId other
  rw [← get?_ofList, ← kept, get?_eq_some_iff, and_iff_left rfl]

/-- A profile that differs from the defaults in the approval alone. -/
def approvedProfile : NetworkProfile where
  networkId := 7
  ssid := "corp"
  enterprise := some { eapMethod := .peap, approvedWithoutCa := true }

/-- Its enterprise part as an object in reverse order, after a member that nobody knows. -/
def approvedPart : Json :=
  .ofFields [
    ("note", .array [.null]),
    ("user_approved_no_ca_cert", .bool true),
    ("eap_method", .ofString "PEAP")]

/-- The profile as such an object. -/
def approvedObject : Json :=
  .ofFields [
    ("priority", .ofNat 3),
    ("enterprise", approvedPart),
    ("ssid", .ofString "corp"),
    ("network_id", .ofNat 7)]

def leftOut : Defaulted → Bool
  | .autoConnect | .caCertificate | .tofuEnabled => true
  | _ => false

theorem isForm_approvedPart :
    Enterprise.IsForm leftOut { eapMethod := .peap, approvedWithoutCa := true }
      approvedPart.reread := by
  have fields : Json.IsRecord [("eap_method", some (Json.ofString "PEAP").reread),
      ("ca_certificate", none), ("tofu_enabled", none),
      ("user_approved_no_ca_cert", some (.bool true))] approvedPart.reread := by
    apply Json.isRecord_reread_ofFields (List.reverse_perm _).symm
    decide
  exact .record (Json.isString_reread_ofString "PEAP") .omitted .omitted (.written rfl) fields

theorem isOlderForm_approvedObject : approvedProfile.IsOlderForm approvedObject.reread := by
  refine ⟨leftOut, ?_, ?_⟩
  · intro field out
    cases field with
    | autoConnect => rfl
    | caCertificate | tofuEnabled =>
        rintro enterprise ⟨⟩
        rfl
    | enterprise | approvedWithoutCa => cases out
  · have fields : Json.IsRecord [("network_id", some (.ofNat 7)),
        ("ssid", some (Json.ofString "corp").reread), ("auto_connect", none),
        ("enterprise", some approvedPart.reread)] approvedObject.reread := by
      apply Json.isRecord_reread_ofFields (List.reverse_perm _).symm
      decide
    exact .record (Json.isString_reread_ofString "corp") .omitted
      (.written (.value isForm_approvedPart)) fields

theorem isWritable_approvedObject : approvedObject.IsWritable := by
  have note : (Json.array [.null]).IsWritable := by
    apply Json.isWritable_array
    simp [Json.isWritable_null]
  have part : approvedPart.IsWritable := by
    apply Json.isWritable_ofFields
    simp [note, Json.isWritable_bool, Json.isWritable_ofString]
  apply Json.isWritable_ofFields
  simp [part, Json.isWritable_ofNat, Json.isWritable_ofString]

def approvedFolder : Folder where
  profiles := .file (Utf8.encodeString (String.ofList (Json.array [approvedObject]).compact))

/-- Another network is stored beside the profile of an older file. -/
theorem approval_kept_beside_new_network :
    let left := InUse.perform ⟨ofList [approvedProfile], approvedFolder⟩
      { operation := .upsert { networkId := 3, ssid := "lab" } }
    NetworkProfile.ofText? (String.ofList approvedObject.compact) = some approvedProfile ∧
      ofFolder approvedFolder = .ok (ofList [approvedProfile]) ∧ left.result = .ok () ∧
      SpellsOut left.folder left.store.profiles ∧ approvedProfile ∈ left.store.profiles := by
  intro left
  obtain ⟨single, whole⟩ := older_files_keep_their_meaning
  have listed : (Json.array [approvedObject]).IsWritable := by
    apply Json.isWritable_array
    simp [isWritable_approvedObject]
  obtain ⟨opened, saved⟩ := whole [approvedProfile] [approvedObject.reread] _ approvedFolder
    (.cons isOlderForm_approvedObject .nil) (Json.isText_compact listed) rfl
  obtain ⟨worked, spelled, others⟩ := saved
    { operation := .upsert { networkId := 3, ssid := "lab" } } trivial (by simp [Call.IsHindered])
  refine ⟨?_, opened, worked, spelled, (others approvedProfile (by decide)).mpr rfl⟩
  exact single approvedProfile _ _ isOlderForm_approvedObject
    (Json.isText_compact isWritable_approvedObject)

end TrustGate.Store
