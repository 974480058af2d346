import TrustGate.Proofs.ProfileForms
import TrustGate.Proofs.Utf8

/-!
# Reading profiles that were written

Every profile is read from its written form, and every list of profiles from the
text of its file: what is written is a text of the forms that leave nothing out.
No condition is put on the names and the other texts of a profile.
-/

namespace TrustGate

namespace Json

theorem isWritable_nullable {α : Type} {write : α → Json}
    (writable : ∀ value, (write value).IsWritable) (value? : Option α) :
    ((value?.map write).getD .null).IsWritable := by
  cases value? with
  | none => exact isWritable_null
  | some value => exact writable value

end Json

namespace PinnedCertificate

theorem isWritable_toJson (pinned : PinnedCertificate) : pinned.toJson.IsWritable := by
  apply Json.isWritable_ofFields
  simp [Json.isWritable_ofString]

end PinnedCertificate

namespace Enterprise

theorem isWritable_toJson (enterprise : Enterprise) : enterprise.toJson.IsWritable := by
  have authority := Json.isWritable_nullable PinnedCertificate.isWritable_toJson
    enterprise.caCertificate
  apply Json.isWritable_ofFields
  simp [EapMethod.toJson, Json.isWritable_ofString, Json.isWritable_bool, authority]

end Enterprise

namespace NetworkProfile

theorem isWritable_toJson (profile : NetworkProfile) : profile.toJson.IsWritable := by
  have enterprise := Json.isWritable_nullable Enterprise.isWritable_toJson profile.enterprise
  apply Json.isWritable_ofFields
  simp [Json.isWritable_ofNat, Json.isWritable_ofString, Json.isWritable_bool, enterprise]

/-- The profiles of a list as they are written, one after another. -/
def writtenForms (profiles : List NetworkProfile) : List Json :=
  profiles.map fun profile => profile.toJson.reread

theorem isFullForm_writtenForms (profiles : List NetworkProfile) :
    List.Forall₂ IsFullForm profiles (writtenForms profiles) := by
  rw [writtenForms, List.forall₂_map_right_iff, List.forall₂_same]
  intro profile _
  exact profile.isFullForm_reread_toJson

theorem isText_listText (profiles : List NetworkProfile) :
    (Json.array (writtenForms profiles)).IsText (listText profiles) := by
  have writable : (Json.array (profiles.map toJson)).IsWritable := by
    apply Json.isWritable_array
    simp [isWritable_toJson]
  have isText := Json.isText_pretty writable
  rwa [Json.reread, Json.rereadItems_eq_map, List.map_map] at isText

/-- A list of profiles is read from the text of its file. -/
theorem listOfText?_listText (profiles : List NetworkProfile) :
    listOfText? (listText profiles) = some profiles := by
  have older := (isFullForm_writtenForms profiles).imp fun _ _ => IsFullForm.isOlderForm
  exact listOfText?_of_isOlderForm older (isText_listText profiles)

theorem ofText?_compactText (profile : NetworkProfile) :
    ofText? profile.compactText = some profile :=
  ofText?_of_isOlderForm profile.isFullForm_reread_toJson.isOlderForm
    (Json.isText_compact profile.isWritable_toJson)

/-- The list of profiles that a store writes is read as just this list, and a profile that is
written without blanks as just this profile. So if some bytes are read as a profile, whatever their
layout is, writing the profile anew and reading that gives the same profile. -/
theorem read_as_written :
    (∀ profiles : List NetworkProfile, listOfText? (listText profiles) = some profiles) ∧
    (∀ profile : NetworkProfile, ofText? profile.compactText = some profile) ∧
    ∀ bytes : Bytes,
      ((Utf8.decodeString? bytes).bind ofText?).bind (fun profile =>
        (Utf8.decodeString? (Utf8.encodeString profile.compactText)).bind ofText?) =
      (Utf8.decodeString? bytes).bind ofText? := by
  refine ⟨listOfText?_listText, ofText?_compactText, ?_⟩
  intro bytes
  cases (Utf8.decodeString? bytes).bind ofText? with
  | none => rfl
  | some profile =>
      simp only [Option.bind_some, Utf8.decodeString?_encodeString]
      exact ofText?_compactText profile

end NetworkProfile

end TrustGate
