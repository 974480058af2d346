import TrustGate.Profile.Json
import TrustGate.Proofs.Json.Records

/-!
# The stored forms of profiles

A profile is stored as an object. Fields with a default may be left out, those
that are written may come in any order, and there may be members of other names
between them; and so in the objects inside. Such a form is read as the profile,
provided that what it leaves out has its default. The form that is written is the
one that leaves nothing out.
-/

namespace TrustGate

namespace Json

/-! ## Parts of a form -/

/-- A value that is a text, in whatever pieces. -/
inductive IsString (text : String) : Json → Prop
  | text {pieces : List StringPiece} (decoded : decodePieces pieces = some text.toList) :
      IsString text (.text pieces)

/-- A value of some form, or null where there is none. -/
inductive IsNullable {α : Type} (form : α → Json → Prop) : Option α → Json → Prop
  | null : IsNullable form none .null
  | value {value : α} {written : Json} (formed : form value written) :
      IsNullable form (some value) written

/-- What stands for a field with a default: nothing if it is left out, else a value of its form. -/
inductive IsPart (form : Json → Prop) : Bool → Option Json → Prop
  | omitted : IsPart form true none
  | written {written : Json} (formed : form written) : IsPart form false (some written)

theorem IsString.string? {text : String} {written : Json} (formed : IsString text written) :
    written.string? = some text := by
  cases formed with
  | text decoded => rw [Json.string?, decoded, Option.map_some, String.ofList_toList]

theorem IsNullable.nullable? {α : Type} {form : α → Json → Prop} {read : Json → Option α}
    {value? : Option α} {written : Json} (formed : IsNullable form value? written)
    (present : ∀ value, ¬form value .null)
    (back : ∀ value ∈ value?, ∀ written, form value written → read written = some value) :
    nullable? read written = some value? := by
  cases formed with
  | null => rfl
  | @value value written formed =>
      rw [Json.nullable?, back value rfl written formed, Option.map_some]
      rintro rfl
      exact present value formed

theorem IsPart.defaulted? {α : Type} {form : Json → Prop} {read : Json → Option α}
    {default value : α} {omitted : Bool} {part? : Option Json}
    (part : IsPart form omitted part?) (left : omitted = true → value = default)
    (back : ∀ written, form written → read written = some value) :
    defaulted? default read part? = some value := by
  cases part with
  | omitted => rw [Json.defaulted?, left rfl]
  | written formed => exact back _ formed

theorem IsPart.bool? {default value omitted : Bool} {part? : Option Json}
    (part : IsPart (· = .bool value) omitted part?) (left : omitted = true → value = default) :
    Json.defaulted? default Json.bool? part? = some value := by
  apply part.defaulted? left
  rintro _ rfl
  rfl

theorem not_isRecord_null (fields : List (String × Option Json)) : ¬IsRecord fields .null := by
  rintro ⟨⟩

end Json

/-! ## Forms -/

inductive Defaulted
  | autoConnect
  | enterprise
  | caCertificate
  | tofuEnabled
  | approvedWithoutCa
deriving DecidableEq

inductive PinnedCertificate.IsForm (pinned : PinnedCertificate) : Json → Prop
  | record {fingerprint commonName derHex written : Json}
      (isFingerprint : Json.IsString pinned.fingerprint fingerprint)
      (isCommonName : Json.IsString pinned.commonName commonName)
      (isDerHex : Json.IsString pinned.derHex derHex)
      (fields : Json.IsRecord [("fingerprint", some fingerprint), ("common_name", some commonName),
        ("der_hex", some derHex)] written) :
      IsForm pinned written

/-- The enterprise part of a profile as an object without the fields that are left out. -/
inductive Enterprise.IsForm (omitted : Defaulted → Bool) (enterprise : Enterprise) : Json → Prop
  | record {method written : Json} {authority tofu approved : Option Json}
      (isMethod : Json.IsString enterprise.eapMethod.storedName method)
      (isAuthority : Json.IsPart
        (Json.IsNullable PinnedCertificate.IsForm enterprise.caCertificate)
        (omitted .caCertificate) authority)
      (isTofu : Json.IsPart (· = .bool enterprise.tofuEnabled) (omitted .tofuEnabled) tofu)
      (isApproved : Json.IsPart (· = .bool enterprise.approvedWithoutCa)
        (omitted .approvedWithoutCa) approved)
      (fields : Json.IsRecord [("eap_method", some method), ("ca_certificate", authority),
        ("tofu_enabled", tofu), ("user_approved_no_ca_cert", approved)] written) :
      IsForm omitted enterprise written

/-- A profile as an object without the fields that are left out. -/
inductive NetworkProfile.IsForm (omitted : Defaulted → Bool) (profile : NetworkProfile) :
    Json → Prop
  | record {ssid written : Json} {autoConnect enterprise : Option Json}
      (isSsid : Json.IsString profile.ssid ssid)
      (isAutoConnect : Json.IsPart (· = .bool profile.autoConnect) (omitted .autoConnect)
        autoConnect)
      (isEnterprise : Json.IsPart (Json.IsNullable (Enterprise.IsForm omitted) profile.enterprise)
        (omitted .enterprise) enterprise)
      (fields : Json.IsRecord [("network_id", some (.ofNat profile.networkId.toNat)),
        ("ssid", some ssid), ("auto_connect", autoConnect), ("enterprise", enterprise)] written) :
      IsForm omitted profile written

/-- A field has its default in the enterprise part. -/
def Enterprise.HasDefault (enterprise : Enterprise) : Defaulted → Prop
  | .caCertificate => enterprise.caCertificate = none
  | .tofuEnabled => enterprise.tofuEnabled = false
  | .approvedWithoutCa => enterprise.approvedWithoutCa = false
  | _ => True

/-- A field has its default, or is one of the enterprise part and there is none. -/
def NetworkProfile.HasDefault (profile : NetworkProfile) : Defaulted → Prop
  | .autoConnect => profile.autoConnect = true
  | .enterprise => profile.enterprise = none
  | field => ∀ enterprise ∈ profile.enterprise, enterprise.HasDefault field

/-- A form that leaves out nothing but fields that have their default. -/
def NetworkProfile.IsOlderForm (profile : NetworkProfile) (written : Json) : Prop :=
  ∃ omitted, (∀ field, omitted field = true → profile.HasDefault field) ∧
    profile.IsForm omitted written

/-- A form that leaves nothing out. -/
def NetworkProfile.IsFullForm (profile : NetworkProfile) (written : Json) : Prop :=
  profile.IsForm (fun _ => false) written

theorem NetworkProfile.IsFullForm.isOlderForm {profile : NetworkProfile} {written : Json}
    (form : profile.IsFullForm written) : profile.IsOlderForm written :=
  ⟨fun _ => false, by simp, form⟩

/-! ## Reading forms -/

theorem EapMethod.ofJson?_of_isString {method : EapMethod} {written : Json}
    (isMethod : Json.IsString method.storedName written) : ofJson? written = some method := by
  have named : ofStoredName? method.storedName = some method := by
    cases method <;> rfl
  have read := isMethod.string?
  cases isMethod with
  | text decoded =>
      rw [ofJson?, read]
      · exact named
      · simp

theorem PinnedCertificate.ofJson?_of_isForm {pinned : PinnedCertificate} {written : Json}
    (form : pinned.IsForm written) : ofJson? written = some pinned := by
  cases form with
  | @record fingerprint commonName derHex written isFingerprint isCommonName isDerHex fields =>
      have found : written.fields? fieldNames =
          some [some fingerprint, some commonName, some derHex] :=
        Json.fields?_of_isRecord fields rfl (by decide)
      rw [ofJson?, found]
      simp [Json.required?, isFingerprint.string?, isCommonName.string?, isDerHex.string?]

section Omitting

variable {omitted : Defaulted → Bool}

theorem PinnedCertificate.not_isForm_null (pinned : PinnedCertificate) : ¬pinned.IsForm .null := by
  rintro ⟨_, _, _, fields⟩
  exact Json.not_isRecord_null _ fields

theorem Enterprise.not_isForm_null (enterprise : Enterprise) :
    ¬enterprise.IsForm omitted .null := by
  rintro ⟨_, _, _, _, fields⟩
  exact Json.not_isRecord_null _ fields

theorem Enterprise.ofJson?_of_isForm {enterprise : Enterprise} {written : Json}
    (left : ∀ field, omitted field = true → enterprise.HasDefault field)
    (form : enterprise.IsForm omitted written) : ofJson? written = some enterprise := by
  cases form with
  | @record method written authority tofu approved isMethod isAuthority isTofu isApproved fields =>
      have authorityRead : Json.defaulted? none (Json.nullable? PinnedCertificate.ofJson?)
          authority = some enterprise.caCertificate := by
        apply isAuthority.defaulted? (left .caCertificate)
        intro stored formed
        apply formed.nullable? PinnedCertificate.not_isForm_null
        intro pinned _ _ part
        exact PinnedCertificate.ofJson?_of_isForm part
      have tofuRead := isTofu.bool? (left .tofuEnabled)
      have approvedRead := isApproved.bool? (left .approvedWithoutCa)
      have found : written.fields? fieldNames = some [some method, authority, tofu, approved] :=
        Json.fields?_of_isRecord fields rfl (by decide)
      rw [ofJson?, found]
      simp [Json.required?, EapMethod.ofJson?_of_isString isMethod, authorityRead, tofuRead,
        approvedRead]

theorem NetworkId.ofJson?_ofNat (id : NetworkId) : ofJson? (.ofNat id.toNat) = some id := by
  simp [ofJson?, id.toNat_lt]

theorem NetworkProfile.HasDefault.enterprise {profile : NetworkProfile} {field : Defaulted}
    (default : profile.HasDefault field) {enterprise : Enterprise}
    (mem : enterprise ∈ profile.enterprise) : enterprise.HasDefault field := by
  cases field with
  | autoConnect | enterprise => trivial
  | _ => exact default enterprise mem

/-- A form that leaves out only fields with their defaults is read as the profile. -/
theorem NetworkProfile.ofJson?_of_isForm {profile : NetworkProfile} {written : Json}
    (left : ∀ field, omitted field = true → profile.HasDefault field)
    (form : profile.IsForm omitted written) : ofJson? written = some profile := by
  cases form with
  | @record ssid written autoConnect enterprise isSsid isAutoConnect isEnterprise fields =>
      have enterpriseRead : Json.defaulted? none (Json.nullable? Enterprise.ofJson?) enterprise =
          some profile.enterprise := by
        apply isEnterprise.defaulted? (left .enterprise)
        intro stored formed
        apply formed.nullable? Enterprise.not_isForm_null
        -- Only here is there an enterprise part whose fields can have defaults.
        intro part mem _ isPart
        refine Enterprise.ofJson?_of_isForm ?_ isPart
        intro field leftOut
        exact (left field leftOut).enterprise mem
      have autoConnectRead := isAutoConnect.bool? (left .autoConnect)
      have found : written.fields? fieldNames =
          some [some (.ofNat profile.networkId.toNat), some ssid, autoConnect, enterprise] :=
        Json.fields?_of_isRecord fields rfl (by decide)
      rw [ofJson?, found]
      simp [Json.required?, NetworkId.ofJson?_ofNat, isSsid.string?, autoConnectRead,
        enterpriseRead]

end Omitting

theorem NetworkProfile.ofJson?_of_isOlderForm {profile : NetworkProfile} {written : Json}
    (older : profile.IsOlderForm written) : ofJson? written = some profile := by
  obtain ⟨omitted, left, form⟩ := older
  exact ofJson?_of_isForm left form

theorem NetworkProfile.ofText?_of_isOlderForm {profile : NetworkProfile} {written : Json}
    {text : String} (older : profile.IsOlderForm written) (isText : written.IsText text) :
    ofText? text = some profile := by
  rw [ofText?, Json.read?_of_isText isText]
  exact ofJson?_of_isOlderForm older

theorem NetworkProfile.mapM_ofJson?_of_isOlderForm {profiles : List NetworkProfile}
    {items : List Json} (older : List.Forall₂ IsOlderForm profiles items) :
    items.mapM ofJson? = some profiles := by
  induction older with
  | nil => rfl
  | cons form _ ih =>
      rw [List.mapM_cons, ofJson?_of_isOlderForm form, ih]
      rfl

/-- A text that lists forms of profiles is read as the list of the profiles. -/
theorem NetworkProfile.listOfText?_of_isOlderForm {profiles : List NetworkProfile}
    {items : List Json} {text : String} (older : List.Forall₂ IsOlderForm profiles items)
    (isText : (Json.array items).IsText text) : listOfText? text = some profiles := by
  rw [listOfText?, Json.read?_of_isText isText]
  exact mapM_ofJson?_of_isOlderForm older

/-! ## The written form -/

namespace Json

theorem isString_reread_ofString (text : String) : IsString text (reread (ofString text)) :=
  .text (decodePieces_reread text)

theorem isNullable_reread {α : Type} {form : α → Json → Prop} {write : α → Json}
    (formed : ∀ value, form value (reread (write value))) (value? : Option α) :
    IsNullable form value? (reread ((value?.map write).getD .null)) := by
  cases value? with
  | none => exact .null
  | some value => exact .value (formed value)

end Json

theorem PinnedCertificate.isForm_reread_toJson (pinned : PinnedCertificate) :
    pinned.IsForm pinned.toJson.reread := by
  rw [toJson]
  exact .record (Json.isString_reread_ofString pinned.fingerprint)
    (Json.isString_reread_ofString pinned.commonName) (Json.isString_reread_ofString pinned.derHex)
    (Json.isRecord_reread_of_all rfl)

theorem Enterprise.isForm_reread_toJson (enterprise : Enterprise) :
    enterprise.IsForm (fun _ => false) enterprise.toJson.reread := by
  have authority := Json.isNullable_reread PinnedCertificate.isForm_reread_toJson
    enterprise.caCertificate
  rw [toJson]
  exact .record (Json.isString_reread_ofString enterprise.eapMethod.storedName)
    (.written authority) (.written rfl) (.written rfl) (Json.isRecord_reread_of_all rfl)

/-- What is written leaves nothing out. -/
theorem NetworkProfile.isFullForm_reread_toJson (profile : NetworkProfile) :
    profile.IsFullForm profile.toJson.reread := by
  have enterprise := Json.isNullable_reread Enterprise.isForm_reread_toJson profile.enterprise
  rw [toJson]
  exact .record (Json.isString_reread_ofString profile.ssid) (.written rfl) (.written enterprise)
    (Json.isRecord_reread_of_all rfl)

end TrustGate
