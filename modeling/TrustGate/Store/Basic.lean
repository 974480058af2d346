import TrustGate.Certificate
import TrustGate.Profile.Json
import TrustGate.Store.Folder
import TrustGate.Store.NetworkMap

/-!
# The store of profiles

The saved networks under their numbers. Every change is made in memory, saved, and
taken back from memory if saving fails. So an operation returns the folder and the
store as they are left, whether it worked or not. A store in use and the file
behind it hold the same profiles for as long as nobody else writes the file.
-/

namespace TrustGate

@[ext]
structure Store where
  map : NetworkMap NetworkProfile := {}
  /-- Every profile is kept under its own number. -/
  keyed : ∀ entry ∈ map.entries, entry.1 = entry.2.networkId := by simp
deriving Repr, DecidableEq

namespace Store

def fileName : String :=
  "networks.json"

def temporaryName : String :=
  fileName ++ ".tmp"

inductive Error
  | unknownNetwork (id : NetworkId)
  | notEnterprise (id : NetworkId)
  /-- The file cannot be read or written. -/
  | io
  /-- The file does not hold profiles. -/
  | corrupt
deriving Repr, DecidableEq

/-- The text of an error, up to what the system adds. -/
def Error.message : Error → String
  | .unknownNetwork id => "unknown network id " ++ toString id.toNat
  | .notEnterprise id => "network " ++ toString id.toNat ++ " is not an enterprise network"
  | .io => "failed to access profile store"
  | .corrupt => "corrupt profile store"

/-- The profiles in ascending order of their numbers. -/
def profiles (store : Store) : List NetworkProfile :=
  store.map.values

def get? (store : Store) (id : NetworkId) : Option NetworkProfile :=
  store.map.get? id

theorem networkId_of_get? {store : Store} {id : NetworkId} {profile : NetworkProfile}
    (found : store.get? id = some profile) : profile.networkId = id :=
  (store.keyed _ (NetworkMap.get?_eq_some_iff.mp found)).symm

/-- Keeps a profile under a number, which has to be its own. -/
def put (store : Store) (id : NetworkId) (profile : NetworkProfile)
    (own : profile.networkId = id) : Store where
  map := store.map.insert id profile
  keyed := by
    intro entry mem
    rcases (NetworkMap.mem_insertEntry_iff store.map.ascending).mp mem with rfl | ⟨_, before⟩
    · exact own.symm
    · exact store.keyed entry before

/-- Puts a profile in its place, over one with the same number. -/
def insert (store : Store) (profile : NetworkProfile) : Store :=
  store.put profile.networkId profile rfl

/-- Takes the profile of a number out. -/
def erase (store : Store) (id : NetworkId) : Store where
  map := store.map.erase id
  keyed := fun entry mem => store.keyed entry (List.mem_filter.mp mem).1

/-- The store of some profiles; of several with one number the last counts. -/
def ofList (profiles : List NetworkProfile) : Store :=
  profiles.foldl insert {}

/-- The profile of lowest number among those with a name. -/
def findBySsid? (store : Store) (ssid : String) : Option NetworkProfile :=
  store.profiles.find? (·.ssid == ssid)

/-- The store that a folder holds; it is empty if there is no file. -/
def ofFolder (folder : Folder) : Except Error Store :=
  match folder.profiles with
  | .missing => .ok {}
  | entry =>
      match entry.text? with
      | none => .error .io
      | some text =>
          match NetworkProfile.listOfText? text with
          | none => .error .corrupt
          | some profiles => .ok (ofList profiles)

def fileText (store : Store) : String :=
  NetworkProfile.listText store.profiles

/-- What an operation leaves behind, and whether it worked. -/
structure Committed where
  folder : Folder
  /-- The store in memory. -/
  store : Store
  result : Except Error Unit
deriving Repr

/-- Puts a profile in its place and saves. If saving fails, what was in its place is put back. -/
def commit (store : Store) (folder : Folder) (profile : NetworkProfile) : Committed :=
  let changed := store.insert profile
  match folder.save changed.fileText with
  | (folder, true) => ⟨folder, changed, .ok ()⟩
  | (folder, false) =>
      match found : store.get? profile.networkId with
      | some previous =>
          ⟨folder, changed.put profile.networkId previous (networkId_of_get? found), .error .io⟩
      | none => ⟨folder, changed.erase profile.networkId, .error .io⟩

/-- Adds a profile, over one with the same number, and saves. -/
def upsert (store : Store) (folder : Folder) (profile : NetworkProfile) : Committed :=
  store.commit folder profile

/-! ## Changes of trust -/

inductive Change
  /-- Forgets the authority and the approval. -/
  | reset
  | setApproved (approved : Bool)
  | pin (certificate : ServerCertificate)
  | setTofu (enabled : Bool)
  | setAutoConnect (allowed : Bool)
deriving Repr, DecidableEq

/-- What is kept of a certificate; its name is empty if the subject cannot be read. -/
def pinned (certificate : ServerCertificate) : PinnedCertificate where
  fingerprint := certificate.fingerprint
  commonName :=
    match certificate.subjectInfo with
    | .ok info => info.commonName
    | .error _ => ""
  derHex := Hex.encode certificate.der

def onEnterprise (change : Enterprise → Enterprise) (profile : NetworkProfile) :
    Except Error NetworkProfile :=
  match profile.enterprise with
  | none => .error (.notEnterprise profile.networkId)
  | some enterprise => .ok { profile with enterprise := some (change enterprise) }

/-- The changed profile. Only the permission to join alone is open to networks of all kinds. -/
def Change.apply : Change → NetworkProfile → Except Error NetworkProfile
  | .reset => onEnterprise ({ · with caCertificate := none, approvedWithoutCa := false })
  | .setApproved approved => onEnterprise ({ · with approvedWithoutCa := approved })
  | .pin certificate => onEnterprise ({ · with caCertificate := some (pinned certificate) })
  | .setTofu enabled => onEnterprise ({ · with tofuEnabled := enabled })
  | .setAutoConnect allowed => fun profile => .ok { profile with autoConnect := allowed }

/-- Changes a stored profile and saves. Nothing is written if the change cannot be made. -/
def update (store : Store) (folder : Folder) (id : NetworkId) (change : Change) : Committed :=
  match store.get? id with
  | none => ⟨folder, store, .error (.unknownNetwork id)⟩
  | some profile =>
      match change.apply profile with
      | .error error => ⟨folder, store, .error error⟩
      | .ok changed => store.commit folder changed

def hasValidTrust (store : Store) (id : NetworkId) : Bool :=
  match store.get? id with
  | some profile => (profile.enterprise.map Enterprise.hasCaCertificate).getD false
  | none => false

end Store

end TrustGate
