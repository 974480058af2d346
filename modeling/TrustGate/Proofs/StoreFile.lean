import Mathlib.Data.List.Induction
import TrustGate.Proofs.Profile
import TrustGate.Proofs.Store
import TrustGate.Proofs.Utf8

/-!
# The store and its file

A store in use and the folder behind it. Operations are called one after another
on both; before each call anything may happen to the temporary file and the disk
may begin or cease to fail, but nobody else writes the file of profiles.

The invariant is that opening the folder gives just the profiles in memory. A save
that fails leaves the file as it was, and what it was to save is taken back from
memory. A save that works writes the text of the changed store, which is read back
to the same store because a store is determined by the profiles that it lists.
-/

namespace TrustGate.Store

/-! ## The profiles of a store -/

/-- Profiles in strictly ascending order of their numbers. -/
def Ordered (profiles : List NetworkProfile) : Prop :=
  profiles.Pairwise (·.networkId < ·.networkId)

theorem ordered (store : Store) : Ordered store.profiles := by
  apply List.pairwise_map.mpr
  refine store.map.ascending.imp_of_mem ?_
  intro former later memFormer memLater below
  rwa [← store.keyed former memFormer, ← store.keyed later memLater]

/-- A number is the key of the one profile that has it. -/
theorem get?_eq_some_iff {store : Store} {id : NetworkId} {profile : NetworkProfile} :
    store.get? id = some profile ↔ profile ∈ store.profiles ∧ profile.networkId = id := by
  rw [get?, NetworkMap.get?_eq_some_iff]
  constructor
  · intro mem
    exact ⟨List.mem_map_of_mem mem, (store.keyed _ mem).symm⟩
  · rintro ⟨listed, rfl⟩
    obtain ⟨⟨id, profile⟩, mem, rfl⟩ := List.mem_map.mp listed
    rwa [← store.keyed _ mem]

theorem get?_of_mem {store : Store} {profile : NetworkProfile} (mem : profile ∈ store.profiles) :
    store.get? profile.networkId = some profile :=
  get?_eq_some_iff.mpr ⟨mem, rfl⟩

theorem ofList_append (profiles : List NetworkProfile) (last : NetworkProfile) :
    ofList (profiles ++ [last]) = (ofList profiles).insert last := by
  rw [ofList, List.foldl_append]
  rfl

/-- Of several profiles with one number the last counts. -/
theorem get?_ofList (profiles : List NetworkProfile) (id : NetworkId) :
    (ofList profiles).get? id = profiles.reverse.find? (·.networkId == id) := by
  -- From the end, for the last profile is the last to be put in.
  induction profiles using List.reverseRecOn with
  | nil => rfl
  | append_singleton profiles last ih =>
      rw [ofList_append, get?_insert, ih, List.reverse_concat, List.find?_cons]
      by_cases sought : last.networkId = id
      · simp [sought]
      · have passed : (last.networkId == id) = false := beq_eq_false_iff_ne.mpr sought
        rw [if_neg sought, passed]

/-- The profiles that a store lists make the same store again. -/
theorem ofList_profiles (store : Store) : ofList store.profiles = store := by
  apply eq_of_get?
  intro id
  rw [get?_ofList]
  cases found : store.profiles.reverse.find? (·.networkId == id) with
  | none =>
      symm
      apply Option.eq_none_iff_forall_ne_some.mpr
      intro profile kept
      obtain ⟨mem, own⟩ := get?_eq_some_iff.mp kept
      have passed := List.find?_eq_none.mp found profile (List.mem_reverse.mpr mem)
      exact passed (beq_iff_eq.mpr own)
  | some profile =>
      have mem := List.mem_reverse.mp (List.mem_of_find?_eq_some found)
      have own : profile.networkId = id := by simpa using List.find?_some found
      exact (get?_eq_some_iff.mpr ⟨mem, own⟩).symm

/-! ## Opening and saving -/

theorem ofFolder_of_listed {folder : Folder} {text : String} {profiles : List NetworkProfile}
    (content : folder.profiles = .file (Utf8.encodeString text))
    (listed : NetworkProfile.listOfText? text = some profiles) :
    ofFolder folder = .ok (ofList profiles) := by
  simp only [ofFolder, content, Entry.text?, Utf8.decodeString?_encodeString, listed]

theorem ofFolder_of_file {folder : Folder} {profiles : List NetworkProfile}
    (content : folder.profiles = .file (Utf8.encodeString (NetworkProfile.listText profiles))) :
    ofFolder folder = .ok (ofList profiles) :=
  ofFolder_of_listed content (NetworkProfile.listOfText?_listText profiles)

/-- A store that could be opened is empty, or made of the profiles that the file lists. -/
theorem eq_of_ofFolder {folder : Folder} {store : Store} (opened : ofFolder folder = .ok store) :
    folder.profiles = .missing ∧ store = {} ∨
      ∃ text profiles, folder.profiles.text? = some text ∧
        NetworkProfile.listOfText? text = some profiles ∧ store = ofList profiles := by
  unfold ofFolder at opened
  split at opened
  · next missing =>
      cases opened
      exact .inl ⟨missing, rfl⟩
  · split at opened
    · cases opened
    · next text readable =>
        split at opened
        · cases opened
        · next profiles listed =>
            cases opened
            exact .inr ⟨text, profiles, readable, listed, rfl⟩

/-- Opening looks at nothing but the file of profiles. -/
theorem ofFolder_congr {folder other : Folder} (same : folder.profiles = other.profiles) :
    ofFolder folder = ofFolder other := by
  rw [ofFolder, ofFolder, same]

theorem profiles_of_saved {folder left : Folder} {text : String}
    (saved : folder.save text = (left, true)) :
    left.profiles = .file (Utf8.encodeString text) := by
  unfold Folder.save at saved
  split at saved
  · cases saved
  · next written wrote =>
      split at saved
      · cases saved
      · next renamed moved =>
          cases saved
          unfold Folder.writeTemporary? at wrote
          unfold Folder.rename? at moved
          split at wrote <;> cases wrote
          split at moved <;> cases moved
          rfl

theorem profiles_of_unsaved {folder left : Folder} {text : String}
    (failed : folder.save text = (left, false)) : left.profiles = folder.profiles := by
  unfold Folder.save at failed
  split at failed
  · cases failed
    rfl
  · next written wrote =>
      unfold Folder.writeTemporary? at wrote
      split at wrote <;> cases wrote
      split at failed <;> cases failed
      rfl

/-! ## Stores in use -/

/-- An operation that changes a store. -/
inductive Operation
  | upsert (profile : NetworkProfile)
  | update (id : NetworkId) (change : Change)

/-- Performs an operation on a store in memory and on its folder. -/
def Operation.commit : Operation → Store → Folder → Committed
  | .upsert profile, store, folder => store.upsert folder profile
  | .update id change, store, folder => store.update folder id change

/-- A call of an operation, with what the disk is like by then: what stands in place of the
temporary file, and the step of saving that fails. -/
structure Call where
  operation : Operation
  temporary : Entry := .missing
  fault : Option SaveStep := none

/-- A store in use, and the folder behind it. -/
structure InUse where
  store : Store
  folder : Folder

/-- The folder by the time of a call. -/
def InUse.met (now : InUse) (call : Call) : Folder :=
  { now.folder with temporary := call.temporary, fault := call.fault }

def InUse.perform (now : InUse) (call : Call) : Committed :=
  call.operation.commit now.store (now.met call)

/-- The store in memory and the folder that an operation leaves behind, whether it worked or not. -/
def Committed.inUse (left : Committed) : InUse :=
  ⟨left.store, left.folder⟩

/-- Performs operations one after another. -/
def InUse.performAll (now : InUse) (calls : List Call) : InUse :=
  calls.foldl (fun now call => (now.perform call).inUse) now

/-- What may come of an operation: the store with one profile put in and saved, or a failure that
leaves the store and the file as they were. -/
inductive ComesTo (store : Store) (folder : Folder) : Committed → Prop
  | saved {left : Folder} {profile : NetworkProfile}
      (content : left.profiles = .file (Utf8.encodeString (store.insert profile).fileText)) :
      ComesTo store folder ⟨left, store.insert profile, .ok ()⟩
  | failed {left : Folder} {error : Error} (untouched : left.profiles = folder.profiles) :
      ComesTo store folder ⟨left, store, .error error⟩

theorem comesTo_commit (store : Store) (folder : Folder) (profile : NetworkProfile) :
    ComesTo store folder (store.commit folder profile) := by
  rcases saving : folder.save (store.insert profile).fileText with ⟨left, _ | _⟩
  · rw [commit_of_unsaved saving]
    exact .failed (profiles_of_unsaved saving)
  · rw [commit_of_saved saving]
    exact .saved (profiles_of_saved saving)

theorem Operation.comesTo_commit (operation : Operation) (store : Store) (folder : Folder) :
    ComesTo store folder (operation.commit store folder) := by
  cases operation with
  | upsert profile => exact Store.comesTo_commit store folder profile
  | update id change =>
      have updates := updates_update store folder id change
      rw [Operation.commit]
      generalize store.update folder id change = left at updates ⊢
      cases updates with
      | unknown | refused => exact .failed rfl
      | committed => exact Store.comesTo_commit store folder _

/-- Opening the folder gives what is in memory. -/
def InUse.Agrees (now : InUse) : Prop :=
  ofFolder now.folder = .ok now.store

theorem InUse.agrees_of_opened {folder : Folder} {store : Store}
    (opened : ofFolder folder = .ok store) : InUse.Agrees ⟨store, folder⟩ :=
  opened

theorem InUse.Agrees.perform {now : InUse} (agrees : now.Agrees) (call : Call) :
    (now.perform call).inUse.Agrees := by
  have comes := call.operation.comesTo_commit now.store (now.met call)
  rw [InUse.perform]
  generalize call.operation.commit now.store (now.met call) = left at comes ⊢
  cases comes with
  | saved content => exact (ofFolder_of_file content).trans (congrArg Except.ok (ofList_profiles _))
  | failed untouched => exact (ofFolder_congr untouched).trans agrees

theorem InUse.Agrees.performAll {now : InUse} (agrees : now.Agrees) (calls : List Call) :
    (now.performAll calls).Agrees := by
  induction calls generalizing now with
  | nil => exact agrees
  | cons call calls ih => exact ih (agrees.perform call)

/-- From any folder that opens, whatever is called and whatever fails: every profile is kept under
its own number, the profiles are in strictly ascending order, and opening the folder again gives
exactly what is in memory. Of several profiles that the first file lists under one number, the last
is the one that was read. -/
theorem file_and_memory_agree {folder : Folder} {store : Store}
    (opened : ofFolder folder = .ok store) {calls : List Call} {now : InUse}
    (reached : InUse.performAll ⟨store, folder⟩ calls = now) :
    (∀ entry ∈ now.store.map.entries, entry.1 = entry.2.networkId) ∧
      now.store.profiles.Pairwise (·.networkId < ·.networkId) ∧
      (∀ id profile, now.store.get? id = some profile ↔
        profile ∈ now.store.profiles ∧ profile.networkId = id) ∧
      ofFolder now.folder = .ok now.store ∧
      ∀ text profiles, folder.profiles.text? = some text →
        NetworkProfile.listOfText? text = some profiles →
          ∀ id, store.get? id = profiles.reverse.find? (·.networkId == id) := by
  have agrees : now.Agrees := reached ▸ (InUse.agrees_of_opened opened).performAll calls
  refine ⟨now.store.keyed, now.store.ordered, fun id profile => get?_eq_some_iff, agrees, ?_⟩
  intro text profiles readable listed id
  rcases eq_of_ofFolder opened with ⟨missing, -⟩ | ⟨_, _, readable', listed', rfl⟩
  · rw [missing] at readable
    cases readable
  · cases readable.symm.trans readable'
    cases listed.symm.trans listed'
    exact get?_ofList profiles id

/-- A list that has network 7 twice. -/
def doubled : List NetworkProfile := [
  { networkId := 7, ssid := "old" },
  { networkId := 3, ssid := "lab" },
  { networkId := 7, ssid := "corp", enterprise := some { eapMethod := .peap } }]

/-- A folder whose file holds that list. -/
def doubledFolder : Folder where
  profiles := .file (Utf8.encodeString (NetworkProfile.listText doubled))

/-- A call that works among three that fail, each in its own way. -/
def troubledCalls : List Call := [
  { operation := .update 7 (.setTofu true), fault := some .rename },
  { operation := .update 7 (.setApproved true) },
  { operation := .update 3 .reset },
  { operation := .upsert { networkId := 5, ssid := "new" }, temporary := .folder }]

theorem reopened_after_failed_writes :
    let now := InUse.performAll ⟨ofList doubled, doubledFolder⟩ troubledCalls
    ofFolder doubledFolder = .ok (ofList doubled) ∧
      now.store.map.entries = [
        (3, { networkId := 3, ssid := "lab" }),
        (7, { networkId := 7, ssid := "corp",
              enterprise := some { eapMethod := .peap, approvedWithoutCa := true } })] ∧
      ofFolder now.folder = .ok now.store := by
  intro now
  have opened : ofFolder doubledFolder = .ok (ofList doubled) := ofFolder_of_file rfl
  obtain ⟨-, -, -, reopens, -⟩ := @file_and_memory_agree _ _ opened troubledCalls now rfl
  exact ⟨opened, rfl, reopens⟩

end TrustGate.Store
