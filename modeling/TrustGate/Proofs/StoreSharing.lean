import Mathlib.Logic.Function.Basic
import TrustGate.Proofs.StoreAtomicity

/-!
# Stores that share a folder

Several stores in use over one folder, as when one command waits for its user
while another one runs. Each has the profiles in memory that the folder showed
when it was opened, with its own updates since. Nothing is locked and nothing is
read again, and every update writes the whole list. So the folder shows what the
store of the last update has in memory, and what others have written since that
store was opened is lost.

The records of a run tell what worked of it, and the statements about the folder
are made in terms of these. `lastKnown` is what one store knows of a network, and
`lastUpdated` what a user would expect, the last update through any store. A store
that was opened before an update through another one has missed it. As long as
only stores update that have not, the folder shows the last update.
-/

namespace TrustGate.Store

variable {Handle : Type} [DecidableEq Handle]

/-! ## Runs -/

inductive Event (Handle : Type)
  | opening (handle : Handle)
  | call (handle : Handle) (call : Call)

/-- What has worked: an opening, with the store that was read, or an update, with the network that
it was about and the value it gave to this. -/
inductive Record (Handle : Type)
  | opened (handle : Handle) (shown : Store)
  | updated (handle : Handle) (id : NetworkId) (value : Option NetworkProfile)

/-- A folder and the stores that are open on it. -/
structure Shared (Handle : Type) where
  folder : Folder
  stores : Handle → Option Store := fun _ => none
  /-- What has worked so far, from the latest on. -/
  records : List (Record Handle) := []

/-- The value that an operation gives to its network. -/
def Operation.value (store : Store) : Operation → Option NetworkProfile
  | .upsert profile => some profile
  | .update id change => (store.get? id).map change.amend

def Shared.step (now : Shared Handle) : Event Handle → Shared Handle
  | .opening handle =>
      match ofFolder now.folder with
      | .error _ => now
      | .ok shown =>
          { now with
            stores := Function.update now.stores handle (some shown)
            records := .opened handle shown :: now.records }
  | .call handle call =>
      match now.stores handle with
      | none => now
      | some store =>
          let left := InUse.perform ⟨store, now.folder⟩ call
          { folder := left.folder
            stores := Function.update now.stores handle (some left.store)
            records :=
              match left.result with
              | .error _ => now.records
              | .ok () =>
                  .updated handle call.operation.target (call.operation.value store) ::
                    now.records }

def Shared.run (now : Shared Handle) (events : List (Event Handle)) : Shared Handle :=
  events.foldl Shared.step now

theorem Shared.run_append (now : Shared Handle) (front rest : List (Event Handle)) :
    now.run (front ++ rest) = (now.run front).run rest :=
  List.foldl_append

theorem Shared.run_opening {now : Shared Handle} {shown : Store}
    (opened : ofFolder now.folder = .ok shown) (handle : Handle) (events : List (Event Handle)) :
    now.run (.opening handle :: events) =
      Shared.run
        { now with
          stores := Function.update now.stores handle (some shown)
          records := .opened handle shown :: now.records } events := by
  simp only [run, List.foldl_cons, step, opened]

/-! ## What the records tell -/

/-- The store that made the last update. -/
def lastUpdater? : List (Record Handle) → Option Handle
  | [] => none
  | .opened _ _ :: earlier => lastUpdater? earlier
  | .updated handle _ _ :: _ => some handle

/-- The value of the last update of a network through one store since this was opened, or else what
the folder showed of the network when this store was opened. -/
def lastKnown (handle : Handle) (id : NetworkId) : List (Record Handle) → Option NetworkProfile
  | [] => none
  | .opened other shown :: earlier =>
      if other = handle then shown.get? id else lastKnown handle id earlier
  | .updated other network value :: earlier =>
      if other = handle ∧ network = id then value else lastKnown handle id earlier

/-- The value of the last update of a network through any store, or else its value at the start. -/
def lastUpdated (start : Store) (id : NetworkId) : List (Record Handle) → Option NetworkProfile
  | [] => start.get? id
  | .opened _ _ :: earlier => lastUpdated start id earlier
  | .updated _ network value :: earlier =>
      if network = id then value else lastUpdated start id earlier

/-- The last update of a network was made through another store, and this one was not opened
since. -/
def Missed (handle : Handle) (id : NetworkId) : List (Record Handle) → Prop
  | [] => False
  | .opened other _ :: earlier => other ≠ handle ∧ Missed handle id earlier
  | .updated other network _ :: earlier =>
      if network = id then other ≠ handle else Missed handle id earlier

/-- No store that has missed the last update of a network has made an update after it. -/
def Heeded (id : NetworkId) : List (Record Handle) → Prop
  | [] => True
  | .opened _ _ :: earlier => Heeded id earlier
  | .updated handle network _ :: earlier =>
      network = id ∨ ¬Missed handle id earlier ∧ Heeded id earlier

/-! ## The invariant -/

theorem Operation.Amends.get?_eq {operation : Operation} {former later : Store}
    (amends : operation.Amends former later) (id : NetworkId) :
    later.get? id = if operation.target = id then operation.value former else former.get? id := by
  by_cases own : operation.target = id
  · subst own
    rw [if_pos rfl]
    cases operation with
    | upsert profile => exact amends.own
    | update id change =>
        obtain ⟨profile, found, written, -⟩ := amends.own
        simpa [target, value, found] using written
  · rw [if_neg own, amends.others id (Ne.symm own)]

/-- What holds of a store in use: its profiles are what the records tell of it, and of a network
whose last update was heeded it has this update unless it has missed it. -/
structure Knows (start : Store) (records : List (Record Handle)) (handle : Handle)
    (store : Store) : Prop where
  known (id : NetworkId) : store.get? id = lastKnown handle id records
  expected (id : NetworkId) : Heeded id records → ¬Missed handle id records →
    store.get? id = lastUpdated start id records

/-- What holds of the store that a folder shows: it is what the store of the last update knows, and
it has the last update of every network for which this was heeded. -/
structure Shows (start : Store) (records : List (Record Handle)) (shown : Store) : Prop where
  known {handle : Handle} : lastUpdater? records = some handle →
    ∀ id, shown.get? id = lastKnown handle id records
  expected (id : NetworkId) : Heeded id records → shown.get? id = lastUpdated start id records

section Steps

variable {start store shown changed : Store} {records : List (Record Handle)}
  {handle other : Handle}

theorem Shows.opened (shows : Shows start records shown) (handle : Handle) :
    Shows start (.opened handle shown :: records) shown where
  known {last} updater id := by
    by_cases same : handle = last
    · simp [lastKnown, same]
    · simpa [lastKnown, same] using shows.known updater id
  expected := shows.expected

theorem Shows.knows (shows : Shows start records shown) (handle : Handle) :
    Knows start (.opened handle shown :: records) handle shown where
  known id := by simp [lastKnown]
  expected id heeded _ := shows.expected id heeded

theorem Knows.beside_opening (knows : Knows start records handle store) (different : other ≠ handle)
    (shown : Store) : Knows start (.opened other shown :: records) handle store where
  known id := by simpa [lastKnown, different] using knows.known id
  expected id heeded current := knows.expected id heeded fun missed => current ⟨different, missed⟩

theorem Knows.beside_update (knows : Knows start records handle store) (different : other ≠ handle)
    (network : NetworkId) (value : Option NetworkProfile) :
    Knows start (.updated other network value :: records) handle store where
  known id := by simpa [lastKnown, different] using knows.known id
  expected id heeded current := by
    by_cases own : network = id
    · simp [Missed, own, different] at current
    · simp only [Missed, Heeded, own, if_false, false_or] at current heeded
      simpa [lastUpdated, own] using knows.expected id heeded.2 current

variable {operation : Operation}

/-- An update gives its value to its network, and is heeded elsewhere if nothing was missed. -/
theorem Knows.expected_update (knows : Knows start records handle store)
    (amends : operation.Amends store changed) (id : NetworkId)
    (heeded : Heeded id (.updated handle operation.target (operation.value store) :: records)) :
    changed.get? id = lastUpdated start id
      (.updated handle operation.target (operation.value store) :: records) := by
  rw [amends.get?_eq]
  by_cases own : operation.target = id
  · simp [lastUpdated, own]
  · simp only [Heeded, own, false_or] at heeded
    simpa [lastUpdated, own] using knows.expected id heeded.2 heeded.1

theorem Knows.known_update (knows : Knows start records handle store)
    (amends : operation.Amends store changed) (id : NetworkId) :
    changed.get? id = lastKnown handle id
      (.updated handle operation.target (operation.value store) :: records) := by
  simp only [amends.get?_eq, lastKnown, knows.known id, true_and]

theorem Knows.updated (knows : Knows start records handle store)
    (amends : operation.Amends store changed) :
    Knows start (.updated handle operation.target (operation.value store) :: records) handle
      changed where
  known := knows.known_update amends
  expected id heeded _ := knows.expected_update amends id heeded

/-- The folder shows what was written last, also if the store that wrote it had missed something. -/
theorem Knows.shows (knows : Knows start records handle store)
    (amends : operation.Amends store changed) :
    Shows start (.updated handle operation.target (operation.value store) :: records) changed where
  known {last} updater id := by
    obtain rfl : handle = last := Option.some.inj updater
    exact knows.known_update amends id
  expected := knows.expected_update amends

end Steps

/-- What holds of a folder and the stores that are open on it, at every point of a run. -/
structure Shared.Sound (start : Store) (now : Shared Handle) : Prop where
  knows {handle : Handle} {store : Store} : now.stores handle = some store →
    Knows start now.records handle store
  shows : ∃ shown, ofFolder now.folder = .ok shown ∧ Shows start now.records shown

theorem Shared.sound_of_opened {folder : Folder} {start : Store}
    (opened : ofFolder folder = .ok start) : Shared.Sound start ({ folder } : Shared Handle) where
  knows := by simp
  shows := ⟨start, opened, ⟨by simp [lastUpdater?], fun _ _ => rfl⟩⟩

theorem Shared.Sound.opening {start : Store} {now : Shared Handle} (sound : now.Sound start)
    (handle : Handle) : (now.step (.opening handle)).Sound start := by
  obtain ⟨shown, opened, shows⟩ := sound.shows
  simp only [Shared.step, opened]
  refine ⟨fun {other store} found => ?_, shown, opened, shows.opened handle⟩
  by_cases same : other = handle
  · subst same
    obtain rfl : shown = store := by simpa using found
    exact shows.knows other
  · simp only [Function.update_of_ne same] at found
    exact (sound.knows found).beside_opening (Ne.symm same) shown

theorem Shared.Sound.call {start : Store} {now : Shared Handle} (sound : now.Sound start)
    (handle : Handle) (call : Call) : (now.step (.call handle call)).Sound start := by
  obtain ⟨shown, opened, shows⟩ := sound.shows
  cases found : now.stores handle with
  | none => simpa only [Shared.step, found] using sound
  | some store =>
      have knows := sound.knows found
      have performed :
          Performed ⟨store, now.folder⟩ call (InUse.perform ⟨store, now.folder⟩ call) :=
        performed_of_present (profiles_ne_folder_of_ofFolder opened) call
      simp only [Shared.step, found]
      rcases ended : InUse.perform ⟨store, now.folder⟩ call with ⟨left, after, result⟩
      rw [ended] at performed
      rcases result with error | _
      · obtain rfl : after = store := (performed.kept_of_error rfl).1
        have untouched : left.profiles = now.folder.profiles := (performed.kept_of_error rfl).2
        have unchanged : Function.update now.stores handle (some after) = now.stores := by
          rw [← found, Function.update_eq_self]
        simp only [unchanged]
        exact ⟨sound.knows, shown, (ofFolder_congr untouched).trans opened, shows⟩
      · obtain ⟨amends, content⟩ := performed.written_of_ok rfl
        refine ⟨fun {other store} found => ?_, after, ?_, knows.shows amends⟩
        · by_cases same : other = handle
          · subst same
            obtain rfl : after = store := by simpa using found
            exact knows.updated amends
          · simp only [Function.update_of_ne same] at found
            exact (sound.knows found).beside_update (Ne.symm same) _ _
        · exact (ofFolder_of_file content).trans (congrArg Except.ok (ofList_profiles after))

theorem Shared.Sound.run {start : Store} {now : Shared Handle} (sound : now.Sound start)
    (events : List (Event Handle)) : (now.run events).Sound start := by
  induction events generalizing now with
  | nil => exact sound
  | cons event events ih =>
      cases event with
      | opening handle => exact ih (sound.opening handle)
      | call handle call => exact ih (sound.call handle call)

/-- From any folder that opens, whatever stores are opened on it, whatever they call and whatever
fails: the folder opens and shows what the store of the last update knows. If no store that has
missed the last update of a network made an update after it, the folder shows this last update. -/
theorem folder_shows_last_updater {folder : Folder} {start : Store}
    (opened : ofFolder folder = .ok start) (events : List (Event Handle)) :
    let now := ({ folder } : Shared Handle).run events
    ∃ shown, ofFolder now.folder = .ok shown ∧
      (∀ handle, lastUpdater? now.records = some handle →
        ∀ id, shown.get? id = lastKnown handle id now.records) ∧
      ∀ id, Heeded id now.records → shown.get? id = lastUpdated start id now.records := by
  intro now
  obtain ⟨shown, reopened, shows⟩ := ((Shared.sound_of_opened opened).run events).shows
  exact ⟨shown, reopened, fun _ => shows.known, shows.expected⟩

/-- A network with a pinned certificate. -/
def pinnedCorp : NetworkProfile where
  networkId := 7
  ssid := "corp"
  enterprise := some
    { eapMethod := .peap, caCertificate := some ⟨"ab", "radius", "01"⟩ }

def pinnedFolder : Folder where
  profiles := .file (Utf8.encodeString (NetworkProfile.listText [pinnedCorp]))

theorem ofFolder_pinnedFolder : ofFolder pinnedFolder = .ok (ofList [pinnedCorp]) :=
  ofFolder_of_file rfl

/-- A reset of the pinned network through one store. -/
def resetting : Event Bool :=
  .call false { operation := .update 7 .reset }

def guest : NetworkProfile where
  networkId := 5
  ssid := "guest"

/-- A new network put in through another store. -/
def adding : Event Bool :=
  .call true { operation := .upsert guest }

/-- One store resets, and another one that is opened after that adds. -/
def inTurn : Shared Bool :=
  Shared.run { folder := pinnedFolder } ([.opening false, resetting] ++ [.opening true, adding])

/-- Both stores are opened before the one resets and the other one adds. -/
def crossing : Shared Bool :=
  Shared.run { folder := pinnedFolder } [.opening true, .opening false, resetting, adding]

theorem records_crossing : crossing.records = [
    .updated true 5 (some guest), .updated false 7 (some (Change.reset.amend pinnedCorp)),
    .opened false (ofList [pinnedCorp]), .opened true (ofList [pinnedCorp])] := by
  rw [crossing, Shared.run_opening ofFolder_pinnedFolder, Shared.run_opening ofFolder_pinnedFolder]
  rfl

theorem records_inTurn : ∃ shown, inTurn.records = [
    .updated true 5 (some guest), .opened true shown,
    .updated false 7 (some (Change.reset.amend pinnedCorp)),
    .opened false (ofList [pinnedCorp])] := by
  obtain ⟨shown, reopened, -⟩ :=
    ((Shared.sound_of_opened ofFolder_pinnedFolder).run [.opening false, resetting]).shows
  refine ⟨shown, ?_⟩
  rw [inTurn, Shared.run_append, Shared.run_opening reopened,
    Shared.run_opening ofFolder_pinnedFolder]
  rfl

theorem reset_kept_by_later_store :
    ofFolder pinnedFolder = .ok (ofList [pinnedCorp]) ∧ Heeded 7 inTurn.records ∧
      ∃ shown, ofFolder inTurn.folder = .ok shown ∧
        shown.get? 7 = some (Change.reset.amend pinnedCorp) := by
  obtain ⟨between, records⟩ := records_inTurn
  have heeded : Heeded 7 inTurn.records := by
    rw [records]
    simp [Heeded, Missed]
  have reset : lastUpdated (ofList [pinnedCorp]) 7 inTurn.records =
      some (Change.reset.amend pinnedCorp) := by
    rw [records]
    rfl
  obtain ⟨shown, reopened, -, expected⟩ := folder_shows_last_updater ofFolder_pinnedFolder
    ([.opening false, resetting] ++ [.opening true, adding])
  exact ⟨ofFolder_pinnedFolder, heeded, shown, reopened, (expected 7 heeded).trans reset⟩

/-- The last update of network 7 reset it. The folder shows it with its certificate again, since the
store that added network 5 was opened before the reset. -/
theorem reset_lost_to_earlier_store :
    crossing.records = [
      .updated true 5 (some guest), .updated false 7 (some (Change.reset.amend pinnedCorp)),
      .opened false (ofList [pinnedCorp]), .opened true (ofList [pinnedCorp])] ∧
    ∃ shown, ofFolder crossing.folder = .ok shown ∧ shown.get? 7 = some pinnedCorp ∧
      shown.get? 7 ≠ lastUpdated (ofList [pinnedCorp]) 7 crossing.records := by
  have sound : crossing.Sound (ofList [pinnedCorp]) :=
    (Shared.sound_of_opened ofFolder_pinnedFolder).run _
  obtain ⟨shown, reopened, shows⟩ := sound.shows
  rw [records_crossing] at shows ⊢
  have kept : shown.get? 7 = some pinnedCorp := shows.known rfl 7
  exact ⟨rfl, shown, reopened, kept, by rw [kept]; decide⟩

end TrustGate.Store
