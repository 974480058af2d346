import TrustGate.Commands
import TrustGate.Proofs.Decimal
import TrustGate.Proofs.StoreAtomicity

/-!
# Addressing networks

Which network an argument means. An argument that spells the number of a stored network
means this network, whatever the networks are called. Any other argument is a name, and
of the networks of that name it means the one of lowest number, since the profiles are
in ascending order and the first one is taken. So every stored network can be addressed,
if need be by its number.

A reset finds its network in this way and changes no other one. What it returns is what
is in memory and in the folder afterwards, saving having failed or not.
-/

namespace TrustGate

/-! ## Numbers of networks -/

/-- A text spells a number: in decimal digits, behind any zeros, and perhaps with a plus sign. -/
def NetworkId.IsSpelledBy (id : NetworkId) (argument : String) : Prop :=
  ∃ sign zeros, (sign = "" ∨ sign = "+") ∧
    argument = sign ++ String.ofList (List.replicate zeros '0') ++ toString id.toNat

theorem NetworkId.isSpelledBy_toString (id : NetworkId) : id.IsSpelledBy (toString id.toNat) :=
  ⟨"", 0, .inl rfl, by simp⟩

theorem NetworkId.isSpelledBy_iff {id : NetworkId} {argument : String} :
    id.IsSpelledBy argument ↔ Text.natural? argument.toList = some id.toNat := by
  rw [Text.natural?_eq_some_iff]
  constructor
  · rintro ⟨sign, zeros, optional, rfl⟩
    refine ⟨sign.toList, zeros, ?_, by simp⟩
    rcases optional with rfl | rfl
    · exact .inl rfl
    · exact .inr rfl
  · rintro ⟨sign, zeros, optional, spelled⟩
    refine ⟨String.ofList sign, zeros, ?_, ?_⟩
    · rcases optional with rfl | rfl
      · exact .inl rfl
      · exact .inr rfl
    · apply String.toList_injective
      simp [spelled]

theorem NetworkId.ofArgument?_eq_some_iff {id : NetworkId} {argument : String} :
    ofArgument? argument = some id ↔ id.IsSpelledBy argument := by
  rw [isSpelledBy_iff]
  constructor
  · intro read
    obtain ⟨number, spelled, fits⟩ := Option.bind_eq_some_iff.mp read
    split at fits
    · next below =>
        obtain rfl := Option.some.inj fits
        rwa [UInt32.toNat_ofNat_of_lt' below]
    · cases fits
  · intro spelled
    simp [ofArgument?, spelled, id.toNat_lt_size]

namespace Store

variable {store : Store} {argument : String} {profile : NetworkProfile}

/-! ## Networks found -/

theorem findBySsid?_eq_none_iff :
    store.findBySsid? argument = none ↔ ∀ other ∈ store.profiles, other.ssid ≠ argument := by
  simp [findBySsid?, List.find?_eq_none]

theorem lowest_of_findBySsid? (found : store.findBySsid? argument = some profile) :
    ∀ other ∈ store.profiles, other.ssid = argument → profile.networkId ≤ other.networkId := by
  obtain ⟨-, before, after, cut, passed⟩ := List.find?_eq_some_iff_append.mp found
  have ordered := store.ordered
  rw [Ordered, cut] at ordered
  obtain ⟨-, rest, -⟩ := List.pairwise_append.mp ordered
  intro other mem named
  rw [cut] at mem
  rcases List.mem_append.mp mem with earlier | later
  · have otherwise := passed other earlier
    simp [named] at otherwise
  · rcases List.mem_cons.mp later with rfl | above
    · exact UInt32.le_refl _
    · apply UInt32.le_of_lt
      exact (List.pairwise_cons.mp rest).1 other above

/-- Of the networks of one name the one of lowest number is found. -/
theorem findBySsid?_eq_some_iff :
    store.findBySsid? argument = some profile ↔
      profile ∈ store.profiles ∧ profile.ssid = argument ∧
        ∀ other ∈ store.profiles, other.ssid = argument → profile.networkId ≤ other.networkId := by
  constructor
  · intro found
    have named : profile.ssid = argument := by simpa using List.find?_some found
    exact ⟨List.mem_of_find?_eq_some found, named, lowest_of_findBySsid? found⟩
  · rintro ⟨mem, named, lowest⟩
    cases found : store.findBySsid? argument with
    | none => exact absurd named (findBySsid?_eq_none_iff.mp found profile mem)
    | some first =>
        have firstMem : first ∈ store.profiles := List.mem_of_find?_eq_some found
        have firstNamed : first.ssid = argument := by simpa using List.find?_some found
        have same : first.networkId = profile.networkId := by
          apply UInt32.le_antisymm
          · exact lowest_of_findBySsid? found profile mem named
          · exact lowest first firstMem firstNamed
        have here := get?_of_mem mem
        rwa [← same, get?_of_mem firstMem] at here

/-! ## Networks meant -/

theorem resolve?_of_number (mem : profile ∈ store.profiles)
    (spelled : profile.networkId.IsSpelledBy argument) :
    store.resolve? argument = some profile := by
  have number := NetworkId.ofArgument?_eq_some_iff.mpr spelled
  rw [resolve?, number, Option.bind_some, get?_of_mem mem, Option.some_or]

/-- The profile that an argument finds is stored under its own number. -/
theorem get?_of_resolve? (resolved : store.resolve? argument = some profile) :
    store.get? profile.networkId = some profile := by
  rcases Option.or_eq_some_iff.mp resolved with numbered | ⟨-, named⟩
  · rcases Option.bind_eq_some_iff.mp numbered with ⟨id, -, found⟩
    rwa [networkId_of_get? found]
  · exact get?_of_mem (List.mem_of_find?_eq_some named)

theorem resolve?_of_unnumbered
    (unnumbered : ∀ other ∈ store.profiles, ¬other.networkId.IsSpelledBy argument) :
    store.resolve? argument = store.findBySsid? argument := by
  have none : (NetworkId.ofArgument? argument).bind store.get? = none := by
    rw [Option.bind_eq_none_iff]
    intro id number
    apply Option.eq_none_iff_forall_ne_some.mpr
    intro other found
    obtain ⟨mem, rfl⟩ := get?_eq_some_iff.mp found
    exact unnumbered other mem (NetworkId.ofArgument?_eq_some_iff.mp number)
  rw [resolve?, none, Option.none_or]

theorem resolve?_eq_none_iff :
    store.resolve? argument = none ↔
      ∀ other ∈ store.profiles, ¬other.networkId.IsSpelledBy argument ∧ other.ssid ≠ argument := by
  constructor
  · intro unresolved
    have unnumbered : ∀ other ∈ store.profiles, ¬other.networkId.IsSpelledBy argument := by
      intro other mem spelled
      simp [resolve?_of_number mem spelled] at unresolved
    rw [resolve?_of_unnumbered unnumbered] at unresolved
    intro other mem
    exact ⟨unnumbered other mem, findBySsid?_eq_none_iff.mp unresolved other mem⟩
  · intro unmeant
    rw [resolve?_of_unnumbered fun other mem => (unmeant other mem).1]
    exact findBySsid?_eq_none_iff.mpr fun other mem => (unmeant other mem).2

theorem resolve_eq_ok_iff : store.resolve argument = .ok profile ↔
    store.resolve? argument = some profile := by
  rw [resolve]
  cases store.resolve? argument <;> simp

theorem resolve_eq_error_iff {error : CommandError} : store.resolve argument = .error error ↔
    store.resolve? argument = none ∧ error = .unknownNetwork argument := by
  rw [resolve]
  cases store.resolve? argument <;> simp [eq_comm]

/-! ## Resets -/

/-- A profile that takes the place of another one changes nothing else in the list. -/
theorem profiles_insert_of_get? {former later : NetworkProfile}
    (found : store.get? later.networkId = some former) :
    (store.insert later).profiles =
      store.profiles.map fun other =>
        if other.networkId = later.networkId then later else other := by
  have entries : (store.insert later).map.entries = _ :=
    NetworkMap.insertEntry_eq_map store.map.ascending (NetworkMap.get?_eq_some_iff.mp found)
  rw [profiles, NetworkMap.values, entries, profiles, NetworkMap.values, List.map_map, List.map_map]
  apply List.map_congr_left
  intro entry mem
  simp only [Function.comp_apply, ← store.keyed entry mem]
  split <;> rfl

/-- The call that a reset of a network makes, with what the disk is like by then. -/
def resetCall (id : NetworkId) (temporary : Entry) (fault : Option SaveStep) : Call where
  operation := .update id .reset
  temporary := temporary
  fault := fault

theorem reset_of_resolved {now : InUse} (resolved : now.store.resolve argument = .ok profile)
    (temporary : Entry) (fault : Option SaveStep) :
    let left := now.perform (resetCall profile.networkId temporary fault)
    Commands.reset now.store { now.folder with temporary, fault } argument =
      ⟨(left.result.map fun _ => "Cleared trust decisions for " ++ profile.ssid ++ "\n").mapError
        .store, left.store, left.folder⟩ := by
  rw [Commands.reset, resolved]
  rfl

theorem reset_of_unresolved {error : CommandError}
    (unresolved : store.resolve argument = .error error) (folder : Folder) :
    Commands.reset store folder argument = ⟨.error error, store, folder⟩ := by
  rw [Commands.reset, unresolved]

/-- The ways in which a reset ends. It fails and leaves the profiles and the file of profiles as
they were, or it clears the authority and the approval of the network that is meant, keeps all else
in memory, and has saved this. -/
inductive ResetEnds (now : InUse) (argument : String) (hindered : Prop) : CommandResult → Prop
  | unknown {left : Folder}
      (unmeant : now.store.resolve argument = .error (.unknownNetwork argument))
      (untouched : left.profiles = now.folder.profiles) :
      ResetEnds now argument hindered ⟨.error (.unknownNetwork argument), now.store, left⟩
  | unfit {left : Folder} {profile : NetworkProfile}
      (meant : now.store.resolve argument = .ok profile) (plain : profile.enterprise = none)
      (untouched : left.profiles = now.folder.profiles) :
      ResetEnds now argument hindered
        ⟨.error (.store (.notEnterprise profile.networkId)), now.store, left⟩
  | unsaved {left : Folder} {profile : NetworkProfile} {enterprise : Enterprise}
      (meant : now.store.resolve argument = .ok profile)
      (present : profile.enterprise = some enterprise) (blocked : hindered)
      (untouched : left.profiles = now.folder.profiles) :
      ResetEnds now argument hindered ⟨.error (.store .io), now.store, left⟩
  | cleared {left : Folder} {profile : NetworkProfile} {enterprise : Enterprise} {changed : Store}
      (meant : now.store.resolve argument = .ok profile)
      (present : profile.enterprise = some enterprise) (free : ¬hindered)
      (cleared : changed.profiles = now.store.profiles.map fun other =>
        if other.networkId = profile.networkId then
          { profile with
            enterprise := some
              { enterprise with caCertificate := none, approvedWithoutCa := false } }
        else other)
      (saved : left.profiles =
        .file (Utf8.encodeString (NetworkProfile.listText changed.profiles))) :
      ResetEnds now argument hindered
        ⟨.ok ("Cleared trust decisions for " ++ profile.ssid ++ "\n"), changed, left⟩

theorem profiles_of_reset {folder : Folder}
    (stored : store.get? profile.networkId = some profile)
    (updated : (store.update folder profile.networkId .reset).result = .ok ()) :
    (store.update folder profile.networkId .reset).store.profiles =
      store.profiles.map fun other =>
        if other.networkId = profile.networkId then Change.reset.amend profile else other := by
  obtain ⟨found, same, -, changed⟩ := exists_insert_of_update updated
  obtain rfl : profile = found := Option.some.inj (stored.symm.trans same)
  have own := networkId_amend .reset profile
  rw [changed, profiles_insert_of_get? (own.symm ▸ stored), own]

theorem resetEnds_reset {now : InUse} (agrees : now.Agrees) (argument : String) (temporary : Entry)
    (fault : Option SaveStep) :
    ResetEnds now argument (fault ≠ none ∨ temporary = .folder)
      (Commands.reset now.store { now.folder with temporary, fault } argument) := by
  cases resolved : now.store.resolve argument with
  | error error =>
      obtain ⟨-, rfl⟩ := resolve_eq_error_iff.mp resolved
      rw [reset_of_unresolved resolved]
      exact .unknown resolved rfl
  | ok profile =>
      have stored := get?_of_resolve? (resolve_eq_ok_iff.mp resolved)
      have performed := performed_perform agrees (resetCall profile.networkId temporary fault)
      have listed : (now.perform (resetCall profile.networkId temporary fault)).result = .ok () →
          (now.perform (resetCall profile.networkId temporary fault)).store.profiles =
            now.store.profiles.map fun other =>
              if other.networkId = profile.networkId then Change.reset.amend profile else other :=
        profiles_of_reset stored
      rw [reset_of_resolved resolved]
      generalize now.perform (resetCall profile.networkId temporary fault) = left
        at performed listed ⊢
      cases performed with
      | unknown asked absent =>
          cases asked
          simp [stored] at absent
      | unfit asked found _ plain =>
          cases asked
          obtain rfl := Option.some.inj (stored.symm.trans found)
          exact .unfit resolved plain rfl
      | unsaved acceptable hindered untouched =>
          obtain ⟨found, same, fit⟩ := acceptable
          obtain rfl := Option.some.inj (stored.symm.trans same)
          obtain ⟨enterprise, present⟩ := Option.ne_none_iff_exists'.mp (fit rfl)
          exact .unsaved resolved present hindered untouched
      | saved acceptable free amends content =>
          obtain ⟨found, same, fit⟩ := acceptable
          obtain rfl := Option.some.inj (stored.symm.trans same)
          obtain ⟨enterprise, present⟩ := Option.ne_none_iff_exists'.mp (fit rfl)
          have cleared := listed rfl
          simp only [Change.amend, NetworkProfile.mapEnterprise, present,
            Option.map_some] at cleared
          exact .cleared resolved present free cleared content

/-! ## Every network addressed -/

/-- From any folder that opens, after any operations and failures: a stored profile is found by its
number in any spelling, in particular in decimal digits. An argument that spells no stored number is
a name, and finds the profile of lowest number with this name. It finds none just if no profile has
the number or the name. And a reset of any argument, whatever the disk is like by then, leaves in
memory and in the folder what `ResetEnds` says. -/
theorem addressed_and_reset_alone {folder : Folder} {opened : Store}
    (opens : ofFolder folder = .ok opened) {calls : List Call} {now : InUse}
    (reached : InUse.performAll ⟨opened, folder⟩ calls = now) :
    (∀ profile ∈ now.store.profiles,
      now.store.resolve (toString profile.networkId.toNat) = .ok profile) ∧
    (∀ argument, ∀ profile ∈ now.store.profiles, profile.networkId.IsSpelledBy argument →
      now.store.resolve argument = .ok profile) ∧
    (∀ argument, (∀ other ∈ now.store.profiles, ¬other.networkId.IsSpelledBy argument) →
      ∀ profile, now.store.resolve argument = .ok profile ↔
        profile ∈ now.store.profiles ∧ profile.ssid = argument ∧
          ∀ other ∈ now.store.profiles, other.ssid = argument →
            profile.networkId ≤ other.networkId) ∧
    (∀ argument error, now.store.resolve argument = .error error ↔
      error = .unknownNetwork argument ∧ ∀ other ∈ now.store.profiles,
        ¬other.networkId.IsSpelledBy argument ∧ other.ssid ≠ argument) ∧
    ∀ argument temporary fault,
      let result := Commands.reset now.store { now.folder with temporary, fault } argument
      ResetEnds now argument (fault ≠ none ∨ temporary = .folder) result ∧
        ∀ profile, now.store.resolve argument = .ok profile →
          (now.perform (resetCall profile.networkId temporary fault)).inUse =
            ⟨result.store, result.folder⟩ := by
  have agrees : now.Agrees := reached ▸ (InUse.agrees_of_opened opens).performAll calls
  refine ⟨?decimal, ?spelled, ?named, ?failed, ?reset⟩
  case decimal =>
    intro profile mem
    apply resolve_eq_ok_iff.mpr
    exact resolve?_of_number mem profile.networkId.isSpelledBy_toString
  case spelled =>
    intro argument profile mem spelled
    exact resolve_eq_ok_iff.mpr (resolve?_of_number mem spelled)
  case named =>
    intro argument unnumbered profile
    rw [resolve_eq_ok_iff, resolve?_of_unnumbered unnumbered]
    exact findBySsid?_eq_some_iff
  case failed =>
    intro argument error
    rw [resolve_eq_error_iff, resolve?_eq_none_iff]
    exact and_comm
  case reset =>
    intro argument temporary fault result
    refine ⟨resetEnds_reset agrees argument temporary fault, ?_⟩
    intro profile resolved
    have returned : result = _ := reset_of_resolved resolved temporary fault
    rw [returned]
    rfl

/-- A network with an authority, whose user has approved it too. -/
def trustedNetwork : NetworkProfile where
  networkId := 7
  ssid := "corp"
  enterprise := some {
    eapMethod := .peap
    caCertificate := some ⟨"00", "radius", "01"⟩
    tofuEnabled := true
    approvedWithoutCa := true }

/-- Networks whose names look like numbers, and another one of the name of the trusted network. -/
def lookalikes : List NetworkProfile := [
  { networkId := 9, ssid := "corp", enterprise := some { eapMethod := .tls } },
  trustedNetwork,
  { networkId := 3, ssid := "7" },
  { networkId := 5, ssid := "+007" }]

def lookalikesFolder : Folder where
  profiles := .file (Utf8.encodeString (NetworkProfile.listText lookalikes))

/-- The trusted network is meant by its number in any spelling and, since it has the lower number,
by its name. The other network of this name is approved meanwhile, and a reset leaves it as it
is. -/
theorem first_of_two_names_reset :
    let approve : Call := { operation := .update 9 (.setApproved true) }
    let now := InUse.performAll ⟨ofList lookalikes, lookalikesFolder⟩ [approve]
    let reset := Commands.reset now.store { now.folder with temporary := .missing, fault := none }
      "corp"
    ofFolder lookalikesFolder = .ok (ofList lookalikes) ∧
      now.store.resolve "7" = .ok trustedNetwork ∧
      now.store.resolve "+007" = .ok trustedNetwork ∧
      now.store.resolve "corp" = .ok trustedNetwork ∧
      now.store.resolve "4294967303" = .error (.unknownNetwork "4294967303") ∧
      ResetEnds now "corp" ((none : Option SaveStep) ≠ none ∨ Entry.missing = .folder) reset ∧
      reset.answer = .ok "Cleared trust decisions for corp\n" ∧
      reset.store.get? 9 = now.store.get? 9 := by
  intro approve now reset
  have opens : ofFolder lookalikesFolder = .ok (ofList lookalikes) := ofFolder_of_file rfl
  obtain ⟨decimal, spelled, named, failed, resets⟩ :=
    @addressed_and_reset_alone _ _ opens [approve] now rfl
  have stored : trustedNetwork ∈ now.store.profiles := by decide +kernel
  have wordless (id : NetworkId) : ¬id.IsSpelledBy "corp" := by
    have other : Text.natural? "corp".toList = none := by decide
    rw [NetworkId.isSpelledBy_iff, other]
    simp
  have tooLarge (id : NetworkId) : ¬id.IsSpelledBy "4294967303" := by
    have read : Text.natural? "4294967303".toList = some 4294967303 := by decide
    have bounded := id.toNat_lt
    rw [NetworkId.isSpelledBy_iff, read, Option.some_inj]
    omega
  have unnamed : ∀ other ∈ now.store.profiles, other.ssid ≠ "4294967303" := by decide +kernel
  refine ⟨opens, decimal _ stored, ?_, ?_, ?_, (resets "corp" .missing none).1, ?_, ?_⟩
  · exact spelled "+007" _ stored ⟨"+", 2, .inr rfl, by decide⟩
  · apply (named "corp" (fun other _ => wordless other.networkId) trustedNetwork).mpr
    exact ⟨stored, rfl, by decide +kernel⟩
  · apply (failed "4294967303" _).mpr
    exact ⟨rfl, fun other mem => ⟨tooLarge other.networkId, unnamed other mem⟩⟩
  · decide +kernel
  · decide +kernel

end Store

end TrustGate
