import TrustGate.Profile.Basic

/-!
# Maps from the numbers of networks

A map lists its entries in strictly ascending order of their numbers, so there is
at most one entry under a number, and two maps that have the same value under
every number are the same map. The order is part of the type: insertion and
erasure prove that they keep it.
-/

namespace TrustGate

@[ext]
structure NetworkMap (α : Type) where
  entries : List (NetworkId × α) := []
  ascending : entries.Pairwise (·.1 < ·.1) := by exact List.Pairwise.nil
deriving Repr, DecidableEq

namespace NetworkMap

variable {α : Type} {id : NetworkId} {value : α}

/-! ## Entries in order -/

/-- Puts an entry in its place, over one with the same number. -/
def insertEntry (id : NetworkId) (value : α) : List (NetworkId × α) → List (NetworkId × α)
  | [] => [(id, value)]
  | (other, former) :: entries =>
      if id < other then (id, value) :: (other, former) :: entries
      else if id = other then (id, value) :: entries
      else (other, former) :: insertEntry id value entries

theorem mem_insertEntry_iff {entries : List (NetworkId × α)}
    (ascending : entries.Pairwise (·.1 < ·.1)) {entry : NetworkId × α} :
    entry ∈ insertEntry id value entries ↔
      entry = (id, value) ∨ entry.1 ≠ id ∧ entry ∈ entries := by
  have apart {later : NetworkId × α} (above : id < later.1) : later.1 ≠ id :=
    (UInt32.ne_of_lt above).symm
  induction entries with
  | nil => simp [insertEntry]
  | cons first others ih =>
      obtain ⟨least, later⟩ := List.pairwise_cons.mp ascending
      unfold insertEntry
      split
      · next below =>
          have above : ∀ entry ∈ first :: others, entry.1 ≠ id := by
            rintro entry (_ | ⟨_, mem⟩)
            · exact apart below
            · exact apart (UInt32.lt_trans below (least entry mem))
          rw [List.mem_cons, and_iff_right_of_imp (above entry)]
      · next notBelow =>
          split
          · next same =>
              have above : ∀ entry ∈ others, entry.1 ≠ id := fun entry mem =>
                apart (same ▸ least entry mem)
              rw [List.mem_cons, List.mem_cons, and_or_left, and_iff_right_of_imp (above entry)]
              have replaced : ¬(entry.1 ≠ id ∧ entry = first) := by
                rintro ⟨different, rfl⟩
                exact different same.symm
              simp only [replaced, false_or]
          · next different =>
              have kept : entry = first → entry.1 ≠ id := by
                rintro rfl
                exact Ne.symm different
              simp only [List.mem_cons, ih later, and_or_left, and_iff_right_of_imp kept]
              exact or_left_comm

theorem ascending_insertEntry (id : NetworkId) (value : α) {entries : List (NetworkId × α)}
    (ascending : entries.Pairwise (·.1 < ·.1)) :
    (insertEntry id value entries).Pairwise (·.1 < ·.1) := by
  induction entries with
  | nil => exact List.pairwise_singleton _ _
  | cons first others ih =>
      obtain ⟨least, later⟩ := List.pairwise_cons.mp ascending
      unfold insertEntry
      split
      · next below =>
          refine List.pairwise_cons.mpr ⟨?_, ascending⟩
          rintro entry (_ | ⟨_, mem⟩)
          · exact below
          · exact UInt32.lt_trans below (least entry mem)
      · next notBelow =>
          split
          · next same =>
              exact List.pairwise_cons.mpr ⟨fun entry mem => same ▸ least entry mem, later⟩
          · next different =>
              have above : first.1 < id :=
                UInt32.lt_of_le_of_ne (UInt32.not_lt.mp notBelow) (Ne.symm different)
              refine List.pairwise_cons.mpr ⟨?_, ih later⟩
              intro entry mem
              rcases (mem_insertEntry_iff later).mp mem with rfl | ⟨_, before⟩
              · exact above
              · exact least entry before

/-- An entry that takes the place of another one changes nothing else. -/
theorem insertEntry_eq_map {entries : List (NetworkId × α)}
    (ascending : entries.Pairwise (·.1 < ·.1)) {former : α} (mem : (id, former) ∈ entries) :
    insertEntry id value entries =
      entries.map fun entry => if entry.1 = id then (id, value) else entry := by
  induction entries with
  | nil => cases mem
  | cons first others ih =>
      obtain ⟨least, later⟩ := List.pairwise_cons.mp ascending
      rcases List.mem_cons.mp mem with rfl | after
      · have kept : others.map (fun entry => if entry.1 = id then (id, value) else entry) =
            others := by
          refine (List.map_congr_left ?_).trans (List.map_id others)
          intro entry among
          exact if_neg (UInt32.ne_of_lt (least entry among)).symm
        simp [insertEntry, kept]
      · have above : first.1 < id := least _ after
        have different : first.1 ≠ id := UInt32.ne_of_lt above
        simp [insertEntry, UInt32.lt_asymm above, different, different.symm, ih later after]

/-! ## Operations -/

def insert (map : NetworkMap α) (id : NetworkId) (value : α) : NetworkMap α :=
  ⟨insertEntry id value map.entries, ascending_insertEntry id value map.ascending⟩

def erase (map : NetworkMap α) (id : NetworkId) : NetworkMap α :=
  ⟨map.entries.filter (·.1 != id), map.ascending.filter _⟩

def get? (map : NetworkMap α) (id : NetworkId) : Option α :=
  (map.entries.find? (·.1 == id)).map (·.2)

/-- The values in ascending order of their numbers. -/
def values (map : NetworkMap α) : List α :=
  map.entries.map (·.2)

/-! ## Looking up -/

theorem get?_eq_some_iff {map : NetworkMap α} :
    map.get? id = some value ↔ (id, value) ∈ map.entries := by
  rcases map with ⟨entries, ascending⟩
  simp only [get?]
  induction entries with
  | nil => simp
  | cons first others ih =>
      obtain ⟨least, later⟩ := List.pairwise_cons.mp ascending
      rcases first with ⟨other, former⟩
      by_cases own : other = id
      · subst own
        have absent : (other, value) ∉ others := fun mem =>
          UInt32.lt_irrefl _ (least (other, value) mem)
        simp [absent, eq_comm]
      · have passed : ¬((id, value) = (other, former)) := fun same =>
          own (congrArg Prod.fst same).symm
        rw [List.find?_cons_of_neg (by simpa using own), ih later, List.mem_cons,
          or_iff_right passed]

theorem get?_insert (map : NetworkMap α) (id : NetworkId) (value : α) (sought : NetworkId) :
    (map.insert id value).get? sought = if id = sought then some value else map.get? sought := by
  apply Option.ext
  intro found
  rw [get?_eq_some_iff, insert, mem_insertEntry_iff map.ascending]
  split
  · next own => simp [own, eq_comm]
  · next other => simp [get?_eq_some_iff, Ne.symm other]

theorem get?_erase (map : NetworkMap α) (id sought : NetworkId) :
    (map.erase id).get? sought = if id = sought then none else map.get? sought := by
  apply Option.ext
  intro found
  rw [get?_eq_some_iff, erase, List.mem_filter]
  split
  · next own => simp [own]
  · next other => simp [get?_eq_some_iff, Ne.symm other]

theorem nodup (map : NetworkMap α) : map.entries.Nodup :=
  map.ascending.imp fun below same => UInt32.ne_of_lt below (congrArg Prod.fst same)

/-- Maps are the same if they have the same value under every number. -/
theorem eq_of_get? {map other : NetworkMap α} (same : ∀ id, map.get? id = other.get? id) :
    map = other := by
  have mem (entry : NetworkId × α) : entry ∈ map.entries ↔ entry ∈ other.entries := by
    rw [← get?_eq_some_iff, ← get?_eq_some_iff, same]
  apply NetworkMap.ext
  apply List.Perm.eq_of_pairwise _ map.ascending other.ascending
  · exact (List.perm_ext_iff_of_nodup map.nodup other.nodup).mpr mem
  · intro first second _ _ below above
    exact absurd above (UInt32.lt_asymm below)

/-! ## Taking back -/

/-- A value that was replaced is put back in its place. -/
theorem insert_insert_of_get? {map : NetworkMap α} {previous : α}
    (found : map.get? id = some previous) :
    (map.insert id value).insert id previous = map := by
  apply eq_of_get?
  intro sought
  rw [get?_insert, get?_insert]
  by_cases own : id = sought
  · simp [own, ← found]
  · simp [own]

/-- A value that replaced no other is taken out again. -/
theorem erase_insert_of_get? {map : NetworkMap α} (absent : map.get? id = none) :
    (map.insert id value).erase id = map := by
  apply eq_of_get?
  intro sought
  rw [get?_erase, get?_insert]
  by_cases own : id = sought
  · simp [own, ← absent]
  · simp [own]

end NetworkMap

end TrustGate
