import Mathlib.Algebra.BigOperators.Group.List.Basic
import Mathlib.Algebra.GroupWithZero.Nat
import TrustGate.Listing
import TrustGate.Store.Basic

/-!
# Rows of the table of networks

A cell holds a name as it is, so a line feed in a name ends the row that it stands in
and begins another one. Nothing else in a row holds a line feed: numbers, methods and
marks are fixed texts, and cells are filled up with spaces. So the line feeds of the
table are those that end its lines and those of the names, and counting them tells
whether each network has its row.
-/

namespace TrustGate.Listing

/-! ## Lines -/

/-- A text consists of lines, each of which is ended by a line feed and holds no other one. -/
def ConsistsOf (text : String) (lines : List String) : Prop :=
  text = String.join (lines.map (· ++ "\n")) ∧ ∀ line ∈ lines, '\n' ∉ line.toList

def lineFeeds (text : String) : ℕ :=
  text.toList.count '\n'

theorem lineFeeds_append (front rest : String) :
    lineFeeds (front ++ rest) = lineFeeds front + lineFeeds rest := by
  simp [lineFeeds]

theorem lineFeeds_eq_zero_iff {text : String} : lineFeeds text = 0 ↔ '\n' ∉ text.toList := by
  simp [lineFeeds, List.count_eq_zero]

theorem lineFeeds_join (texts : List String) :
    lineFeeds (String.join texts) = (texts.map lineFeeds).sum := by
  rw [lineFeeds, String.toList_join, List.count_flatMap]
  rfl

theorem lineFeeds_join_lines (lines : List String) :
    lineFeeds (String.join (lines.map (· ++ "\n"))) = (lines.map lineFeeds).sum + lines.length := by
  have ended : lineFeeds "\n" = 1 := rfl
  simp [lineFeeds_join, lineFeeds_append, ended, Function.comp_def, List.sum_map_add]

theorem ConsistsOf.lineFeeds_eq {text : String} {lines : List String}
    (consists : ConsistsOf text lines) : lineFeeds text = lines.length := by
  obtain ⟨rfl, unbroken⟩ := consists
  have none : (lines.map lineFeeds).sum = 0 := by
    apply List.sum_eq_zero
    intro count mem
    obtain ⟨line, inside, rfl⟩ := List.mem_map.mp mem
    exact lineFeeds_eq_zero_iff.mpr (unbroken line inside)
  rw [lineFeeds_join_lines, none, Nat.zero_add]

/-! ## Cells -/

theorem lineFeeds_padded (width : ℕ) (text : String) :
    lineFeeds (padded width text) = lineFeeds text := by
  have blank : '\n' ∉ (String.ofList (List.replicate (width - text.length) ' ')).toList := by
    simp
  rw [padded, lineFeeds_append, lineFeeds_eq_zero_iff.mpr blank, Nat.add_zero]

theorem lineFeeds_intercalate (texts : List String) :
    lineFeeds (" ".intercalate texts) = (texts.map lineFeeds).sum := by
  have space : lineFeeds " " = 0 := rfl
  induction texts with
  | nil => rfl
  | cons text texts ih =>
      rcases texts with _ | ⟨next, texts⟩
      · simp
      · rw [String.intercalate_cons_cons, lineFeeds_append, lineFeeds_append, space, ih]
        simp

theorem lineFeeds_line {cells : List String} (whole : cells.length = columnWidths.length) :
    lineFeeds (line cells) = (cells.map lineFeeds).sum := by
  have each : List.zipWith (fun width cell => lineFeeds (padded width cell)) columnWidths cells =
      cells.map lineFeeds := by
    simp only [lineFeeds_padded]
    apply List.ext_getElem
    · simp [whole]
    · simp
  rw [line, lineFeeds_intercalate, List.map_zipWith, each]

/-- The names that a row shows: that of the network, and that of its authority if it has one. -/
def shownNames (profile : NetworkProfile) : List String :=
  profile.ssid :: ((profile.enterprise.bind (·.caCertificate)).map (·.commonName)).toList

theorem lineFeeds_number (number : ℕ) : lineFeeds number.repr = 0 := by
  apply lineFeeds_eq_zero_iff.mpr
  rw [Nat.toList_repr]
  intro inside
  have digit := Nat.isDigit_of_mem_toDigits (by decide) (by decide) inside
  simp at digit

theorem lineFeeds_displayName (method : EapMethod) : lineFeeds method.displayName = 0 := by
  cases method <;> rfl

theorem lineFeeds_mark (value : Bool) : lineFeeds (mark value) = 0 := by
  cases value <;> rfl

theorem length_cells (profile : NetworkProfile) :
    (cells profile).length = columnWidths.length := by
  cases present : profile.enterprise <;> simp [cells, trustCells, columnWidths, present]

/-- All line feeds of a row are those of the names in it. -/
theorem lineFeeds_row (profile : NetworkProfile) :
    lineFeeds (line (cells profile)) = ((shownNames profile).map lineFeeds).sum := by
  have dash : lineFeeds "-" = 0 := rfl
  have none : lineFeeds "open" = 0 := rfl
  rw [lineFeeds_line (length_cells profile)]
  rcases profile with ⟨id, ssid, autoConnect, _ | ⟨method, _ | authority, tofu, approved⟩⟩ <;>
    simp [cells, trustCells, shownNames, lineFeeds_number, lineFeeds_displayName, lineFeeds_mark,
      dash, none]

/-- A line begins with its first cell, and a space after it. -/
theorem exists_line_eq (first second : String) (cells : List String) :
    ∃ rest, line (first :: second :: cells) = first ++ " " ++ rest := by
  have moved (count : ℕ) (rest : String) :
      String.ofList (List.replicate count ' ') ++ (" " ++ rest) =
        " " ++ (String.ofList (List.replicate count ' ') ++ rest) := by
    apply String.toList_injective
    simp only [String.toList_append, String.toList_ofList]
    rw [← List.append_assoc, ← List.append_assoc]
    exact congrArg (· ++ rest.toList) List.replicate_succ'.symm
  simp only [line, columnWidths, List.zipWith_cons_cons, String.intercalate_cons_cons]
  simp only [padded, String.append_assoc, moved]
  exact ⟨_, rfl⟩

/-! ## The table -/

/-- A text has the titles and then one row for each profile, in their order, that begins with the
number of the network. -/
def HasRowEach (profiles : List NetworkProfile) (text : String) : Prop :=
  ∃ rows, ConsistsOf text (line titles :: rows) ∧
    List.Forall₂ (fun profile row => ∃ rest, row = toString profile.networkId.toNat ++ " " ++ rest)
      profiles rows

/-- No name that a row shows holds a line feed. -/
def IsUnbroken (profile : NetworkProfile) : Prop :=
  ∀ name ∈ shownNames profile, '\n' ∉ name.toList

theorem lineFeeds_row_eq_zero_iff {profile : NetworkProfile} :
    lineFeeds (line (cells profile)) = 0 ↔ IsUnbroken profile := by
  simp [lineFeeds_row, IsUnbroken, List.sum_eq_zero_iff_forall_eq_nat, lineFeeds_eq_zero_iff]

theorem lineFeeds_titles : lineFeeds (line titles) = 0 := by
  rw [lineFeeds_line rfl]
  rfl

theorem lineFeeds_table (profiles : List NetworkProfile) :
    lineFeeds (table profiles) =
      (profiles.map (lineFeeds ∘ line ∘ cells)).sum + (profiles.length + 1) := by
  rw [table, lineFeeds_join_lines]
  simp [lines, lineFeeds_titles]

theorem consistsOf_table {profiles : List NetworkProfile}
    (unbroken : ∀ profile ∈ profiles, IsUnbroken profile) :
    ConsistsOf (table profiles) (line titles :: profiles.map (line ∘ cells)) := by
  refine ⟨rfl, List.forall_mem_cons.mpr ⟨lineFeeds_eq_zero_iff.mp lineFeeds_titles, ?_⟩⟩
  intro row among
  obtain ⟨profile, inside, rfl⟩ := List.mem_map.mp among
  apply lineFeeds_eq_zero_iff.mp
  exact lineFeeds_row_eq_zero_iff.mpr (unbroken profile inside)

/-- The table has one row for each network exactly if no name in it holds a line feed. -/
theorem one_row_each_iff (profiles : List NetworkProfile) :
    HasRowEach profiles (table profiles) ↔ ∀ profile ∈ profiles, IsUnbroken profile := by
  constructor
  · rintro ⟨rows, consists, each⟩
    have counted : lineFeeds (table profiles) = profiles.length + 1 := by
      rw [consists.lineFeeds_eq, List.length_cons, each.length_eq]
    have none : (profiles.map (lineFeeds ∘ line ∘ cells)).sum = 0 := by
      rw [lineFeeds_table] at counted
      omega
    intro profile inside
    apply lineFeeds_row_eq_zero_iff.mp
    apply List.sum_eq_zero_iff_forall_eq_nat.mp none
    exact List.mem_map_of_mem inside
  · intro unbroken
    refine ⟨_, consistsOf_table unbroken, ?_⟩
    rw [List.forall₂_map_right_iff, List.forall₂_same]
    intro profile _
    exact exists_line_eq _ profile.ssid _

/-- A network bound to an authority whose name has two lines. -/
def twoLined : NetworkProfile where
  networkId := 7
  ssid := "corp"
  enterprise := some {
    eapMethod := .peap
    caCertificate := some (Store.pinned {
      der := [1]
      subject := "CN=radius               -     -         yes\n9     bank                     " ++
        "PEAP        authority"
      issuer := "CN=authority" }) }

/-- The second line of the name makes a row of a network that is not stored. -/
theorem forged_row_in_table :
    ConsistsOf (table [twoLined]) [line titles,
      "7     corp                     PEAP        radius               -     -         yes",
      "9     bank                     PEAP        authority -     -         yes"] ∧
      ¬HasRowEach [twoLined] (table [twoLined]) := by
  have consists : ConsistsOf (table [twoLined]) [line titles,
      "7     corp                     PEAP        radius               -     -         yes",
      "9     bank                     PEAP        authority -     -         yes"] := by
    constructor
    · decide +kernel
    · decide +kernel
  refine ⟨consists, ?_⟩
  rintro ⟨rows, others, each⟩
  have counted : rows.length + 1 = 3 := others.lineFeeds_eq.symm.trans consists.lineFeeds_eq
  have single : rows.length = 1 := each.length_eq.symm
  omega

end TrustGate.Listing
