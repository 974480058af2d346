import Mathlib.Data.List.Forall2
import TrustGate.Proofs.Json.Reading

/-!
# Reading strings, numbers and records

A character that was written and came back as a unit is joined to its string as
the character it was, so nothing of a text is lost. A record is an object with
some of its fields in any order and with members of other names among them. Its
fields are found under their names, whatever the other members are.
-/

namespace TrustGate.Json

/-! ## Strings and numbers -/

theorem decodePieces_cons_reread (char : Char) (pieces : List StringPiece) :
    decodePieces ((StringPiece.char char).reread :: pieces) =
      (decodePieces pieces).map (char :: ·) := by
  rw [StringPiece.reread]
  split
  · next numbered =>
      have control : char.toNat < 0x20 := by
        rw [isNumbered, Bool.and_eq_true, decide_eq_true_iff] at numbered
        exact numbered.1
      have notHigh : isHighHalf char.toNat = false := by simp [isHighHalf]; omega
      have notLow : isLowHalf char.toNat = false := by simp [isLowHalf]; omega
      rcases pieces with _ | ⟨_ | _, _⟩ <;>
        simp [decodePieces, notHigh, notLow, Char.ofNat_toNat]
  · rw [decodePieces]

theorem decodePieces_reread (text : String) :
    decodePieces ((piecesOf text).map StringPiece.reread) = some text.toList := by
  rw [piecesOf]
  induction text.toList with
  | nil => rfl
  | cons char chars ih => rw [List.map_cons, List.map_cons, decodePieces_cons_reread, ih]; rfl

@[simp]
theorem nat?_ofNat (value : Nat) : (ofNat value).nat? = some value := by
  have digital : (Nat.toDigits 10 value).all Char.isDigit :=
    List.all_eq_true.mpr (isDigit_toDigits value)
  have same := Nat.ofDigitChars_ten_toDigits (n := value)
  rw [Nat.ofDigitChars_eq_foldl] at same
  simp only [Nat.mul_comm 10] at same
  simp only [ofNat, nat?, digital, if_true, Option.some_inj]
  exact same

/-! ## Records -/

theorem mapM_eq_some_map {α β : Type} {read : α → Option β} (result : α → β) {items : List α}
    (each : ∀ item ∈ items, read item = some (result item)) :
    items.mapM read = some (items.map result) := by
  induction items with
  | nil => rfl
  | cons item items ih =>
      rw [List.forall_mem_cons] at each
      rw [List.mapM_cons, each.1, ih each.2]
      rfl

theorem rereadItems_eq_map (items : List Json) : rereadItems items = items.map reread := by
  induction items with
  | nil => rfl
  | cons item items ih => rw [rereadItems, ih, List.map_cons]

theorem rereadMembers_eq_map (members : List (List StringPiece × Json)) :
    rereadMembers members =
      members.map fun (key, value) => (key.map StringPiece.reread, reread value) := by
  induction members with
  | nil => rfl
  | cons member members ih => rw [rereadMembers, ih, List.map_cons]

theorem filter_eq_singleton {α : Type} {fields : List (String × α)}
    (distinct : (fields.map Prod.fst).Nodup) {name : String} {value : α}
    (mem : (name, value) ∈ fields) : fields.filter (·.1 == name) = [(name, value)] := by
  induction fields with
  | nil => cases mem
  | cons field fields ih =>
      rw [List.map_cons, List.nodup_cons] at distinct
      rcases List.mem_cons.mp mem with rfl | later
      · have others : fields.filter (·.1 == name) = [] := by
          rw [List.filter_eq_nil_iff]
          intro other within same
          exact distinct.1 (List.mem_map.mpr ⟨other, within, beq_iff_eq.mp same⟩)
        simp [others]
      · have different : field.1 ≠ name := by
          rintro rfl
          exact distinct.1 (List.mem_map.mpr ⟨_, later, rfl⟩)
        simp [different, ih distinct.2 later]

/-- The fields that are there. -/
def present (fields : List (String × Option Json)) : List (String × Json) :=
  fields.filterMap fun (name, part?) => part?.map (name, ·)

/-- The members of an object with the names that their keys are spelled as. -/
def AreNamed (members : List (List StringPiece × Json)) (named : List (String × Json)) : Prop :=
  List.Forall₂ (fun member field => decodePieces member.1 = some field.1.toList ∧
    member.2 = field.2) members named

/-- An object with those of some fields that are there, in any order, and with members of other
names anywhere among them. -/
inductive IsRecord (fields : List (String × Option Json)) : Json → Prop
  | object {members : List (List StringPiece × Json)} (named others : List (String × Json))
      (names : AreNamed members named) (order : named.Perm (present fields ++ others))
      (unknown : ∀ other ∈ others, other.1 ∉ fields.map Prod.fst) :
      IsRecord fields (.object members)

theorem filter_present {fields : List (String × Option Json)}
    (distinct : (fields.map Prod.fst).Nodup) {name : String} {part? : Option Json}
    (mem : (name, part?) ∈ fields) :
    (present fields).filter (·.1 == name) = (part?.map (name, ·)).toList := by
  have chosen : (present fields).filter (·.1 == name) = present (fields.filter (·.1 == name)) := by
    rw [present, present, List.filter_filterMap, List.filterMap_filter]
    congr 1
    funext ⟨other, part?⟩
    by_cases same : other = name <;> cases part? <;> simp [same]
  rw [chosen, filter_eq_singleton distinct mem]
  cases part? <;> rfl

theorem AreNamed.decoded {members : List (List StringPiece × Json)}
    {named : List (String × Json)} (names : AreNamed members named) :
    (members.mapM fun (key, value) => do return (← decodePieces key, value)) =
      some (named.map fun (name, value) => (name.toList, value)) := by
  induction names with
  | nil => rfl
  | @cons member field _ _ same _ ih =>
      rcases member with ⟨key, value⟩
      rcases field with ⟨name, _⟩
      obtain ⟨spelled, rfl⟩ := same
      rw [List.mapM_cons, ih]
      simp only [spelled]
      rfl

/-- The fields of a record are found under their names. -/
theorem fields?_of_isRecord {names : List String} {fields : List (String × Option Json)}
    {value : Json} (isRecord : IsRecord fields value) (named : fields.map Prod.fst = names)
    (distinct : names.Nodup) : value.fields? names = some (fields.map Prod.snd) := by
  subst named
  cases isRecord with
  | object named others names order unknown =>
      rw [fields?, names.decoded]
      simp only [Option.bind_eq_bind, Option.bind_some]
      rw [List.mapM_map]
      apply mapM_eq_some_map
      rintro ⟨name, part?⟩ mem
      have elsewhere : others.filter (·.1 == name) = [] := by
        rw [List.filter_eq_nil_iff]
        rintro other within same
        rw [beq_iff_eq] at same
        exact unknown other within (List.mem_map.mpr ⟨_, mem, same.symm⟩)
      have found : (named.filter (·.1 == name)).Perm (part?.map (name, ·)).toList := by
        have all := order.filter (·.1 == name)
        rwa [List.filter_append, filter_present distinct mem, elsewhere, List.append_nil] at all
      -- Keys are compared as characters, and equal just if the names are.
      have keys : ((·.1 == name.toList) ∘ fun field : String × Json =>
          (field.1.toList, field.2)) = fun field => field.1 == name := by
        funext field
        simp [String.toList_inj]
      simp only [Function.comp_apply, List.filter_map, keys]
      cases part? with
      | none =>
          rw [List.perm_nil.mp found]
          rfl
      | some value =>
          rw [List.perm_singleton.mp found]
          rfl

/-- What is read from written fields is a record of them. -/
theorem isRecord_reread_ofFields {fields others : List (String × Json)}
    {parts : List (String × Option Json)}
    (order : (fields.map fun field => (field.1, reread field.2)).Perm (present parts ++ others))
    (unknown : ∀ other ∈ others, other.1 ∉ parts.map Prod.fst) :
    IsRecord parts (reread (ofFields fields)) := by
  rw [ofFields, reread, rereadMembers_eq_map, List.map_map]
  refine .object _ others ?_ order unknown
  rw [AreNamed, List.forall₂_map_left_iff, List.forall₂_map_right_iff, List.forall₂_same]
  intro field _
  exact ⟨decodePieces_reread field.1, rfl⟩

/-- A record is written with all its fields. -/
theorem isRecord_reread_of_all {fields : List (String × Json)} {parts : List (String × Option Json)}
    (all : fields.map (fun field => (field.1, reread field.2)) = present parts) :
    IsRecord parts (reread (ofFields fields)) := by
  apply isRecord_reread_ofFields (.of_eq _) (List.forall_mem_nil _)
  rw [all, List.append_nil]

end TrustGate.Json
