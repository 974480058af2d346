import Mathlib.Data.List.Defs
import TrustGate.Proofs.Blank
import TrustGate.Proofs.Utf8
import TrustGate.X509.AttributeType

/-!
# Keys of attribute types

The key under which an attribute type is rendered holds nothing that a rendered
name is divided at, and no blank at either end: neither the keys of the tables,
nor the arcs of a type written out, nor its bytes in hexadecimal.

The keys of the tables are checked by their bytes. A byte of theirs is a visible
ASCII character, so no other characters can be among them.
-/

namespace TrustGate.X509

open Der Text

/-- Whether a character divides a rendered name or its components, or hides one that does. -/
def divides (char : Char) : Bool :=
  char == ',' || char == '=' || char == '\\'

/-- A key that stays in one piece. -/
structure IsSolidKey (key : List Char) : Prop where
  undivided : ∀ char ∈ key, divides char = false
  trimmed : trim key = key

/-- Only what stands between the parts can be blank, and it stands at neither end. -/
theorem isSolidKey_intercalate {parts : List (List Char)} (filled : ∀ part ∈ parts, part ≠ [])
    (solid : ∀ part ∈ parts, ∀ char ∈ part, divides char = false ∧ isBlank char = false)
    {separator : Char} (separates : divides separator = false) :
    IsSolidKey ([separator].intercalate parts) where
  undivided := by
    intro char inside
    induction parts with
    | nil => simp at inside
    | cons part parts ih =>
        obtain ⟨_, filledLater⟩ := List.forall_mem_cons.mp filled
        obtain ⟨solidPart, solidLater⟩ := List.forall_mem_cons.mp solid
        rcases parts with _ | ⟨next, parts⟩
        · exact (solidPart char (by simpa using inside)).1
        · simp only [List.intercalate_cons_cons, List.mem_append, List.mem_singleton] at inside
          rcases inside with (inPart | rfl) | later
          · exact (solidPart char inPart).1
          · exact separates
          · exact ih filledLater solidLater later
  trimmed := trim_intercalate filled
    (fun part among char inside => (solid part among char inside).2) [separator]

/-! ## Keys of the tables -/

/-- Whether a byte is a visible character that divides nothing. -/
def isKeyByte (byte : UInt8) : Bool :=
  0x21 ≤ byte && byte ≤ 0x7E && byte != 0x2C && byte != 0x3D && byte != 0x5C

-- All bytes are checked by a function: there are also instances that decide it for every byte.
theorem tables_isKeyByte : (shortKeys ++ registeredNames).all fun entry =>
    entry.2.toByteArray.data.toList.all isKeyByte := by
  decide +kernel

theorem isKeyByte_of_mem_tables {entry : List Nat × String}
    (known : entry ∈ shortKeys ++ registeredNames) :
    ∀ byte ∈ entry.2.toByteArray.data.toList, isKeyByte byte :=
  List.all_eq_true.mp (List.all_eq_true.mp tables_isKeyByte entry known)

theorem toNat_lt_of_isKeyByte {byte : UInt8} (plain : isKeyByte byte) : byte.toNat < 0x80 := by
  simp only [isKeyByte, Bool.and_eq_true, decide_eq_true_eq, UInt8.le_iff_toNat_le,
    UInt8.reduceToNat] at plain
  have visible := plain.1.1.1.2
  omega

/-- No byte of a key begins a character past ASCII. -/
theorem isKeyByte_of_char {char : Char}
    (plain : ∀ byte ∈ String.utf8EncodeChar char, isKeyByte byte) :
    char.toNat ≤ 0x7F ∧ isKeyByte (UInt8.ofNat char.toNat) := by
  by_cases ascii : char.toNat < 0x80
  · rw [Utf8.utf8EncodeChar_of_ascii ascii] at plain
    exact ⟨by omega, plain _ (List.mem_singleton_self _)⟩
  · obtain ⟨byte, mem⟩ := List.exists_mem_of_ne_nil _ (@String.utf8EncodeChar_ne_nil char)
    have above := Utf8.le_toNat_of_mem_utf8EncodeChar (by omega) byte mem
    exact absurd (toNat_lt_of_isKeyByte (plain byte mem)) (by omega)

theorem solid_of_isKeyByte : ∀ code ≤ 0x7F, isKeyByte (UInt8.ofNat code) →
    divides (Char.ofNat code) = false ∧ isBlank (Char.ofNat code) = false := by
  decide

theorem solid_of_keyBytes {key : String}
    (plain : ∀ byte ∈ key.toByteArray.data.toList, isKeyByte byte) :
    ∀ char ∈ key.toList, divides char = false ∧ isBlank char = false := by
  intro char inside
  have bytes : key.toByteArray.data.toList = key.toList.flatMap String.utf8EncodeChar := by
    rw [← String.utf8Encode_toList, List.utf8Encode, List.data_toByteArray]
  obtain ⟨ascii, plainChar⟩ := isKeyByte_of_char fun byte among =>
    plain byte (bytes ▸ List.mem_flatMap.mpr ⟨char, inside, among⟩)
  simpa using solid_of_isKeyByte char.toNat ascii plainChar

theorem mem_of_lookupType {table : List (List Nat × String)} {type : ObjectId} {key : String}
    (found : lookupType table type = some key) : ∃ entry ∈ table, entry.2 = key := by
  obtain ⟨entry, sought, rfl⟩ := Option.map_eq_some_iff.mp found
  exact ⟨entry, List.mem_of_find?_eq_some sought, rfl⟩

theorem isSolidKey_of_lookupType {table : List (List Nat × String)} {type : ObjectId}
    {key : String} (known : table ⊆ shortKeys ++ registeredNames)
    (found : lookupType table type = some key) : IsSolidKey key.toList := by
  obtain ⟨entry, inTable, rfl⟩ := mem_of_lookupType found
  have solid := solid_of_keyBytes (isKeyByte_of_mem_tables (known inTable))
  exact ⟨fun char inside => (solid char inside).1, trim_of_visible fun char inside =>
    (solid char inside).2⟩

/-! ## Types written out -/

theorem solid_of_mem_toString {arc : Nat} {char : Char} (inside : char ∈ (toString arc).toList) :
    divides char = false ∧ isBlank char = false := by
  have digit : char.isDigit := @Nat.isDigit_of_mem_toDigits 10 arc char (by decide) (by decide)
    (by simpa using inside)
  have digits : ∀ code ≤ 0x39, 0x30 ≤ code →
      divides (Char.ofNat code) = false ∧ isBlank (Char.ofNat code) = false := by decide
  simp only [Char.isDigit, Bool.and_eq_true, decide_eq_true_eq, ge_iff_le,
    UInt32.le_iff_toNat_le] at digit
  simpa using digits char.toNat digit.2 digit.1

theorem solid_of_mem_encodeByte {byte : UInt8} {char : Char} (inside : char ∈ Hex.encodeByte byte) :
    divides char = false ∧ isBlank char = false := by
  have digits : ∀ value < 16,
      divides (Hex.digit value) = false ∧ isBlank (Hex.digit value) = false := by decide
  have bounded := byte.toNat_lt
  simp only [Hex.encodeByte, List.mem_cons, List.not_mem_nil, or_false] at inside
  rcases inside with rfl | rfl
  · exact digits _ (by omega)
  · exact digits _ (by omega)

theorem isSolidKey_dotted (type : ObjectId) : IsSolidKey type.dotted.toList := by
  unfold ObjectId.dotted
  split
  · simp only [String.toList_intercalate, List.map_map]
    apply isSolidKey_intercalate
    · simp [Hex.encodeByte]
    · intro part among char inside
      obtain ⟨byte, -, rfl⟩ := List.mem_map.mp among
      exact solid_of_mem_encodeByte (by simpa using inside)
    · decide
  · simp only [String.toList_intercalate, List.map_map]
    apply isSolidKey_intercalate
    · simp
    · intro part among char inside
      obtain ⟨arc, -, rfl⟩ := List.mem_map.mp among
      exact solid_of_mem_toString inside
    · decide

theorem isSolidKey_keyOfType (type : ObjectId) : IsSolidKey (keyOfType type).toList := by
  unfold keyOfType
  rcases short : lookupType shortKeys type with _ | key
  · rcases registered : lookupType registeredNames type with _ | key
    · exact isSolidKey_dotted type
    · exact isSolidKey_of_lookupType (List.subset_append_right _ _) registered
  · exact isSolidKey_of_lookupType (List.subset_append_left _ _) short

end TrustGate.X509
