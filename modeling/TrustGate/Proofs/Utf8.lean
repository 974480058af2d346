import TrustGate.Bytes.Utf8

/-!
# Reading text that was written as UTF-8

The bytes of a character are one piece, and the piece is that character. A
leading byte leaves out of the range of its first follower what a shorter form
can say and what is no character, so for three and four bytes the follower is
shown to lie in that range. The bytes of longer forms are all past ASCII, so a line
feed among the bytes of a text is one of its characters.
-/

namespace TrustGate.Utf8

/-! ## Leading bytes -/

theorem lead?_one {byte : UInt8} (below : byte.toNat < 0x80) :
    lead? byte = some ⟨byte.toNat, 0, 0x80, 0xBF⟩ := by
  simp only [lead?, UInt8.lt_iff_toNat_lt]
  exact if_pos below

theorem lead?_two {byte : UInt8} (above : 0xC2 ≤ byte.toNat) (below : byte.toNat < 0xE0) :
    lead? byte = some ⟨byte.toNat - 0xC0, 1, 0x80, 0xBF⟩ := by
  simp only [lead?, UInt8.lt_iff_toNat_lt, UInt8.reduceToNat]
  rw [if_neg (by omega), if_neg (by omega), if_pos below]

/-- The first follower in a form of three bytes reaches what two bytes cannot say, and leaves out
the halves of pairs. -/
theorem lead?_three (byte : UInt8) (above : 0xE0 ≤ byte.toNat) (below : byte.toNat < 0xF0) :
    ∃ low high : UInt8, lead? byte = some ⟨byte.toNat - 0xE0, 2, low, high⟩ ∧
      low.toNat = (if byte.toNat = 0xE0 then 0xA0 else 0x80) ∧
      high.toNat = (if byte.toNat = 0xED then 0x9F else 0xBF) := by
  simp only [lead?, UInt8.lt_iff_toNat_lt, ← UInt8.toNat_inj, UInt8.reduceToNat]
  rw [if_neg (by omega), if_neg (by omega), if_neg (by omega)]
  by_cases first : byte.toNat = 0xE0
  · exact ⟨0xA0, 0xBF, by simp [first]⟩
  · by_cases halves : byte.toNat = 0xED
    · exact ⟨0x80, 0x9F, by simp [halves]⟩
    · exact ⟨0x80, 0xBF, by simp [first, halves, below]⟩

/-- The first follower in a form of four bytes reaches what three bytes cannot say, and no value
past the last character. -/
theorem lead?_four (byte : UInt8) (above : 0xF0 ≤ byte.toNat) (below : byte.toNat < 0xF5) :
    ∃ low high : UInt8, lead? byte = some ⟨byte.toNat - 0xF0, 3, low, high⟩ ∧
      low.toNat = (if byte.toNat = 0xF0 then 0x90 else 0x80) ∧
      high.toNat = (if byte.toNat = 0xF4 then 0x8F else 0xBF) := by
  simp only [lead?, UInt8.lt_iff_toNat_lt, ← UInt8.toNat_inj, UInt8.reduceToNat]
  rw [if_neg (by omega), if_neg (by omega), if_neg (by omega), if_neg (by omega),
    if_neg (by omega), if_neg (by omega)]
  by_cases first : byte.toNat = 0xF0
  · exact ⟨0x90, 0xBF, by simp [first]⟩
  · by_cases last : byte.toNat = 0xF4
    · exact ⟨0x80, 0x8F, by simp [last]⟩
    · have between : byte.toNat < 0xF4 := by omega
      exact ⟨0x80, 0xBF, by simp [first, last, between]⟩

/-! ## The bytes that follow -/

/-- A byte that continues a character, with the lowest six bits of a value. -/
def continuation (value : Nat) : UInt8 :=
  UInt8.ofNat (value % 0x40 + 0x80)

theorem toNat_continuation (value : Nat) : (continuation value).toNat = value % 0x40 + 0x80 := by
  rw [continuation, UInt8.toNat_ofNat']
  omega

theorem readFollowing_continuation {count code value : Nat} {low high : UInt8} {rest : Bytes}
    (above : low.toNat ≤ value % 0x40 + 0x80) (below : value % 0x40 + 0x80 ≤ high.toNat) :
    readFollowing (count + 1) low high code (continuation value :: rest) =
      readFollowing count 0x80 0xBF (code * 0x40 + value % 0x40) rest := by
  have bits : (value % 0x40 + 0x80) % 64 = value % 0x40 := by omega
  simp [readFollowing, UInt8.le_iff_toNat_le, toNat_continuation, above, below, bits]

theorem readFollowing_continuation_of_later {count code value : Nat} {rest : Bytes} :
    readFollowing (count + 1) 0x80 0xBF code (continuation value :: rest) =
      readFollowing count 0x80 0xBF (code * 0x40 + value % 0x40) rest := by
  apply readFollowing_continuation
  · simp
  · simp only [UInt8.reduceToNat]
    omega

/-! ## Characters -/

theorem pieces_cons {first : UInt8} {lead : Lead} {rest remaining : Bytes} {char : Char}
    (leading : lead? first = some lead)
    (following : readFollowing lead.following lead.low lead.high lead.bits rest =
      (some char.toNat, remaining)) :
    pieces (first :: rest) = some char :: pieces remaining := by
  have read : readPiece first rest = (some char, remaining) := by
    simp [readPiece, leading, following]
  rw [pieces, read]

theorem utf8EncodeChar_of_ascii {char : Char} (below : char.toNat < 0x80) :
    String.utf8EncodeChar char = [UInt8.ofNat char.toNat] := by
  unfold String.utf8EncodeChar
  rw [Char.toNat_val, if_pos (by omega)]

section Characters

variable {char : Char} {rest : Bytes}

theorem pieces_one (below : char.toNat < 0x80) :
    pieces (String.utf8EncodeChar char ++ rest) = some char :: pieces rest := by
  have byte : (UInt8.ofNat char.toNat).toNat = char.toNat := by
    rw [UInt8.toNat_ofNat']
    omega
  simp only [utf8EncodeChar_of_ascii below, List.cons_append, List.nil_append]
  apply pieces_cons (lead?_one (by omega))
  rw [byte, readFollowing]

theorem pieces_two (above : 0x80 ≤ char.toNat) (below : char.toNat < 0x800) :
    pieces (String.utf8EncodeChar char ++ rest) = some char :: pieces rest := by
  have written : String.utf8EncodeChar char =
      [UInt8.ofNat (char.toNat / 64 % 0x20 + 0xC0), continuation char.toNat] := by
    unfold String.utf8EncodeChar
    rw [Char.toNat_val, if_neg (by omega), if_pos (by omega)]
    rfl
  have byte : (UInt8.ofNat (char.toNat / 64 % 0x20 + 0xC0)).toNat = char.toNat / 64 + 0xC0 := by
    rw [UInt8.toNat_ofNat']
    omega
  simp only [written, List.cons_append, List.nil_append]
  apply pieces_cons (lead?_two (by omega) (by omega))
  simp only [byte, Nat.add_sub_cancel]
  rw [readFollowing_continuation_of_later, readFollowing]
  congr 2
  omega

theorem pieces_three (above : 0x800 ≤ char.toNat) (below : char.toNat < 0x10000) :
    pieces (String.utf8EncodeChar char ++ rest) = some char :: pieces rest := by
  have valid : char.toNat < 0xD800 ∨ (0xDFFF < char.toNat ∧ char.toNat < 0x110000) := char.valid
  have written : String.utf8EncodeChar char =
      [UInt8.ofNat (char.toNat / 4096 % 0x10 + 0xE0), continuation (char.toNat / 64),
        continuation char.toNat] := by
    unfold String.utf8EncodeChar
    rw [Char.toNat_val, if_neg (by omega), if_neg (by omega), if_pos (by omega)]
    rfl
  have byte : (UInt8.ofNat (char.toNat / 4096 % 0x10 + 0xE0)).toNat =
      char.toNat / 4096 + 0xE0 := by
    rw [UInt8.toNat_ofNat']
    omega
  obtain ⟨low, high, leading, lowest, highest⟩ :=
    lead?_three (UInt8.ofNat (char.toNat / 4096 % 0x10 + 0xE0)) (by omega) (by omega)
  rw [byte] at lowest highest
  -- Two bytes would do below 0x800, and 0xD800 begins the halves of pairs.
  have reached : low.toNat ≤ char.toNat / 64 % 0x40 + 0x80 := by split at lowest <;> omega
  have within : char.toNat / 64 % 0x40 + 0x80 ≤ high.toNat := by split at highest <;> omega
  simp only [written, List.cons_append, List.nil_append]
  apply pieces_cons leading
  simp only [byte, Nat.add_sub_cancel]
  rw [readFollowing_continuation reached within, readFollowing_continuation_of_later, readFollowing]
  congr 2
  omega

theorem pieces_four (above : 0x10000 ≤ char.toNat) :
    pieces (String.utf8EncodeChar char ++ rest) = some char :: pieces rest := by
  have valid : char.toNat < 0xD800 ∨ (0xDFFF < char.toNat ∧ char.toNat < 0x110000) := char.valid
  have written : String.utf8EncodeChar char =
      [UInt8.ofNat (char.toNat / 262144 % 0x08 + 0xF0), continuation (char.toNat / 4096),
        continuation (char.toNat / 64), continuation char.toNat] := by
    unfold String.utf8EncodeChar
    rw [Char.toNat_val, if_neg (by omega), if_neg (by omega), if_neg (by omega)]
    rfl
  have byte : (UInt8.ofNat (char.toNat / 262144 % 0x08 + 0xF0)).toNat =
      char.toNat / 262144 + 0xF0 := by
    rw [UInt8.toNat_ofNat']
    omega
  obtain ⟨low, high, leading, lowest, highest⟩ :=
    lead?_four (UInt8.ofNat (char.toNat / 262144 % 0x08 + 0xF0)) (by omega) (by omega)
  rw [byte] at lowest highest
  -- Three bytes would do below 0x10000, and there is no character from 0x110000 on.
  have reached : low.toNat ≤ char.toNat / 4096 % 0x40 + 0x80 := by split at lowest <;> omega
  have within : char.toNat / 4096 % 0x40 + 0x80 ≤ high.toNat := by split at highest <;> omega
  simp only [written, List.cons_append, List.nil_append]
  apply pieces_cons leading
  simp only [byte, Nat.add_sub_cancel]
  rw [readFollowing_continuation reached within,
    readFollowing_continuation_of_later, readFollowing_continuation_of_later, readFollowing]
  congr 2
  omega

theorem pieces_utf8EncodeChar :
    pieces (String.utf8EncodeChar char ++ rest) = some char :: pieces rest := by
  by_cases one : char.toNat < 0x80
  · exact pieces_one one
  · by_cases two : char.toNat < 0x800
    · exact pieces_two (by omega) two
    · by_cases three : char.toNat < 0x10000
      · exact pieces_three (by omega) three
      · exact pieces_four (by omega)

end Characters

/-! ## Texts -/

theorem pieces_encode (chars : List Char) : pieces (encode chars) = chars.map some := by
  induction chars with
  | nil => simp [encode, pieces]
  | cons char chars ih =>
      rw [encode, List.flatMap_cons, pieces_utf8EncodeChar, List.map_cons, ← ih, encode]

theorem encode_append (front rest : List Char) :
    encode (front ++ rest) = encode front ++ encode rest :=
  List.flatMap_append

theorem decode?_encode (chars : List Char) : decode? (encode chars) = some chars := by
  rw [decode?, pieces_encode]
  induction chars with
  | nil => rfl
  | cons char chars ih => simp only [List.map_cons, List.mapM_cons, ih, id, Option.bind_eq_bind,
      Option.bind_some, Option.pure_def]

/-- Every text can be read from its own bytes. -/
theorem decodeString?_encodeString (text : String) :
    decodeString? (encodeString text) = some text := by
  rw [decodeString?, encodeString, decode?_encode, Option.map_some, String.ofList_toList]

/-! ## ASCII -/

/-- Every byte of a longer form is past ASCII. -/
theorem le_toNat_of_mem_utf8EncodeChar {char : Char} (above : 0x80 ≤ char.toNat) :
    ∀ byte ∈ String.utf8EncodeChar char, 0x80 ≤ byte.toNat := by
  have marked {value base : Nat} (low : 0x80 ≤ base) (high : value + base < 0x100) :
      0x80 ≤ (UInt8.ofNat (value + base)).toNat := by
    rw [UInt8.toNat_ofNat']
    omega
  unfold String.utf8EncodeChar
  rw [Char.toNat_val, if_neg (by omega)]
  split
  · simp only [List.forall_mem_cons]
    exact ⟨marked (by omega) (by omega), marked (by omega) (by omega), by simp⟩
  split
  · simp only [List.forall_mem_cons]
    exact ⟨marked (by omega) (by omega), marked (by omega) (by omega),
      marked (by omega) (by omega), by simp⟩
  · simp only [List.forall_mem_cons]
    exact ⟨marked (by omega) (by omega), marked (by omega) (by omega),
      marked (by omega) (by omega), marked (by omega) (by omega), by simp⟩

theorem lineFeed_notMem_encode {chars : List Char} (unbroken : '\n' ∉ chars) :
    0x0A ∉ encode chars := by
  intro mem
  obtain ⟨char, inside, among⟩ := List.mem_flatMap.mp mem
  by_cases ascii : char.toNat < 0x80
  · rw [utf8EncodeChar_of_ascii ascii, List.mem_singleton] at among
    have code := congrArg UInt8.toNat among
    rw [UInt8.toNat_ofNat', Nat.mod_eq_of_lt (by omega)] at code
    have same : '\n' = char := Char.toNat_inj.mp code
    exact unbroken (same ▸ inside)
  · have above := le_toNat_of_mem_utf8EncodeChar (by omega) _ among
    simp at above

end TrustGate.Utf8
