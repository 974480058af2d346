import TrustGate.Bytes.Hex

/-!
# UTF-8

Reading bytes as text. A byte string is cut into pieces, each of which is
either a character or a run of bytes that no character can take in. Strict
reading fails on any piece of the second kind; lossy reading puts the
replacement character in its place. A run ends as soon as the next byte cannot
continue the character begun, so that byte gets its own chance to start one.

The leading byte fixes how many bytes follow and, for the first of them, a
range that leaves out overlong forms, surrogates and values past U+10FFFF.
-/

namespace TrustGate.Utf8

/-- What a leading byte announces: its own bits, how many bytes follow, and the range that the
first of those must lie in. -/
structure Lead where
  bits : Nat
  following : Nat
  low : UInt8
  high : UInt8

/-- Reads a leading byte; a continuation byte or one outside the encoding is none. -/
def lead? (byte : UInt8) : Option Lead :=
  if byte < 0x80 then some ⟨byte.toNat, 0, 0x80, 0xBF⟩
  else if byte < 0xC2 then none
  else if byte < 0xE0 then some ⟨byte.toNat - 0xC0, 1, 0x80, 0xBF⟩
  else if byte = 0xE0 then some ⟨0, 2, 0xA0, 0xBF⟩
  else if byte = 0xED then some ⟨0xD, 2, 0x80, 0x9F⟩
  else if byte < 0xF0 then some ⟨byte.toNat - 0xE0, 2, 0x80, 0xBF⟩
  else if byte = 0xF0 then some ⟨0, 3, 0x90, 0xBF⟩
  else if byte < 0xF4 then some ⟨byte.toNat - 0xF0, 3, 0x80, 0xBF⟩
  else if byte = 0xF4 then some ⟨4, 3, 0x80, 0x8F⟩
  else none

/-- Reads the bytes after a leading one. The result is the code point, if they are all there, and
the bytes not taken. -/
def readFollowing : Nat → UInt8 → UInt8 → Nat → Bytes → Option Nat × Bytes
  | 0, _, _, code, rest => (some code, rest)
  | _ + 1, _, _, _, [] => (none, [])
  | count + 1, low, high, code, byte :: rest =>
      if low ≤ byte ∧ byte ≤ high then
        readFollowing count 0x80 0xBF (code * 64 + byte.toNat % 64) rest
      else (none, byte :: rest)

theorem length_readFollowing_le (count : Nat) (low high : UInt8) (code : Nat) (bytes : Bytes) :
    (readFollowing count low high code bytes).2.length ≤ bytes.length := by
  induction count generalizing low high code bytes with
  | zero => simp [readFollowing]
  | succ count ih =>
      cases bytes with
      | nil => simp [readFollowing]
      | cons byte rest =>
          simp only [readFollowing]
          split
          · exact Nat.le_trans (ih ..) (by simp)
          · simp

/-- Reads the piece that starts with the given byte, and returns what comes after it. -/
def readPiece (first : UInt8) (rest : Bytes) : Option Char × Bytes :=
  match lead? first with
  | none => (none, rest)
  | some lead =>
      let (code?, remaining) := readFollowing lead.following lead.low lead.high lead.bits rest
      (code?.map Char.ofNat, remaining)

theorem length_readPiece_le (first : UInt8) (rest : Bytes) :
    (readPiece first rest).2.length ≤ rest.length := by
  unfold readPiece
  split
  · simp
  · exact length_readFollowing_le ..

/-- The pieces of a byte string in order; `none` stands for bytes that are no character. -/
def pieces : Bytes → List (Option Char)
  | [] => []
  | first :: rest =>
      have := length_readPiece_le first rest
      (readPiece first rest).1 :: pieces (readPiece first rest).2
termination_by bytes => bytes.length
decreasing_by simp; omega

/-- The text of a byte string all of whose pieces are characters. -/
def decode? (bytes : Bytes) : Option (List Char) :=
  (pieces bytes).mapM id

/-- The text of a byte string, with U+FFFD for every piece that is no character. -/
def decodeLossy (bytes : Bytes) : List Char :=
  (pieces bytes).map (·.getD '\uFFFD')

def encode (chars : List Char) : Bytes :=
  chars.flatMap String.utf8EncodeChar

def encodeString (text : String) : Bytes :=
  encode text.toList

def decodeString? (bytes : Bytes) : Option String :=
  (decode? bytes).map String.ofList

end TrustGate.Utf8
