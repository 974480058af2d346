import TrustGate.Certificate
import TrustGate.Proofs.Pem

/-!
# Certificate files

A file is read as PEM just if only ASCII blanks stand in front of the first mark of a
block. So blank lines may, and a certificate is then read from the block as from the
bytes in it, whatever the layout. Other text may not, although the reader of blocks
would pass over it: such a file is read as DER, and no text is that, since neither a
blank nor a dash begins a sequence.
-/

namespace TrustGate

/-! ## How elements begin -/

namespace Der

/-- Whether bytes begin with the identifier of a tag number, or with one in the long form. -/
def BeginsWithTag (tag : Nat) (bytes : Bytes) : Prop :=
  ∃ first rest, bytes = first :: rest ∧ (first.toNat % 32 = tag ∨ first.toNat % 32 = 31)

theorem beginsWithTag_of_readHeader {bytes later : Bytes} {header : Header}
    (read : readHeader bytes = some (header, later)) : BeginsWithTag header.tag bytes := by
  cases bytes with
  | nil => cases read
  | cons first rest =>
      refine ⟨first, rest, rfl, ?_⟩
      rcases Option.bind_eq_some_iff.mp read with ⟨⟨tag, _⟩, tagged, measured⟩
      rcases Option.bind_eq_some_iff.mp measured with ⟨⟨length, _⟩, -, made⟩
      cases made
      unfold readTag at tagged
      split at tagged
      case isTrue long => exact .inr long
      case isFalse =>
        cases tagged
        exact .inl rfl

theorem beginsWithTag_of_readTagged {tag : Nat} {bytes later : Bytes} {element : Element}
    (read : readTagged tag bytes = some (element, later)) : BeginsWithTag tag bytes := by
  rcases Option.bind_eq_some_iff.mp read with ⟨⟨whole, _⟩, readWhole, checked⟩
  rcases Option.bind_eq_some_iff.mp readWhole with ⟨⟨header, content⟩, headed, cut⟩
  rcases Option.bind_eq_some_iff.mp cut with ⟨_, -, made⟩
  cases made
  rcases Option.bind_eq_some_iff.mp checked with ⟨_, passed, -⟩
  by_cases same : header.tag = tag
  · exact same ▸ beginsWithTag_of_readHeader headed
  · change (if header.tag = tag then some () else none) = _ at passed
    rw [if_neg same] at passed
    cases passed

end Der

namespace ServerCertificate

/-! ## Files that look like PEM -/

/-- Whether only blanks stand in front of the mark of a block. -/
def StartsAtMark (file : Bytes) : Prop :=
  ∃ gap later, file = gap ++ pemMark ++ later ∧ ∀ byte ∈ gap, isAsciiBlank byte = true

theorem looksLikePem_iff (file : Bytes) : looksLikePem file = true ↔ StartsAtMark file := by
  rw [looksLikePem, List.isPrefixOf_iff_prefix]
  constructor
  · rintro ⟨later, rest⟩
    refine ⟨file.takeWhile isAsciiBlank, later, ?_, List.all_eq_true.mp List.all_takeWhile⟩
    rw [List.append_assoc, rest, List.takeWhile_append_dropWhile]
  · rintro ⟨gap, later, rfl, blank⟩
    have mark : (pemMark ++ later).dropWhile isAsciiBlank = pemMark ++ later := rfl
    rw [List.append_assoc, List.dropWhile_append_of_pos blank, mark]
    exact List.prefix_append ..

theorem ofFile_of_startsAtMark {file contents : Bytes} (starts : StartsAtMark file)
    (block : Pem.decode file = .ok contents) : ofFile file = ofDer contents := by
  have filled : file.isEmpty = false := by
    rcases starts with ⟨gap, later, rfl, -⟩
    cases gap <;> rfl
  rw [ofFile, filled, (looksLikePem_iff file).mpr starts, block]
  rfl

theorem ofFile_of_not_startsAtMark {file : Bytes} (starts : ¬StartsAtMark file) :
    ofFile file = ofDer file := by
  have plain : looksLikePem file = false := by
    rwa [← looksLikePem_iff, Bool.not_eq_true] at starts
  by_cases empty : file.isEmpty <;> simp [ofFile, ofDer, empty, plain]

/-! ## Blocks with blank lines in front -/

theorem startsAtMark_file {contents : Bytes} {layout : Pem.Layout contents}
    (blank : ∀ line ∈ layout.front, line.bytes.all isAsciiBlank = true) :
    StartsAtMark layout.file := by
  have mark : Utf8.encode Pem.openingMark = pemMark ++ [0x20] := by decide
  have opening : pemMark <+: layout.opening.bytes := by
    refine ⟨0x20 :: Utf8.encode (layout.label ++ Pem.dashes ++ layout.openingEnd.chars), ?_⟩
    rw [← List.singleton_append, ← List.append_assoc, ← mark, ← Utf8.encode_append]
    simp [Pem.Line.bytes, Pem.Line.chars, Pem.Layout.opening]
  rcases opening with ⟨rest, opening⟩
  refine ⟨layout.front.flatMap Pem.Line.bytes,
    rest ++ (layout.body.flatMap Pem.Line.bytes ++ layout.ending), ?_, ?_⟩
  · simp only [Pem.Layout.file, ← opening, List.flatMap_append, List.flatMap_cons,
      List.append_assoc]
  · intro byte mem
    rcases List.mem_flatMap.mp mem with ⟨line, inFront, inside⟩
    exact List.all_eq_true.mp (blank line inFront) byte inside

/-- A certificate in a block is decoded as its bytes are, whatever the bytes are, however their
Base64 text is cut into lines, whatever the label and the line ends, and however many blank lines
stand in front. -/
theorem ofFile_layout {contents : Bytes} (layout : Pem.Layout contents)
    (blank : ∀ line ∈ layout.front, line.bytes.all isAsciiBlank = true) :
    ofFile layout.file = ofDer contents :=
  ofFile_of_startsAtMark (startsAtMark_file blank) layout.decode_file

/-- A certificate with the subject CN=radius. -/
def radiusCertificate : Bytes := [
  0x30, 0x81, 0xDE, 0x30, 0x81, 0xB9, 0xA0, 0x03, 0x02, 0x01, 0x02, 0x02, 0x01, 0x01, 0x30, 0x0D,
  0x06, 0x09, 0x2A, 0x86, 0x48, 0x86, 0xF7, 0x0D, 0x01, 0x01, 0x0B, 0x05, 0x00, 0x30, 0x12, 0x31,
  0x10, 0x30, 0x0E, 0x06, 0x03, 0x55, 0x04, 0x03, 0x0C, 0x07, 0x52, 0x6F, 0x6F, 0x74, 0x20, 0x43,
  0x41, 0x30, 0x1E, 0x17, 0x0D, 0x32, 0x34, 0x30, 0x31, 0x30, 0x31, 0x30, 0x30, 0x30, 0x30, 0x30,
  0x30, 0x5A, 0x17, 0x0D, 0x33, 0x34, 0x30, 0x31, 0x30, 0x31, 0x30, 0x30, 0x30, 0x30, 0x30, 0x30,
  0x5A, 0x30, 0x11, 0x31, 0x0F, 0x30, 0x0D, 0x06, 0x03, 0x55, 0x04, 0x03, 0x0C, 0x06, 0x72, 0x61,
  0x64, 0x69, 0x75, 0x73, 0x30, 0x59, 0x30, 0x13, 0x06, 0x07, 0x2A, 0x86, 0x48, 0xCE, 0x3D, 0x02,
  0x01, 0x06, 0x08, 0x2A, 0x86, 0x48, 0xCE, 0x3D, 0x03, 0x01, 0x07, 0x03, 0x42, 0x00, 0x04, 0x00,
  0x01, 0x02, 0x03, 0x04, 0x05, 0x06, 0x07, 0x08, 0x09, 0x0A, 0x0B, 0x0C, 0x0D, 0x0E, 0x0F, 0x10,
  0x11, 0x12, 0x13, 0x14, 0x15, 0x16, 0x17, 0x18, 0x19, 0x1A, 0x1B, 0x1C, 0x1D, 0x1E, 0x1F, 0x20,
  0x21, 0x22, 0x23, 0x24, 0x25, 0x26, 0x27, 0x28, 0x29, 0x2A, 0x2B, 0x2C, 0x2D, 0x2E, 0x2F, 0x30,
  0x31, 0x32, 0x33, 0x34, 0x35, 0x36, 0x37, 0x38, 0x39, 0x3A, 0x3B, 0x3C, 0x3D, 0x3E, 0x3F, 0x30,
  0x0D, 0x06, 0x09, 0x2A, 0x86, 0x48, 0x86, 0xF7, 0x0D, 0x01, 0x01, 0x0B, 0x05, 0x00, 0x03, 0x11,
  0x00, 0xAA, 0xAA, 0xAA, 0xAA, 0xAA, 0xAA, 0xAA, 0xAA, 0xAA, 0xAA, 0xAA, 0xAA, 0xAA, 0xAA, 0xAA,
  0xAA]

theorem ofDer_radiusCertificate : ofDer radiusCertificate =
    .ok ⟨radiusCertificate, "CN=radius", "CN=Root CA"⟩ := by
  have decoded : (ofDer radiusCertificate).toOption =
      some ⟨radiusCertificate, "CN=radius", "CN=Root CA"⟩ := by decide +kernel
  cases result : ofDer radiusCertificate with
  | error reason =>
      rw [result] at decoded
      cases decoded
  | ok certificate =>
      rw [result] at decoded
      rw [Option.some.inj decoded]

/-- A layout with blank lines in front, a label of its own, both line ends, a line of one
character, an empty one, and no end of the closing line. -/
def raggedLayout : Pem.Layout radiusCertificate :=
  { Pem.Layout.plain radiusCertificate with
    front := [{ text := [], lineEnd := .crlf, unbroken := by decide },
      { text := [' ', '\t'], unbroken := by decide }]
    label := "RADIUS é".toList
    openingEnd := .crlf
    body := [{
        text := (Base64.encode radiusCertificate).take 1
        unbroken := fun mem => Base64.lineFeed_notMem_encode _ (List.mem_of_mem_take mem) },
      { text := [], lineEnd := .crlf, unbroken := by decide },
      { text := (Base64.encode radiusCertificate).drop 1
        unbroken := fun mem => Base64.lineFeed_notMem_encode _ (List.mem_of_mem_drop mem) }]
    rest? := none
    skipped := by decide
    unbroken := by decide
    whole := by simp [-List.drop_one] }

theorem ragged_radiusCertificate_decoded : ofFile raggedLayout.file =
    .ok ⟨radiusCertificate, "CN=radius", "CN=Root CA"⟩ :=
  (ofFile_layout raggedLayout (by decide)).trans ofDer_radiusCertificate

/-! ## Blocks with other text in front -/

theorem beginsWithTag_of_ofDer {file : Bytes} {certificate : ServerCertificate}
    (decoded : ofDer file = .ok certificate) : Der.BeginsWithTag Der.Tag.sequence file := by
  unfold ofDer at decoded
  split at decoded
  case isTrue => cases decoded
  case isFalse =>
    split at decoded
    case h_1 => cases decoded
    case h_2 read =>
      rcases Option.bind_eq_some_iff.mp read with ⟨⟨element, rest⟩, tagged, -⟩
      exact Der.beginsWithTag_of_readTagged tagged

/-- No text is a certificate: neither a blank nor the dash of a mark begins a sequence. -/
theorem not_startsAtMark_of_ofDer {file : Bytes} {certificate : ServerCertificate}
    (decoded : ofDer file = .ok certificate) : ¬StartsAtMark file := by
  rintro ⟨gap, later, rfl, blank⟩
  rcases beginsWithTag_of_ofDer decoded with ⟨first, rest, bytes, tag⟩
  have textual : isAsciiBlank first = true ∨ first = 0x2D := by
    cases gap with
    | nil =>
        rw [List.nil_append] at bytes
        exact .inr (List.cons.inj bytes).1.symm
    | cons byte gap =>
        obtain rfl : byte = first := (List.cons.inj bytes).1
        exact .inl (blank byte List.mem_cons_self)
  have apart : ∀ byte : UInt8, isAsciiBlank byte = true ∨ byte = 0x2D →
      ¬(byte.toNat % 32 = 16 ∨ byte.toNat % 32 = 31) := by
    intro byte textual
    simp only [isAsciiBlank, Bool.or_eq_true, beq_iff_eq] at textual
    rcases textual with ((((rfl | rfl) | rfl) | rfl) | rfl) | rfl <;> decide
  exact apart first textual tag

/-- The first block of a file has the certificate in it, wherever it stands. -/
def HasBlock (file : Bytes) (certificate : ServerCertificate) : Prop :=
  ∃ contents, Pem.decode file = .ok contents ∧ ofDer contents = .ok certificate

theorem ofFile_eq_ok_iff_hasBlock {file : Bytes} (starts : StartsAtMark file)
    (certificate : ServerCertificate) :
    ofFile file = .ok certificate ↔ HasBlock file certificate := by
  cases block : Pem.decode file with
  | ok contents => simp [ofFile_of_startsAtMark starts block, HasBlock, block]
  | error reason =>
      have mark := (looksLikePem_iff file).mpr starts
      by_cases empty : file.isEmpty <;> simp [ofFile, HasBlock, block, mark, empty]

/-- A file yields a certificate just if it is that certificate, or if it has a block with it and
only blanks stand in front of its first mark. -/
theorem ofFile_eq_ok_iff (file : Bytes) (certificate : ServerCertificate) :
    ofFile file = .ok certificate ↔
      ofDer file = .ok certificate ∨ HasBlock file certificate ∧ StartsAtMark file := by
  by_cases starts : StartsAtMark file
  · have text : ofDer file ≠ .ok certificate := fun decoded =>
      not_startsAtMark_of_ofDer decoded starts
    simp [ofFile_eq_ok_iff_hasBlock starts, text, starts]
  · simp [ofFile_of_not_startsAtMark starts, starts]

/-- A line of text in front of the block. -/
def commentedLayout : Pem.Layout radiusCertificate :=
  { Pem.Layout.plain radiusCertificate with
    front := [{ text := "# comment".toList, unbroken := by decide }]
    skipped := by decide }

/-- The block is found and has a certificate in it, and yet the file yields none. -/
theorem commented_block_refused :
    HasBlock commentedLayout.file ⟨radiusCertificate, "CN=radius", "CN=Root CA"⟩ ∧
      ofFile commentedLayout.file = .error .der := by
  have filled : commentedLayout.file.isEmpty = false := by decide +kernel
  have text : looksLikePem commentedLayout.file = false := by decide +kernel
  have unread : X509.Certificate.read commentedLayout.file = none := by decide +kernel
  refine ⟨⟨radiusCertificate, commentedLayout.decode_file, ofDer_radiusCertificate⟩, ?_⟩
  simp only [ofFile, ofDer, filled, text, unread, Bool.false_eq_true, if_false]

end ServerCertificate

end TrustGate
