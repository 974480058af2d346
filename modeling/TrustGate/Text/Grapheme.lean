import TrustGate.Text.Printable

/-!
# Grapheme clusters

Text falls into clusters, each of which is shown as one sign: a character with
the marks that attach to it, a syllable put together from its letters, a flag,
or several pictographs joined into one. `clusters` cuts between two characters
unless a rule forbids it; nothing is lost or put in another order.

The rules are those of extended grapheme clusters. The class of a character
decides, and beyond that only what stands in front of it: a pictograph, the
first half of a flag, or a consonant with the sign that links it to the next.
-/

namespace TrustGate.Text

/-- Marks that take room of their own and still belong to the character before them. -/
def spacingMarks : CharSet := ⟨[
  0x903, 0x904, 0x93B, 0x93C, 0x93E, 0x941, 0x949, 0x94D, 0x94E, 0x950, 0x982, 0x984, 0x9BF,
  0x9C1, 0x9C7, 0x9C9, 0x9CB, 0x9CD, 0xA03, 0xA04, 0xA3E, 0xA41, 0xA83, 0xA84, 0xABE, 0xAC1,
  0xAC9, 0xACA, 0xACB, 0xACD, 0xB02, 0xB04, 0xB40, 0xB41, 0xB47, 0xB49, 0xB4B, 0xB4D, 0xBBF,
  0xBC0, 0xBC1, 0xBC3, 0xBC6, 0xBC9, 0xBCA, 0xBCD, 0xC01, 0xC04, 0xC41, 0xC45, 0xC82, 0xC84,
  0xCBE, 0xCBF, 0xCC0, 0xCC2, 0xCC3, 0xCC5, 0xCC7, 0xCC9, 0xCCA, 0xCCC, 0xCF3, 0xCF4, 0xD02,
  0xD04, 0xD3F, 0xD41, 0xD46, 0xD49, 0xD4A, 0xD4D, 0xD82, 0xD84, 0xDD0, 0xDD2, 0xDD8, 0xDDF,
  0xDF2, 0xDF4, 0xE33, 0xE34, 0xEB3, 0xEB4, 0xF3E, 0xF40, 0xF7F, 0xF80, 0x1031, 0x1032, 0x103B,
  0x103D, 0x1056, 0x1058, 0x1084, 0x1085, 0x1715, 0x1716, 0x1734, 0x1735, 0x17B6, 0x17B7, 0x17BE,
  0x17C6, 0x17C7, 0x17C9, 0x1923, 0x1927, 0x1929, 0x192C, 0x1930, 0x1932, 0x1933, 0x1939, 0x1A19,
  0x1A1B, 0x1A55, 0x1A56, 0x1A57, 0x1A58, 0x1A6D, 0x1A73, 0x1B04, 0x1B05, 0x1B3B, 0x1B3C, 0x1B3D,
  0x1B42, 0x1B43, 0x1B45, 0x1B82, 0x1B83, 0x1BA1, 0x1BA2, 0x1BA6, 0x1BA8, 0x1BAA, 0x1BAB, 0x1BE7,
  0x1BE8, 0x1BEA, 0x1BED, 0x1BEE, 0x1BEF, 0x1BF2, 0x1BF4, 0x1C24, 0x1C2C, 0x1C34, 0x1C36, 0x1CE1,
  0x1CE2, 0x1CF7, 0x1CF8, 0xA823, 0xA825, 0xA827, 0xA828, 0xA880, 0xA882, 0xA8B4, 0xA8C4, 0xA952,
  0xA954, 0xA983, 0xA984, 0xA9B4, 0xA9B6, 0xA9BA, 0xA9BC, 0xA9BE, 0xA9C1, 0xAA2F, 0xAA31, 0xAA33,
  0xAA35, 0xAA4D, 0xAA4E, 0xAAEB, 0xAAEC, 0xAAEE, 0xAAF0, 0xAAF5, 0xAAF6, 0xABE3, 0xABE5, 0xABE6,
  0xABE8, 0xABE9, 0xABEB, 0xABEC, 0xABED, 0x11000, 0x11001, 0x11002, 0x11003, 0x11082, 0x11083,
  0x110B0, 0x110B3, 0x110B7, 0x110B9, 0x1112C, 0x1112D, 0x11145, 0x11147, 0x11182, 0x11183,
  0x111B3, 0x111B6, 0x111BF, 0x111C1, 0x111CE, 0x111CF, 0x1122C, 0x1122F, 0x11232, 0x11234,
  0x11235, 0x11236, 0x112E0, 0x112E3, 0x11302, 0x11304, 0x1133F, 0x11340, 0x11341, 0x11345,
  0x11347, 0x11349, 0x1134B, 0x1134E, 0x11362, 0x11364, 0x11435, 0x11438, 0x11440, 0x11442,
  0x11445, 0x11446, 0x114B1, 0x114B3, 0x114B9, 0x114BA, 0x114BB, 0x114BD, 0x114BE, 0x114BF,
  0x114C1, 0x114C2, 0x115B0, 0x115B2, 0x115B8, 0x115BC, 0x115BE, 0x115BF, 0x11630, 0x11633,
  0x1163B, 0x1163D, 0x1163E, 0x1163F, 0x116AC, 0x116AD, 0x116AE, 0x116B0, 0x116B6, 0x116B7,
  0x11726, 0x11727, 0x1182C, 0x1182F, 0x11838, 0x11839, 0x11931, 0x11936, 0x11937, 0x11939,
  0x1193D, 0x1193E, 0x11940, 0x11941, 0x11942, 0x11943, 0x119D1, 0x119D4, 0x119DC, 0x119E0,
  0x119E4, 0x119E5, 0x11A39, 0x11A3A, 0x11A57, 0x11A59, 0x11A97, 0x11A98, 0x11C2F, 0x11C30,
  0x11C3E, 0x11C3F, 0x11CA9, 0x11CAA, 0x11CB1, 0x11CB2, 0x11CB4, 0x11CB5, 0x11D8A, 0x11D8F,
  0x11D93, 0x11D95, 0x11D96, 0x11D97, 0x11EF5, 0x11EF7, 0x11F03, 0x11F04, 0x11F34, 0x11F36,
  0x11F3E, 0x11F40, 0x11F41, 0x11F42, 0x16F51, 0x16F88, 0x16FF0, 0x16FF2, 0x1D166, 0x1D167,
  0x1D16D, 0x1D16E]⟩

/-- Signs that belong to the character after them. -/
def prepended : CharSet := ⟨[
  0x600, 0x606, 0x6DD, 0x6DE, 0x70F, 0x710, 0x890, 0x892, 0x8E2, 0x8E3, 0xD4E, 0xD4F, 0x110BD,
  0x110BE, 0x110CD, 0x110CE, 0x111C2, 0x111C4, 0x1193F, 0x11940, 0x11941, 0x11942, 0x11A3A,
  0x11A3B, 0x11A84, 0x11A8A, 0x11D46, 0x11D47, 0x11F02, 0x11F03]⟩

/-- Control and format characters, which always stand alone. -/
def clusterControls : CharSet := ⟨[
  0x0, 0x20, 0x7F, 0xA0, 0xAD, 0xAE, 0x61C, 0x61D, 0x180E, 0x180F, 0x200B, 0x200C, 0x200E, 0x2010,
  0x2028, 0x202F, 0x2060, 0x2070, 0xFEFF, 0xFF00, 0xFFF0, 0xFFFC, 0x13430, 0x13440, 0x1BCA0,
  0x1BCA4, 0x1D173, 0x1D17B, 0xE0000, 0xE0020, 0xE0080, 0xE0100, 0xE01F0, 0xE1000]⟩

def pictographs : CharSet := ⟨[
  0xA9, 0xAA, 0xAE, 0xAF, 0x203C, 0x203D, 0x2049, 0x204A, 0x2122, 0x2123, 0x2139, 0x213A, 0x2194,
  0x219A, 0x21A9, 0x21AB, 0x231A, 0x231C, 0x2328, 0x2329, 0x2388, 0x2389, 0x23CF, 0x23D0, 0x23E9,
  0x23F4, 0x23F8, 0x23FB, 0x24C2, 0x24C3, 0x25AA, 0x25AC, 0x25B6, 0x25B7, 0x25C0, 0x25C1, 0x25FB,
  0x25FF, 0x2600, 0x2606, 0x2607, 0x2613, 0x2614, 0x2686, 0x2690, 0x2706, 0x2708, 0x2713, 0x2714,
  0x2715, 0x2716, 0x2717, 0x271D, 0x271E, 0x2721, 0x2722, 0x2728, 0x2729, 0x2733, 0x2735, 0x2744,
  0x2745, 0x2747, 0x2748, 0x274C, 0x274D, 0x274E, 0x274F, 0x2753, 0x2756, 0x2757, 0x2758, 0x2763,
  0x2768, 0x2795, 0x2798, 0x27A1, 0x27A2, 0x27B0, 0x27B1, 0x27BF, 0x27C0, 0x2934, 0x2936, 0x2B05,
  0x2B08, 0x2B1B, 0x2B1D, 0x2B50, 0x2B51, 0x2B55, 0x2B56, 0x3030, 0x3031, 0x303D, 0x303E, 0x3297,
  0x3298, 0x3299, 0x329A, 0x1F000, 0x1F100, 0x1F10D, 0x1F110, 0x1F12F, 0x1F130, 0x1F16C, 0x1F172,
  0x1F17E, 0x1F180, 0x1F18E, 0x1F18F, 0x1F191, 0x1F19B, 0x1F1AD, 0x1F1E6, 0x1F201, 0x1F210,
  0x1F21A, 0x1F21B, 0x1F22F, 0x1F230, 0x1F232, 0x1F23B, 0x1F23C, 0x1F240, 0x1F249, 0x1F3FB,
  0x1F400, 0x1F53E, 0x1F546, 0x1F650, 0x1F680, 0x1F700, 0x1F774, 0x1F780, 0x1F7D5, 0x1F800,
  0x1F80C, 0x1F810, 0x1F848, 0x1F850, 0x1F85A, 0x1F860, 0x1F888, 0x1F890, 0x1F8AE, 0x1F900,
  0x1F90C, 0x1F93B, 0x1F93C, 0x1F946, 0x1F947, 0x1FB00, 0x1FC00, 0x1FFFE]⟩

/-- Consonants that can be linked to others in one sign. -/
def linkedConsonants : CharSet := ⟨[
  0x915, 0x93A, 0x958, 0x960, 0x978, 0x980, 0x995, 0x9A9, 0x9AA, 0x9B1, 0x9B2, 0x9B3, 0x9B6, 0x9BA,
  0x9DC, 0x9DE, 0x9DF, 0x9E0, 0x9F0, 0x9F2, 0xA95, 0xAA9, 0xAAA, 0xAB1, 0xAB2, 0xAB4, 0xAB5, 0xABA,
  0xAF9, 0xAFA, 0xB15, 0xB29, 0xB2A, 0xB31, 0xB32, 0xB34, 0xB35, 0xB3A, 0xB5C, 0xB5E, 0xB5F, 0xB60,
  0xB71, 0xB72, 0xC15, 0xC29, 0xC2A, 0xC3A, 0xC58, 0xC5B, 0xD15, 0xD3B]⟩

/-- Signs that link a consonant to the next. -/
def isLinker (code : Nat) : Bool :=
  code == 0x94D || code == 0x9CD || code == 0xACD || code == 0xB4D || code == 0xC4D || code == 0xD4D

inductive ClusterClass
  | carriageReturn
  | lineFeed
  | control
  | extend
  | linker
  | joiner
  /-- A sign that keeps its neighbours apart. -/
  | nonJoiner
  | flagHalf
  | prepended
  | spacingMark
  | leadingJamo
  | vowelJamo
  | trailingJamo
  /-- A syllable without a final consonant. -/
  | openSyllable
  /-- A syllable with a final consonant. -/
  | closedSyllable
  | pictograph
  | consonant
  | other
deriving Repr, DecidableEq

def within (code first last : Nat) : Bool :=
  first ≤ code && code ≤ last

def isToneModifier (char : Char) : Bool :=
  within char.toNat 0x1F3FB 0x1F3FF

/-- The class of a letter or syllable of Hangul, if a character is one. -/
def hangulClass? (code : Nat) : Option ClusterClass :=
  if within code 0x1100 0x115F || within code 0xA960 0xA97C then some .leadingJamo
  else if within code 0x1160 0x11A7 || within code 0xD7B0 0xD7C6 then some .vowelJamo
  else if within code 0x11A8 0x11FF || within code 0xD7CB 0xD7FB then some .trailingJamo
  else if within code 0xAC00 0xD7A3 then
    some (if (code - 0xAC00) % 28 = 0 then .openSyllable else .closedSyllable)
  else none

def clusterClass (char : Char) : ClusterClass :=
  let code := char.toNat
  if code = 0x0D then .carriageReturn
  else if code = 0x0A then .lineFeed
  else if code = 0x200C then .nonJoiner
  else if code = 0x200D then .joiner
  else if clusterControls.contains char then .control
  else if code < 0x7F then .other
  else if isLinker code then .linker
  else if isToneModifier char || graphemeExtend.contains char then .extend
  else if within code 0x1F1E6 0x1F1FF then .flagHalf
  else if prepended.contains char then .prepended
  else if spacingMarks.contains char then .spacingMark
  else if pictographs.contains char then .pictograph
  else if linkedConsonants.contains char then .consonant
  else (hangulClass? code).getD .other

/-- How far a group of linked consonants has come. -/
inductive ConjunctState
  | none
  | consonant
  /-- After a consonant and a sign that links it. -/
  | linked
deriving Repr, DecidableEq

/-- What stands in front of a place where a cluster may end. -/
structure ClusterContext where
  previous : ClusterClass
  /-- Whether a pictograph and marks, perhaps with a joiner, lead up to the place. -/
  afterPictograph : Bool
  /-- Whether an odd number of flag halves leads up to the place. -/
  afterFlagHalf : Bool
  conjunct : ConjunctState

/-- Whether characters of two Hangul classes stay together. -/
def joinsHangul : ClusterClass → ClusterClass → Bool
  | .leadingJamo, .leadingJamo | .leadingJamo, .vowelJamo
  | .leadingJamo, .openSyllable | .leadingJamo, .closedSyllable => true
  | .openSyllable, .vowelJamo | .openSyllable, .trailingJamo
  | .vowelJamo, .vowelJamo | .vowelJamo, .trailingJamo => true
  | .closedSyllable, .trailingJamo | .trailingJamo, .trailingJamo => true
  | _, _ => false

def standsAlone (kind : ClusterClass) : Bool :=
  kind = .carriageReturn || kind = .lineFeed || kind = .control

/-- Whether a class belongs to a mark without room of its own. -/
def isMark (kind : ClusterClass) : Bool :=
  kind = .extend || kind = .linker || kind = .nonJoiner

/-- Whether no cluster ends before a character of a class. -/
def ClusterContext.joins (context : ClusterContext) (next : ClusterClass) : Bool :=
  if context.previous = .carriageReturn && next = .lineFeed then true
  else if standsAlone context.previous || standsAlone next then false
  else
    isMark next || next = .joiner || next = .spacingMark || context.previous = .prepended ||
      joinsHangul context.previous next || (context.conjunct = .linked && next = .consonant) ||
      (context.previous = .joiner && context.afterPictograph && next = .pictograph) ||
      (context.afterFlagHalf && next = .flagHalf)

def ConjunctState.advance (state : ConjunctState) (next : ClusterClass) : ConjunctState :=
  match next with
  | .consonant => .consonant
  | .linker => if state = .none then .none else .linked
  | .extend | .joiner => state
  | _ => .none

def ClusterContext.advance (context? : Option ClusterContext) (next : ClusterClass) :
    ClusterContext where
  previous := next
  afterPictograph :=
    next = .pictograph ||
      ((isMark next || next = .joiner) &&
        (context?.map fun context =>
          context.afterPictograph && context.previous ≠ .joiner).getD false)
  afterFlagHalf :=
    next = .flagHalf && !(context?.map ClusterContext.afterFlagHalf).getD false
  conjunct := ((context?.map ClusterContext.conjunct).getD .none).advance next

/-- The clusters of a text that follows a context. The first one continues the cluster in front of
it, if the rules join them. -/
def clustersFrom (context? : Option ClusterContext) : List Char → List (List Char)
  | [] => []
  | char :: chars =>
      let next := clusterClass char
      let context := ClusterContext.advance context? next
      match clustersFrom (some context) chars, chars with
      | cluster :: clusters, following :: _ =>
          if context.joins (clusterClass following) then (char :: cluster) :: clusters
          else [char] :: cluster :: clusters
      | clusters, _ => [char] :: clusters

def clusters (chars : List Char) : List (List Char) :=
  clustersFrom none chars

end TrustGate.Text
