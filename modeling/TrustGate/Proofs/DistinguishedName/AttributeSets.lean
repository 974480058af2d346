import TrustGate.Proofs.DistinguishedName.Rendering

/-!
# Sets of several attributes

The attributes of one set are rendered with plus signs between them, and plus
signs in values are escaped. Parsing knows nothing of plus signs. It divides a
rendered name at commas alone, so it takes a whole set for one attribute: the
key is that of the first attribute, and all that stands behind this key is the
value. The others of the set are not found, and their keys and values are in the
field of the first one, if it has one.

The main statement says exactly when this does no harm, that is when each field
is what one attribute of the name says. The closed statement after it shows a
name of two attributes in one set whose common name holds both.
-/

namespace TrustGate

namespace DistinguishedName

open Text X509

/-! ## What is stored in a field -/

/-- Whether a set of attributes begins with one for a field. -/
def Field.leads (field : Field) (set : List Attribute) : Bool :=
  set.head?.any field.isNamedBy

/-- The last set that begins with an attribute for a field, or no attributes. -/
def Field.setIn (field : Field) (name : Name) : List Attribute :=
  (name.reverse.find? field.leads).getD []

theorem lastValue_setReading? (field : Field) (name : Name) :
    (lastValue field (name.filterMap setReading?)).getD [] =
      trim (setValue (field.setIn name)) := by
  induction name using List.reverseRecOn with
  | nil => rfl
  | append_singleton name set ih =>
      rcases set with _ | ⟨first, others⟩
      · have dropped : setReading? [] = none := rfl
        simpa [List.filterMap_cons, dropped, Field.setIn, Field.leads] using ih
      · have said : setReading? (first :: others) =
            some ((reading first).1, trim (setValue (first :: others))) := rfl
        simp only [List.filterMap_append, List.filterMap_cons, said, List.filterMap_nil,
          lastValue_concat, reading_fst_iff]
        by_cases named : field.isNamedBy first
        · simp [Field.setIn, Field.leads, named]
        · simpa [Field.setIn, Field.leads, named] using ih

/-- Reading a rendered name fails for want of a common name alone. -/
theorem parse_render_eq (name : Name) : ∃ info : SubjectInfo,
    (∀ field : Field, info.get field = String.ofList (trim (setValue (field.setIn name)))) ∧
      SubjectInfo.parse (String.ofList (render name)) =
        if info.commonName.isEmpty then .error .missingCommonName else .ok info := by
  have readings : (components (String.ofList (render name)).toList).map readComponent =
      (name.filterMap setReading?).map .ok := by
    rw [String.toList_ofList, map_readComponent_render]
  refine ⟨_, fun field => ?_, SubjectInfo.parse_of_readings readings⟩
  rw [SubjectInfo.get_of_readings, lastValue_setReading?]

theorem get_of_parse_render {name : Name} {info : SubjectInfo}
    (read : SubjectInfo.parse (String.ofList (render name)) = .ok info) (field : Field) :
    info.get field = String.ofList (trim (setValue (field.setIn name))) := by
  obtain ⟨stored, said, result⟩ := parse_render_eq name
  rw [result] at read
  split at read
  · cases read
  · obtain rfl := Except.ok.inj read
    exact said field

/-- A set that is stored begins with an attribute for the field; if none is stored, none does. -/
theorem setIn_cases (field : Field) (name : Name) :
    (field.setIn name = [] ∧ ∀ set ∈ name, field.leads set = false) ∨
      ∃ first others, field.setIn name = first :: others ∧ (first :: others) ∈ name ∧
        field.isNamedBy first = true := by
  unfold Field.setIn
  cases last : name.reverse.find? field.leads with
  | none => exact .inl ⟨rfl, by simpa using last⟩
  | some set =>
      have leads := List.find?_some last
      have among := List.mem_of_find?_eq_some last
      rcases set with _ | ⟨first, others⟩
      · simp [Field.leads] at leads
      · exact .inr ⟨first, others, rfl, by simpa using among, by simpa [Field.leads] using leads⟩

/-- A plus sign stands between the attributes of a set. -/
theorem trim_setValue_ne_nil (first second : Attribute) (others : List Attribute) :
    trim (setValue (first :: second :: others)) ≠ [] := by
  have visible : isBlank '+' = false := rfl
  have parted : setValue (first :: second :: others) = (first.value.written ++ [' ']) ++ '+' ::
      ' ' :: (keyed second ++ others.flatMap ([' ', '+', ' '] ++ keyed ·)) := by
    simp [setValue]
  rw [parted, trim_append_cons visible]
  simp

/-! ## Fields that are read as one attribute says -/

/-- Each field that is not empty is what one attribute for it says, and an attribute that is the
only one for a field is found there. -/
structure SplitsBack (name : Name) (info : SubjectInfo) : Prop where
  single (field : Field) : info.get field ≠ "" → ∃ item ∈ name.flatten,
    field.isNamedBy item = true ∧ info.get field = String.ofList (trim item.value.written)
  found (field : Field) (item : Attribute) : name.flatten.filter field.isNamedBy = [item] →
    info.get field = String.ofList (trim item.value.written)

/-- Whether a field of a rendered name is read as one attribute says. If no set begins with an
attribute for it, it is empty. If the last set that does has further attributes, it holds the
whole set, and another attribute for it has to say just this. -/
def Field.IsKeptIn (field : Field) (name : Name) : Prop :=
  match field.setIn name with
  | [] => ∀ item, name.flatten.filter field.isNamedBy = [item] → trim item.value.written = []
  | [_] => True
  | set => ∃ item ∈ name.flatten, field.isNamedBy item = true ∧
      trim item.value.written = trim (setValue set)

theorem eq_of_only {field : Field} {name : Name} {item only : Attribute}
    (unique : name.flatten.filter field.isNamedBy = [only]) (inside : item ∈ name.flatten)
    (named : field.isNamedBy item = true) : item = only := by
  have among := List.mem_filter.mpr ⟨inside, named⟩
  rwa [unique, List.mem_singleton] at among

/-- One attribute for a field that says what is stored there is all that is asked of the field. -/
theorem kept_of_item {field : Field} {name : Name} {item : Attribute} {value : List Char}
    (inside : item ∈ name.flatten) (named : field.isNamedBy item = true)
    (said : trim item.value.written = value) :
    (value ≠ [] → ∃ item ∈ name.flatten,
      field.isNamedBy item = true ∧ value = trim item.value.written) ∧
    ∀ only, name.flatten.filter field.isNamedBy = [only] → value = trim only.value.written := by
  refine ⟨fun _ => ⟨item, inside, named, said.symm⟩, fun only unique => ?_⟩
  rw [← eq_of_only unique inside named, said]

theorem isKeptIn_iff (field : Field) (name : Name) :
    field.IsKeptIn name ↔
      (trim (setValue (field.setIn name)) ≠ [] → ∃ item ∈ name.flatten,
        field.isNamedBy item = true ∧
          trim (setValue (field.setIn name)) = trim item.value.written) ∧
      ∀ only, name.flatten.filter field.isNamedBy = [only] →
        trim (setValue (field.setIn name)) = trim only.value.written := by
  unfold Field.IsKeptIn
  rcases setIn_cases field name with ⟨last, -⟩ | ⟨first, others, last, among, named⟩
  · have empty : trim (setValue []) = [] := rfl
    simp only [last, empty, ne_eq, not_true_eq_false, false_implies, true_and]
    exact forall₂_congr fun item _ => eq_comm
  · rcases others with _ | ⟨second, others⟩
    · have inside := List.mem_flatten.mpr ⟨_, among, List.mem_singleton_self first⟩
      have said : trim first.value.written = trim (setValue [first]) := by simp [setValue]
      simpa only [last, true_iff] using kept_of_item inside named said
    · simp only [last]
      constructor
      · rintro ⟨item, inside, named, said⟩
        exact kept_of_item inside named said
      · rintro ⟨single, -⟩
        obtain ⟨item, inside, named, said⟩ := single (trim_setValue_ne_nil first second others)
        exact ⟨item, inside, named, said.symm⟩

/-- A field is kept if no attribute for it shares a set with another attribute. -/
theorem isKeptIn_of_apart {field : Field} {name : Name}
    (apart : ∀ set ∈ name, 1 < set.length → ∀ item ∈ set, field.isNamedBy item = false) :
    field.IsKeptIn name := by
  have alone (set) (among : set ∈ name) (item) (inside : item ∈ set)
      (named : field.isNamedBy item = true) : set = [item] := by
    have short : ¬1 < set.length := fun long => by simp [apart set among long item inside] at named
    rcases set with _ | ⟨first, _ | ⟨second, others⟩⟩ <;> simp_all
  unfold Field.IsKeptIn
  rcases setIn_cases field name with ⟨last, unled⟩ | ⟨first, others, last, among, named⟩
  · rw [last]
    intro item unique
    have only : item ∈ name.flatten.filter field.isNamedBy := by simp [unique]
    obtain ⟨inside, named⟩ := List.mem_filter.mp only
    obtain ⟨set, among, within⟩ := List.mem_flatten.mp inside
    obtain rfl := alone set among item within named
    simpa [Field.leads, named] using unled _ among
  · obtain rfl : others = [] := by simpa using alone _ among first List.mem_cons_self named
    simp [last]

end DistinguishedName

open DistinguishedName X509

/-- A rendered name splits back exactly if each field is kept in it. -/
theorem SubjectInfo.splits_back_iff {name : Name} {info : SubjectInfo}
    (read : parse (String.ofList (render name)) = .ok info) :
    SplitsBack name info ↔ ∀ field : Field, field.IsKeptIn name := by
  have stored := get_of_parse_render read
  simp only [isKeptIn_iff, forall_and, ne_eq]
  constructor
  · rintro ⟨single, found⟩
    simp only [stored, ne_eq, String.ofList_eq_empty_iff, String.ofList_inj] at single found
    exact ⟨single, found⟩
  · rintro ⟨single, found⟩
    constructor <;>
      simpa only [stored, ne_eq, String.ofList_eq_empty_iff, String.ofList_inj]

/-- Domain components in one set name no field, so they spoil none. -/
theorem SubjectInfo.splits_back_beside_domain_components :
    let component : Der.ObjectId := .ofArcs [0, 9, 2342, 19200300, 100, 1, 25]
    let name : Name := [[⟨component, .text "example".toList⟩, ⟨component, .text "corp".toList⟩],
      [⟨.ofArcs [2, 5, 4, 3], .text "radius".toList⟩]]
    ∃ info, parse (String.ofList (render name)) = .ok info ∧ SplitsBack name info := by
  intro component name
  obtain ⟨info, stored, result⟩ := parse_render_eq name
  have filled : info.commonName = "radius" := (stored .commonName).trans (by decide +kernel)
  have read : parse (String.ofList (render name)) = .ok info := by
    rw [result, filled]
    rfl
  refine ⟨info, read, (splits_back_iff read).mpr fun field => ?_⟩
  apply isKeptIn_of_apart
  cases field <;> decide +kernel

/-- The organization of a set that begins with the common name is read into the common name. -/
theorem SubjectInfo.organization_read_into_common_name :
    let name : Name := [[⟨.ofArcs [2, 5, 4, 3], .text "multi".toList⟩,
      ⟨.ofArcs [2, 5, 4, 10], .text "org".toList⟩], [⟨.ofArcs [2, 5, 4, 6], .text "DE".toList⟩]]
    ∃ info, parse (String.ofList (render name)) = .ok info ∧
      info.commonName = "multi + O=org" ∧ info.organization = "" ∧ ¬SplitsBack name info := by
  intro name
  obtain ⟨info, stored, result⟩ := parse_render_eq name
  have both : info.commonName = "multi + O=org" :=
    (stored .commonName).trans (by decide +kernel)
  have none : info.organization = "" := (stored .organization).trans (by decide +kernel)
  have read : parse (String.ofList (render name)) = .ok info := by
    rw [result, both]
    rfl
  refine ⟨info, read, both, none, fun splits => ?_⟩
  have found : info.organization = String.ofList (Text.trim "org".toList) :=
    splits.found .organization ⟨.ofArcs [2, 5, 4, 10], .text "org".toList⟩ (by decide +kernel)
  rw [none] at found
  exact absurd found (by decide +kernel)

end TrustGate
