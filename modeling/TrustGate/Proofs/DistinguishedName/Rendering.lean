import TrustGate.Proofs.AttributeType
import TrustGate.Proofs.DistinguishedName.Fields
import TrustGate.Proofs.DistinguishedName.Splitting

/-!
# Reading a rendered name

A rendered set of attributes is closed, and its first equals sign is the one
after the key of its first attribute, so a rendered name is read set by set, each
as this key and all that stands behind it. In a set of one attribute that is its
own value. What the values say, whoever wrote them, cannot add an attribute or
change another one. Of several attributes for one field the last counts, since
each is stored over the one before.
-/

namespace TrustGate

open Text

/-! ## Attributes written out -/

/-- The text that stands for a value: itself, or its content in hexadecimal. -/
def X509.AttributeValue.written : X509.AttributeValue → List Char
  | .text chars => chars
  | .other content => '#' :: Hex.encodeChars content

namespace DistinguishedName

open X509

theorem not_isSeparator_of_mem_encodeByte {byte : UInt8} {char : Char}
    (inside : char ∈ Hex.encodeByte byte) : isSeparator char = false := by
  have digits : ∀ value < 16, isSeparator (Hex.digit value) = false := by decide
  have bounded := byte.toNat_lt
  simp only [Hex.encodeByte, List.mem_cons, List.not_mem_nil, or_false] at inside
  rcases inside with rfl | rfl
  · exact digits _ (by omega)
  · exact digits _ (by omega)

theorem escapeValue_of_plain {chars : List Char}
    (plain : ∀ char ∈ chars, isSeparator char = false) : escapeValue chars = chars := by
  induction chars with
  | nil => rfl
  | cons char chars ih =>
      obtain ⟨first, later⟩ := List.forall_mem_cons.mp plain
      simp [escapeValue_cons, first, ih later]

theorem renderValue_eq (value : AttributeValue) :
    renderValue value = escapeValue value.written := by
  cases value with
  | text chars => rfl
  | other content =>
      refine (escapeValue_of_plain ?_).symm
      intro char inside
      rcases List.mem_cons.mp inside with rfl | among
      · rfl
      · obtain ⟨byte, -, digit⟩ := List.mem_flatMap.mp among
        exact not_isSeparator_of_mem_encodeByte digit

theorem not_divides {char : Char} :
    divides char = false ↔ char ≠ ',' ∧ char ≠ '=' ∧ char ≠ '\\' := by
  simp [divides, and_assoc]

theorem undivided_key (item : Attribute) :
    ∀ char ∈ (keyOfType item.type).toList, char ≠ ',' ∧ char ≠ '=' ∧ char ≠ '\\' :=
  fun char inside => not_divides.mp ((isSolidKey_keyOfType item.type).undivided char inside)

theorem closed_renderAttribute (item : Attribute) : Closed (renderAttribute item) := by
  have key := undivided_key item
  refine (closed_of_undivided fun char inside => ?_).append (.plain (by decide) ?_)
  · exact ⟨(key char inside).1, (key char inside).2.2⟩
  · rw [renderValue_eq]
    exact closed_escapeValue item.value.written

/-- An attribute without escapes. -/
def keyed (item : Attribute) : List Char :=
  (keyOfType item.type).toList ++ '=' :: item.value.written

theorem spells_renderAttribute (item : Attribute) : Spells (keyed item) (renderAttribute item) := by
  refine (spells_self fun char inside => (undivided_key item char inside).2.2).append
    (.plain (by decide) ?_)
  rw [renderValue_eq]
  exact spells_escapeValue item.value.written

/-! ## Sets written out -/

/-- What stands behind the first key of a set of attributes, without escapes. -/
def setValue : List Attribute → List Char
  | [] => []
  | first :: others => first.value.written ++ others.flatMap ([' ', '+', ' '] ++ keyed ·)

theorem renderAttributeSet_cons (first : Attribute) (others : List Attribute) :
    renderAttributeSet (first :: others) =
      renderAttribute first ++ others.flatMap ([' ', '+', ' '] ++ renderAttribute ·) := by
  induction others generalizing first with
  | nil => simp [renderAttributeSet]
  | cons next others ih =>
      have later := ih next
      simp only [renderAttributeSet, List.map_cons, List.intercalate_cons_cons] at later ⊢
      simp [later]

theorem closed_renderAttributeSet (set : List Attribute) : Closed (renderAttributeSet set) := by
  rcases set with _ | ⟨first, others⟩
  · exact .nil
  · have joint : Closed [' ', '+', ' '] := closed_of_undivided (by simp)
    rw [renderAttributeSet_cons]
    exact (closed_renderAttribute first).append
      (.flatMap fun other => joint.append (closed_renderAttribute other))

/-! ## One set read back -/

theorem trimStart_key {key : List Char} (solid : IsSolidKey key) : trimStart key = key := by
  rw [← solid.trimmed, trim, trimStart_trimEnd, trimStart_trimStart]

theorem trim_key_append {key : List Char} (solid : IsSolidKey key) (value : List Char) :
    trim (key ++ '=' :: value) = key ++ '=' :: trimEnd value := by
  have visible : isBlank '=' = false := rfl
  rw [trim_append_cons visible, trimStart_key solid]

/-- A component with a solid key is read as this key and the value behind it. -/
theorem readComponent_of_solid {key : List Char} (solid : IsSolidKey key) (value : List Char) :
    readComponent (trim (key ++ '=' :: value)) =
      .ok (Field.ofKey? key, unescape (trim value)) := by
  have undivided : ∀ char ∈ key, char ≠ '=' := fun char inside =>
    (not_divides.mp (solid.undivided char inside)).2.1
  simp only [readComponent, trim_key_append solid, splitComponent?_append undivided, trim_trimEnd]

/-- What an attribute says: the field that its key names, if any, and its value. -/
def reading (item : Attribute) : Option Field × List Char :=
  (Field.ofKey? (keyOfType item.type).toList, trim item.value.written)

/-- What a set of attributes says, if there are any: the field that its first key names, and all
that stands behind this key. -/
def setReading? (set : List Attribute) : Option (Option Field × List Char) :=
  set.head?.map fun first => ((reading first).1, trim (setValue set))

theorem trim_renderAttributeSet_ne_nil (first : Attribute) (others : List Attribute) :
    trim (renderAttributeSet (first :: others)) ≠ [] := by
  simp [renderAttributeSet_cons, renderAttribute, trim_key_append (isSolidKey_keyOfType first.type)]

theorem readComponent_renderAttributeSet (first : Attribute) (others : List Attribute) :
    readComponent (trim (renderAttributeSet (first :: others))) =
      .ok ((reading first).1, trim (setValue (first :: others))) := by
  have joint : Spells [' ', '+', ' '] [' ', '+', ' '] := spells_self (by simp)
  have spells := (spells_escapeValue first.value.written).append <|
    Spells.flatMap (fun other => joint.append (spells_renderAttribute other)) others
  rw [renderAttributeSet_cons, renderAttribute, List.append_assoc, List.cons_append, renderValue_eq,
    readComponent_of_solid (isSolidKey_keyOfType first.type), spells.unescape_trim]
  simp only [reading, setValue]

/-! ## All sets read back -/

/-- A rendered name is read as its sets say, and sets without any attribute drop out. -/
theorem map_readComponent_render (name : Name) :
    (components (render name)).map readComponent = (name.filterMap setReading?).map .ok := by
  rw [render, components_intercalate]
  · induction name with
    | nil => rfl
    | cons set name ih =>
        rcases set with _ | ⟨first, others⟩
        · have dropped : setReading? [] = none := rfl
          simpa [renderAttributeSet, trim, List.filterMap_cons, dropped] using ih
        · simp only [List.map_cons]
          rw [List.filter_cons_of_pos (by simpa using trim_renderAttributeSet_ne_nil first others),
            List.map_cons, readComponent_renderAttributeSet, ih]
          rfl
  · intro piece inside
    obtain ⟨set, -, rfl⟩ := List.mem_map.mp inside
    exact closed_renderAttributeSet set

theorem filterMap_setReading?_single (attributes : List Attribute) :
    (attributes.map ([·])).filterMap setReading? = attributes.map reading := by
  simp [List.filterMap_map, setReading?, setValue, reading, Function.comp_def]

/-- Whether the key of an attribute, in capital letters, names a field. -/
def Field.isNamedBy (field : Field) (item : Attribute) : Bool :=
  String.ofList (asciiUpper (keyOfType item.type).toList) ∈ field.keys

/-- What attributes say of a field: the trimmed value of the last one that names it. -/
def Field.valueIn (field : Field) (attributes : List Attribute) : Option (List Char) :=
  ((attributes.filter field.isNamedBy).getLast?).map fun item => trim item.value.written

theorem reading_fst_iff (field : Field) (item : Attribute) :
    (reading item).1 = some field ↔ field.isNamedBy item = true := by
  simp only [reading, Field.ofKey?_eq_some_iff, (isSolidKey_keyOfType item.type).trimmed,
    Field.isNamedBy, decide_eq_true_eq]

theorem lastValue_map_reading (field : Field) (attributes : List Attribute) :
    lastValue field (attributes.map reading) = field.valueIn attributes := by
  have named :
      (fun reading : Option Field × List Char => decide (reading.1 = some field)) ∘ reading =
        field.isNamedBy := by
    funext item
    simp [reading_fst_iff]
  simp [lastValue, Field.valueIn, List.filter_map, named, reading, Function.comp_def]

end DistinguishedName

open DistinguishedName

/-- A rendered name with one attribute in each set is read back as its attributes say. -/
theorem SubjectInfo.parse_render (attributes : List X509.Attribute) :
    let parsed := parse (String.ofList (render (attributes.map ([·]))))
    (∀ component, parsed ≠ .error (.malformedComponent component)) ∧
      (parsed = .error .missingCommonName ↔
        Field.commonName.valueIn attributes = none ∨
          Field.commonName.valueIn attributes = some []) ∧
      (parsed ≠ .error .missingCommonName →
        ∃ info, parsed = .ok info ∧ ∀ field : Field,
          info.get field = String.ofList ((field.valueIn attributes).getD [])) := by
  intro parsed
  obtain ⟨info, stored, result⟩ : ∃ info : SubjectInfo,
      (∀ field : Field, info.get field = String.ofList ((field.valueIn attributes).getD [])) ∧
        parsed = if info.commonName.isEmpty then .error .missingCommonName else .ok info :=
    ⟨_, fun field => by rw [get_of_readings, lastValue_map_reading], parse_of_readings <| by
      rw [String.toList_ofList, map_readComponent_render, filterMap_setReading?_single]⟩
  have missing : info.commonName.isEmpty = true ↔
      Field.commonName.valueIn attributes = none ∨
        Field.commonName.valueIn attributes = some [] := by
    have named : info.commonName = _ := stored .commonName
    rw [named]
    rcases Field.commonName.valueIn attributes with _ | value <;> simp
  by_cases blank : info.commonName.isEmpty = true
  · have failed : parsed = .error .missingCommonName := by rw [result, if_pos blank]
    refine ⟨?_, iff_of_true failed (missing.mp blank), fun other => absurd failed other⟩
    intro component malformed
    simp [failed] at malformed
  · have read : parsed = .ok info := by rw [result, if_neg blank]
    refine ⟨?_, iff_of_false ?_ (mt missing.mpr blank), fun _ => ⟨info, read, stored⟩⟩
    · intro component malformed
      simp [read] at malformed
    · intro failed
      simp [read] at failed

/-- A value that looks like a further attribute is a value still. -/
example :
    let name : X509.Name := [[⟨.ofArcs [2, 5, 4, 3], .text "radius".toList⟩],
      [⟨.ofArcs [2, 5, 4, 10], .text "Acme\\, CN=evil".toList⟩]]
    (SubjectInfo.parse (String.ofList (render name))).map (fun info =>
      (info.commonName, info.organization)) = .ok ("radius", "Acme\\, CN=evil") := by
  cbv

end TrustGate
