import Mathlib.Data.List.Induction
import TrustGate.DistinguishedName

/-!
# Fields of a name

Parsing stores what the components say one after another, so of several that
are for one field the last counts, and a field that none is for stays empty.
-/

namespace TrustGate

open Text

namespace DistinguishedName

/-- The keys that name a field, in capital letters. -/
def Field.keys : Field → List String
  | .commonName => ["CN"]
  | .organization => ["O"]
  | .organizationalUnit => ["OU"]
  | .country => ["C"]
  | .state => ["ST"]
  | .locality => ["L"]
  | .email => ["E", "EMAIL", "EMAILADDRESS"]

theorem Field.ofKey?_eq_some_iff {key : List Char} {field : Field} :
    Field.ofKey? key = some field ↔ String.ofList (asciiUpper (trim key)) ∈ field.keys := by
  unfold Field.ofKey?
  split <;> cases field <;> simp_all [Field.keys]

theorem splitComponent?_append {key : List Char} (undivided : ∀ char ∈ key, char ≠ '=')
    (value : List Char) : splitComponent? (key ++ '=' :: value) = some (key, value) := by
  have front : (key ++ '=' :: value).takeWhile (· != '=') = key := by
    rw [List.takeWhile_append_of_pos (by simpa using undivided)]
    simp
  simp [splitComponent?, front]

/-- What the last component for a field says, of components that are read already. -/
def lastValue (field : Field) (readings : List (Option Field × List Char)) : Option (List Char) :=
  ((readings.filter fun reading => reading.1 = some field).getLast?).map (·.2)

theorem lastValue_concat (field : Field) (readings : List (Option Field × List Char))
    (reading : Option Field × List Char) :
    lastValue field (readings ++ [reading]) =
      if reading.1 = some field then some reading.2 else lastValue field readings := by
  by_cases named : reading.1 = some field <;> simp [lastValue, List.filter_append, named]

end DistinguishedName

open DistinguishedName

namespace SubjectInfo

@[simp]
theorem get_set_self (info : SubjectInfo) (field : Field) (value : String) :
    (info.set field value).get field = value := by
  cases field <;> rfl

theorem get_set_of_ne {field other : Field} (different : other ≠ field) (info : SubjectInfo)
    (value : String) : (info.set other value).get field = info.get field := by
  cases field <;> cases other <;> first | rfl | contradiction

/-- Stores what a component says in the field it is for, if any. -/
def record (info : SubjectInfo) : Option Field × List Char → SubjectInfo
  | (some field, value) => info.set field (String.ofList value)
  | (none, _) => info

theorem addComponent_of_read {component : List Char} {reading : Option Field × List Char}
    (read : readComponent component = .ok reading) (info : SubjectInfo) :
    info.addComponent component = .ok (info.record reading) := by
  rcases reading with ⟨_ | field, value⟩ <;>
    simp [addComponent, record, read, Bind.bind, Except.bind, Pure.pure, Except.pure]

theorem foldlM_addComponent {components : List (List Char)}
    {readings : List (Option Field × List Char)}
    (read : components.map readComponent = readings.map .ok) (info : SubjectInfo) :
    components.foldlM addComponent info = .ok (readings.foldl record info) := by
  induction components generalizing readings info with
  | nil =>
      obtain rfl : readings = [] := by simpa using read.symm
      rfl
  | cons component components ih =>
      rcases readings with _ | ⟨reading, readings⟩
      · simp at read
      · obtain ⟨first, later⟩ := List.cons_eq_cons.mp read
        simp only [List.foldlM_cons, addComponent_of_read first, List.foldl_cons]
        exact ih later (info.record reading)

theorem get_foldl_record (info : SubjectInfo) (readings : List (Option Field × List Char))
    (field : Field) :
    (readings.foldl record info).get field =
      ((lastValue field readings).map String.ofList).getD (info.get field) := by
  induction readings using List.reverseRecOn with
  | nil => rfl
  | append_singleton readings reading ih =>
      rw [List.foldl_append, lastValue_concat]
      rcases reading with ⟨_ | other, value⟩
      · simpa [record] using ih
      · by_cases named : other = field
        · simp [record, named]
        · simpa [record, named, get_set_of_ne named] using ih

theorem get_of_readings (raw : String) (readings : List (Option Field × List Char))
    (field : Field) :
    (readings.foldl record { raw }).get field =
      String.ofList ((lastValue field readings).getD []) := by
  have empty : SubjectInfo.get { raw } field = "" := by cases field <;> rfl
  rw [get_foldl_record, empty]
  cases lastValue field readings <;> rfl

theorem parse_of_readings {name : String} {readings : List (Option Field × List Char)}
    (read : (components name.toList).map readComponent = readings.map .ok) :
    parse name =
      let info := readings.foldl record { raw := String.ofList (unescape name.toList) }
      if info.commonName.isEmpty then .error .missingCommonName else .ok info := by
  simp only [parse, foldlM_addComponent read]
  rfl

end SubjectInfo

end TrustGate
