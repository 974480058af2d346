import TrustGate.Proofs.DistinguishedName.Fields
import TrustGate.Proofs.DistinguishedName.Splitting

/-!
# The grammar of names

Which texts are names, and what they say, told without an order in which to read
them. A text is cut at its unescaped commas (`Division`). The trimmed pieces that
are not empty are its components, each with a key in front of its first equals
sign and a value behind it. A field holds what the last component whose key names
it says (`Field.Holds`), and escapes are taken away from values and from the
whole (`Unescapes`).

`SubjectInfo.Reads` puts this together, the two errors included. The main
statement says that parsing gives what the grammar gives and nothing else.
-/

namespace TrustGate

namespace DistinguishedName

open Text

/-! ## Pieces -/

/-- A text and its pieces between the unescaped commas. The last piece may end in a backslash that
escapes nothing. -/
inductive Division : List Char → List (List Char) → Prop
  | last {piece : List Char} (closed : Closed piece) : Division piece [piece]
  | dangling {piece : List Char} (closed : Closed piece) :
      Division (piece ++ ['\\']) [piece ++ ['\\']]
  | cut {piece rest : List Char} {pieces : List (List Char)} (closed : Closed piece)
      (later : Division rest pieces) : Division (piece ++ ',' :: rest) (piece :: pieces)

theorem Division.splitUnescaped_eq {chars : List Char} {pieces : List (List Char)}
    (division : Division chars pieces) : splitUnescaped chars = pieces := by
  induction division with
  | last closed => exact splitUnescaped_of_closed closed
  | dangling closed =>
      rw [splitUnescaped_append closed]
      simp [splitUnescaped, splitFrom]
  | cut closed _ ih => rw [splitUnescaped_append_comma closed, ih]

/-- A closed text in front of a text joins its first piece. -/
theorem Division.append_front {front rest : List Char} {pieces : List (List Char)}
    (closedFront : Closed front) (division : Division rest pieces) :
    Division (front ++ rest) (pieces.modifyHead (front ++ ·)) := by
  cases division with
  | last closed => exact .last (closedFront.append closed)
  | dangling closed => simpa using Division.dangling (closedFront.append closed)
  | cut closed later => simpa using Division.cut (closedFront.append closed) later

theorem exists_division (chars : List Char) : ∃ pieces, Division chars pieces := by
  fun_induction unescape chars with
  | case1 => exact ⟨_, .last .nil⟩
  | case2 => exact ⟨_, .dangling .nil⟩
  | case3 char unmarked =>
      by_cases comma : char = ','
      · subst comma
        exact ⟨_, .cut .nil (.last .nil)⟩
      · exact ⟨_, .last (.plain ⟨comma, unmarked⟩ .nil)⟩
  | case4 next rest ih =>
      rcases ih with ⟨pieces, division⟩
      exact ⟨_, division.append_front (.escaped next .nil)⟩
  | case5 char next rest unmarked ih =>
      rcases ih with ⟨pieces, division⟩
      by_cases comma : char = ','
      · subst comma
        exact ⟨_, .cut .nil division⟩
      · exact ⟨_, division.append_front (.plain ⟨comma, unmarked⟩ .nil)⟩

theorem division_splitUnescaped (chars : List Char) : Division chars (splitUnescaped chars) := by
  rcases exists_division chars with ⟨pieces, division⟩
  exact division.splitUnescaped_eq ▸ division

/-- The components of a text are its trimmed pieces that are not empty. -/
def ComponentsOf (chars : List Char) (parts : List (List Char)) : Prop :=
  ∃ pieces, Division chars pieces ∧ parts = (pieces.map trim).filter (!·.isEmpty)

theorem componentsOf_iff {chars : List Char} {parts : List (List Char)} :
    ComponentsOf chars parts ↔ components chars = parts := by
  constructor
  · rintro ⟨pieces, division, rfl⟩
    rw [components, division.splitUnescaped_eq]
  · intro same
    exact ⟨_, division_splitUnescaped chars, same.symm⟩

/-! ## Escapes -/

/-- A text, and what is left of it without escapes. A backslash that escapes nothing is dropped. -/
inductive Unescapes : List Char → List Char → Prop
  | nil : Unescapes [] []
  | dangling : Unescapes ['\\'] []
  | plain {char : Char} {written text : List Char} (unmarked : char ≠ '\\')
      (later : Unescapes written text) : Unescapes (char :: written) (char :: text)
  | escaped (char : Char) {written text : List Char} (later : Unescapes written text) :
      Unescapes ('\\' :: char :: written) (char :: text)

theorem unescapes_unescape (written : List Char) : Unescapes written (unescape written) := by
  fun_induction unescape written with
  | case1 => exact .nil
  | case2 => exact .dangling
  | case3 char unmarked => exact .plain unmarked .nil
  | case4 next rest ih => exact .escaped next ih
  | case5 char next rest unmarked ih => exact .plain unmarked ih

theorem unescapes_iff {written text : List Char} :
    Unescapes written text ↔ unescape written = text := by
  constructor
  · intro unescapes
    induction unescapes with
    | nil => rfl
    | dangling => rfl
    | plain unmarked _ ih => rw [unescape_cons unmarked, ih]
    | escaped char _ ih => simp [unescape, ih]
  · rintro rfl
    exact unescapes_unescape written

/-! ## Fields -/

/-- A component has a key that names a field, and a value. The key ends at the first equals sign. -/
def Field.NamedIn (field : Field) (component value : List Char) : Prop :=
  ∃ key, component = key ++ '=' :: value ∧ '=' ∉ key ∧
    String.ofList (asciiUpper (trim key)) ∈ field.keys

/-- What components say of a field: the value of the last one whose key names it, trimmed and
without escapes, or nothing if no key does. -/
inductive Field.Holds (field : Field) : List (List Char) → List Char → Prop
  | last {front later : List (List Char)} {component value text : List Char}
      (named : field.NamedIn component value) (unescapes : Unescapes (trim value) text)
      (others : ∀ other ∈ later, ∀ value, ¬field.NamedIn other value) :
      Holds field (front ++ component :: later) text
  | none {parts : List (List Char)}
      (others : ∀ other ∈ parts, ∀ value, ¬field.NamedIn other value) : Holds field parts []

/-- A component is read as what its key and its value say. -/
theorem readComponent_of_cut {key value : List Char} (undivided : '=' ∉ key) :
    readComponent (key ++ '=' :: value) = .ok (Field.ofKey? key, unescape (trim value)) := by
  have apart : ∀ char ∈ key, char ≠ '=' := by
    rintro char inside rfl
    exact undivided inside
  simp only [readComponent, splitComponent?_append apart]

theorem readComponent_of_lacking {component : List Char} (lacking : '=' ∉ component) :
    readComponent component = .error (.malformedComponent (String.ofList component)) := by
  have whole : (component ++ []).takeWhile (· != '=') = component ++ [] :=
    List.takeWhile_append_of_pos fun char inside =>
      bne_iff_ne.mpr (ne_of_mem_of_not_mem inside lacking)
  rw [List.append_nil] at whole
  simp [readComponent, splitComponent?, whole]

theorem exists_readings {parts : List (List Char)} (formed : ∀ component ∈ parts, '=' ∈ component) :
    ∃ readings : List (Option Field × List Char),
      parts.map readComponent = readings.map .ok := by
  induction parts with
  | nil => exact ⟨[], rfl⟩
  | cons component parts ih =>
      rcases List.forall_mem_cons.mp formed with ⟨first, others⟩
      rcases ih others with ⟨readings, read⟩
      rcases List.eq_append_cons_of_mem first with ⟨key, value, rfl, undivided⟩
      exact ⟨_ :: readings, by rw [List.map_cons, readComponent_of_cut undivided, read]; rfl⟩

theorem readComponent_eq_ok_iff {component text : List Char} {field : Field} :
    readComponent component = .ok (some field, text) ↔
      ∃ value, field.NamedIn component value ∧ Unescapes (trim value) text := by
  constructor
  · intro read
    have formed : '=' ∈ component := by
      apply Classical.byContradiction
      intro lacking
      simp [readComponent_of_lacking lacking] at read
    rcases List.eq_append_cons_of_mem formed with ⟨key, value, rfl, undivided⟩
    rw [readComponent_of_cut undivided] at read
    cases key? : Field.ofKey? key with
    | none => simp [key?] at read
    | some named =>
        simp only [key?, Except.ok.injEq, Prod.mk.injEq, Option.some.injEq] at read
        rcases read with ⟨rfl, rfl⟩
        exact ⟨value, ⟨key, rfl, undivided, Field.ofKey?_eq_some_iff.mp key?⟩,
          unescapes_unescape _⟩
  · rintro ⟨value, ⟨key, rfl, undivided, among⟩, unescapes⟩
    rw [readComponent_of_cut undivided, Field.ofKey?_eq_some_iff.mpr among,
      unescapes_iff.mp unescapes]

theorem fst_ne_of_unnamed {component : List Char} {field : Field}
    {reading : Option Field × List Char} (read : readComponent component = .ok reading)
    (unnamed : ∀ value, ¬field.NamedIn component value) : reading.1 ≠ some field := by
  rcases reading with ⟨_, text⟩
  rintro rfl
  rcases readComponent_eq_ok_iff.mp read with ⟨value, named, -⟩
  exact unnamed value named

theorem unnamed_of_fst_ne {component : List Char} {field : Field}
    {reading : Option Field × List Char} (read : readComponent component = .ok reading)
    (other : reading.1 ≠ some field) (value : List Char) : ¬field.NamedIn component value := by
  intro named
  have stated := readComponent_eq_ok_iff.mpr ⟨value, named, unescapes_unescape _⟩
  rw [read] at stated
  exact other (congrArg Prod.fst (Except.ok.inj stated))

theorem lastValue_eq_none {field : Field} {readings : List (Option Field × List Char)}
    (others : ∀ reading ∈ readings, reading.1 ≠ some field) : lastValue field readings = none := by
  have empty : readings.filter (fun reading => reading.1 = some field) = [] := by
    simpa using others
  simp [lastValue, empty]

theorem lastValue_append_cons {field : Field} {reading : Option Field × List Char}
    (named : reading.1 = some field) (front : List (Option Field × List Char))
    {later : List (Option Field × List Char)}
    (others : ∀ reading ∈ later, reading.1 ≠ some field) :
    lastValue field (front ++ reading :: later) = some reading.2 := by
  have empty : later.filter (fun reading => reading.1 = some field) = [] := by
    simpa using others
  simp [lastValue, List.filter_append, named, empty]

section Readings

variable {parts : List (List Char)} {readings : List (Option Field × List Char)}
  (read : parts.map readComponent = readings.map .ok) (field : Field)
include read

theorem fst_ne_of_others (others : ∀ other ∈ parts, ∀ value, ¬field.NamedIn other value) :
    ∀ reading ∈ readings, reading.1 ≠ some field := by
  intro reading inside
  have among : Except.ok reading ∈ parts.map readComponent := by
    rw [read]
    exact List.mem_map_of_mem inside
  rcases List.mem_map.mp among with ⟨component, here, said⟩
  exact fst_ne_of_unnamed said (others component here)

theorem holds_lastValue : field.Holds parts ((lastValue field readings).getD []) := by
  induction parts using List.reverseRecOn generalizing readings with
  | nil =>
      obtain rfl : readings = [] := by simpa using read.symm
      exact .none (by simp)
  | append_singleton parts component ih =>
      rw [List.map_append, List.map_singleton] at read
      rcases List.map_eq_append_iff.mp read.symm with ⟨front, last, rfl, readFront, readLast⟩
      rcases List.map_eq_singleton_iff.mp readLast with ⟨reading, rfl, said⟩
      rw [lastValue_concat]
      split
      · next named =>
          rcases reading with ⟨_, text⟩
          obtain rfl := named
          rcases readComponent_eq_ok_iff.mp said.symm with ⟨value, named, unescapes⟩
          exact .last named unescapes (by simp)
      · next other =>
          have unnamed := unnamed_of_fst_ne said.symm other
          -- What was held before is held still, for the new component has another key.
          have before := ih readFront.symm
          generalize (lastValue field front).getD [] = text at before ⊢
          cases before with
          | last named unescapes others =>
              rw [List.append_assoc, List.cons_append]
              refine .last named unescapes ?_
              simpa [or_imp, forall_and] using ⟨others, unnamed⟩
          | none others =>
              refine .none ?_
              simpa [or_imp, forall_and] using ⟨others, unnamed⟩

theorem holds_iff {text : List Char} :
    field.Holds parts text ↔ text = (lastValue field readings).getD [] := by
  constructor
  · intro holds
    cases holds with
    | @last front later component value text named unescapes others =>
        rw [List.map_append, List.map_cons] at read
        rcases List.map_eq_append_iff.mp read.symm with ⟨first, rest, rfl, readFirst, readRest⟩
        rcases List.map_eq_cons_iff.mp readRest with ⟨reading, last, rfl, said, readLast⟩
        rw [readComponent_eq_ok_iff.mpr ⟨value, named, unescapes⟩] at said
        obtain rfl := Except.ok.inj said
        rw [lastValue_append_cons rfl first (fst_ne_of_others readLast.symm field others)]
        rfl
    | none others => rw [lastValue_eq_none (fst_ne_of_others read field others)]; rfl
  · rintro rfl
    exact holds_lastValue read field

end Readings

end DistinguishedName

open DistinguishedName

namespace SubjectInfo

/-- What the grammar makes of a text: the first component without an equals sign, an error if the
common name is missing or empty, or the fields and the text without escapes. -/
inductive Reads (name : String) : Except ParseError SubjectInfo → Prop
  | malformed {front later : List (List Char)} {component : List Char}
      (divided : ComponentsOf name.toList (front ++ component :: later))
      (formed : ∀ other ∈ front, '=' ∈ other) (lacking : '=' ∉ component) :
      Reads name (.error (.malformedComponent (String.ofList component)))
  | nameless {parts : List (List Char)} (divided : ComponentsOf name.toList parts)
      (formed : ∀ component ∈ parts, '=' ∈ component) (empty : Field.commonName.Holds parts []) :
      Reads name (.error .missingCommonName)
  | read {parts : List (List Char)} {info : SubjectInfo}
      (divided : ComponentsOf name.toList parts)
      (formed : ∀ component ∈ parts, '=' ∈ component) (named : info.commonName ≠ "")
      (fields : ∀ field : Field, field.Holds parts (info.get field).toList)
      (raw : Unescapes name.toList info.raw.toList) : Reads name (.ok info)

theorem raw_foldl_record (info : SubjectInfo) (readings : List (Option Field × List Char)) :
    (readings.foldl record info).raw = info.raw := by
  induction readings generalizing info with
  | nil => rfl
  | cons reading readings ih =>
      rw [List.foldl_cons, ih]
      rcases reading with ⟨_ | field, value⟩
      · rfl
      · cases field <;> rfl

theorem eq_of_get {info other : SubjectInfo} (raw : info.raw = other.raw)
    (fields : ∀ field : Field, info.get field = other.get field) : info = other := by
  have commonName := fields .commonName
  have organization := fields .organization
  have organizationalUnit := fields .organizationalUnit
  have country := fields .country
  have state := fields .state
  have locality := fields .locality
  have email := fields .email
  cases info
  cases other
  simp_all [get]

theorem addComponent_of_lacking (info : SubjectInfo) {component : List Char}
    (lacking : '=' ∉ component) :
    info.addComponent component = .error (.malformedComponent (String.ofList component)) := by
  simp [addComponent, readComponent_of_lacking lacking, Bind.bind, Except.bind]

theorem parse_of_malformed {name : String} {front later : List (List Char)}
    {component : List Char} (divided : components name.toList = front ++ component :: later)
    (formed : ∀ other ∈ front, '=' ∈ other) (lacking : '=' ∉ component) :
    parse name = .error (.malformedComponent (String.ofList component)) := by
  rcases exists_readings formed with ⟨readings, read⟩
  simp only [parse, divided, List.foldlM_append, foldlM_addComponent read, List.foldlM_cons,
    addComponent_of_lacking _ lacking, Bind.bind, Except.bind]

/-- A text whose components all have a key is read as these say. -/
theorem parse_of_formed {name : String}
    (formed : ∀ component ∈ components name.toList, '=' ∈ component) :
    ∃ info : SubjectInfo,
      (∀ (field : Field) (text : List Char),
        field.Holds (components name.toList) text ↔ text = (info.get field).toList) ∧
      info.raw = String.ofList (unescape name.toList) ∧
      parse name = if info.commonName.isEmpty then .error .missingCommonName else .ok info := by
  rcases exists_readings formed with ⟨readings, read⟩
  refine ⟨_, ?_, ?_, parse_of_readings read⟩
  · intro field text
    rw [get_of_readings, String.toList_ofList]
    exact holds_iff read field
  · exact raw_foldl_record _ readings

/-- The grammar makes one thing of a text. -/
theorem Reads.parse_eq {name : String} {result : Except ParseError SubjectInfo}
    (reads : Reads name result) : parse name = result := by
  cases reads with
  | malformed divided formed lacking =>
      exact parse_of_malformed (componentsOf_iff.mp divided) formed lacking
  | nameless divided formed empty =>
      obtain rfl := componentsOf_iff.mp divided
      rcases parse_of_formed formed with ⟨info, holds, -, parsed⟩
      have unnamed : info.commonName.isEmpty = true := by
        simpa [get] using (holds .commonName []).mp empty
      rw [parsed, if_pos unnamed]
  | @read _ info divided formed named fields raw =>
      obtain rfl := componentsOf_iff.mp divided
      rcases parse_of_formed formed with ⟨other, holds, whole, parsed⟩
      obtain rfl : info = other := by
        apply eq_of_get
        · rw [whole, unescapes_iff.mp raw, String.ofList_toList]
        · intro field
          exact String.toList_inj.mp ((holds field _).mp (fields field))
      rw [parsed, if_neg (by simpa using named)]

/-- What is read is what the grammar makes of the text. -/
theorem reads_parse (name : String) : Reads name (parse name) := by
  have divided := componentsOf_iff.mpr (rfl : components name.toList = _)
  cases lacking? : (components name.toList).find? fun component => '=' ∉ component with
  | some component =>
      rcases List.find?_eq_some_iff_append.mp lacking? with ⟨lacking, front, later, cut, formed⟩
      have before : ∀ other ∈ front, '=' ∈ other := by simpa using formed
      have lacks : '=' ∉ component := by simpa using lacking
      rw [parse_of_malformed cut before lacks]
      exact .malformed (cut ▸ divided) before lacks
  | none =>
      have formed : ∀ component ∈ components name.toList, '=' ∈ component := by
        simpa using lacking?
      rcases parse_of_formed formed with ⟨info, holds, whole, parsed⟩
      rw [parsed]
      split
      · next unnamed =>
          apply Reads.nameless divided formed
          apply (holds .commonName []).mpr
          simpa [get] using unnamed
      · next named =>
          apply Reads.read divided formed (by simpa using named)
          · intro field
            exact (holds field _).mpr rfl
          · rw [whole, String.toList_ofList]
            exact unescapes_unescape _

/-- A text is read just as the grammar says: every result of reading is one that the grammar makes
of the text, and what the grammar makes of it is the result. -/
theorem parse_eq_iff (name : String) (result : Except ParseError SubjectInfo) :
    parse name = result ↔ Reads name result := by
  constructor
  · rintro rfl
    exact reads_parse name
  · intro reads
    exact reads.parse_eq

/-- An escaped comma divides nothing, the last of two organizations counts, and a backslash at the
end is dropped. -/
example :
    (parse "cn = a\\\\\\, b ,O=x,, o=y\\").map (fun info =>
      (info.commonName, info.organization, info.raw)) =
        .ok ("a\\, b", "y", "cn = a\\, b ,O=x,, o=y") := by
  cbv

end SubjectInfo

end TrustGate
