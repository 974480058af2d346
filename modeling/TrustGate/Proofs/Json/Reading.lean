import TrustGate.Proofs.Json.Lexing

/-!
# Reading values that were written

The reading machine takes the tokens of a value to that value, whatever is open
around it, and both written forms of a value spell its tokens. So a written value
is read back, up to the control characters that are written by their numbers.
-/

namespace TrustGate.Json

/-! ## The reading machine -/

/-- The machine after some tokens. -/
def Machine.run (machine : Machine) (tokens : List Token) : Option Machine :=
  tokens.foldlM step machine

theorem Machine.run_cons {machine next : Machine} {token : Token}
    (step : machine.step token = some next) (tokens : List Token) :
    machine.run (token :: tokens) = next.run tokens := by
  rw [run, List.foldlM_cons, step]
  rfl

theorem exists_tokens_eq_cons (value : Json) :
    ∃ first later, value.tokens = first :: later ∧ first ≠ .closeArray := by
  cases value with
  | _ => exact ⟨_, _, by rw [tokens], by simp⟩

/-- A value may stand where an array has just been opened. -/
theorem run_firstItem (frames : List Frame) (value : Json) (rest : List Token) :
    Machine.run ⟨frames, .firstItem⟩ (value.tokens ++ rest) =
      Machine.run ⟨.array [] :: frames, .value⟩ (value.tokens ++ rest) := by
  obtain ⟨first, later, starts, opens⟩ := value.exists_tokens_eq_cons
  -- The two stages differ on the end of the array only, and no value starts with that.
  have same : Machine.step ⟨frames, .firstItem⟩ first =
      Machine.step ⟨.array [] :: frames, .value⟩ first := by
    cases first <;> first | rfl | exact absurd rfl opens
  rw [starts, List.cons_append, Machine.run, Machine.run, List.foldlM_cons, List.foldlM_cons, same]

mutual

/-- Whatever is open, the tokens of a value are read to the value. -/
theorem run_tokens (frames : List Frame) (rest : List Token) (value : Json) :
    Machine.run ⟨frames, .value⟩ (value.tokens ++ rest) =
      Machine.run ⟨frames, .after value⟩ rest := by
  cases value with
  | array items =>
      rw [tokens, List.cons_append, Machine.run_cons rfl]
      exact run_itemTokens frames rest items
  | object members =>
      rw [tokens, List.cons_append, Machine.run_cons rfl]
      exact run_memberTokens frames rest members
  | _ => rw [tokens, List.singleton_append, Machine.run_cons rfl]

theorem run_itemTokens (frames : List Frame) (rest : List Token) (items : List Json) :
    Machine.run ⟨frames, .firstItem⟩ (itemTokens items ++ rest) =
      Machine.run ⟨frames, .after (.array items)⟩ rest := by
  cases items with
  | nil => rw [itemTokens, List.singleton_append, Machine.run_cons rfl]
  | cons item items =>
      rw [itemTokens, List.append_assoc, run_firstItem, run_tokens, run_laterItemTokens]
      rfl

theorem run_laterItemTokens (frames : List Frame) (rest : List Token) (done : List Json)
    (item : Json) (items : List Json) :
    Machine.run ⟨.array done :: frames, .after item⟩ (laterItemTokens items ++ rest) =
      Machine.run ⟨frames, .after (.array (done.reverse ++ item :: items))⟩ rest := by
  cases items with
  | nil =>
      rw [laterItemTokens, List.singleton_append, Machine.run_cons rfl, List.reverse_cons]
  | cons next items =>
      rw [laterItemTokens, List.cons_append, Machine.run_cons rfl, List.append_assoc, run_tokens,
        run_laterItemTokens, List.reverse_cons, List.append_assoc, List.singleton_append]

theorem run_memberTokens (frames : List Frame) (rest : List Token)
    (members : List (List StringPiece × Json)) :
    Machine.run ⟨frames, .firstKey⟩ (memberTokens members ++ rest) =
      Machine.run ⟨frames, .after (.object members)⟩ rest := by
  rcases members with _ | ⟨⟨key, value⟩, members⟩
  · rw [memberTokens, List.singleton_append, Machine.run_cons rfl]
  · rw [memberTokens, List.cons_append, Machine.run_cons rfl, List.cons_append,
      Machine.run_cons rfl, List.append_assoc, run_tokens, run_laterMemberTokens]
    rfl

theorem run_laterMemberTokens (frames : List Frame) (rest : List Token)
    (done : List (List StringPiece × Json)) (key : List StringPiece) (value : Json)
    (members : List (List StringPiece × Json)) :
    Machine.run ⟨.object done key :: frames, .after value⟩ (laterMemberTokens members ++ rest) =
      Machine.run ⟨frames, .after (.object (done.reverse ++ (key, value) :: members))⟩ rest := by
  rcases members with _ | ⟨⟨next, item⟩, members⟩
  · rw [laterMemberTokens, List.singleton_append, Machine.run_cons rfl, List.reverse_cons]
  · rw [laterMemberTokens, List.cons_append, Machine.run_cons rfl, List.cons_append,
      Machine.run_cons rfl, List.cons_append, Machine.run_cons rfl, List.append_assoc, run_tokens,
      run_laterMemberTokens, List.reverse_cons, List.append_assoc, List.singleton_append]

end

/-- A value is read from its tokens. -/
theorem ofTokens?_tokens (value : Json) : ofTokens? value.tokens = some value := by
  have run := run_tokens [] [] value
  rw [List.append_nil] at run
  rw [ofTokens?, Machine.initial, ← Machine.run, run]
  rfl

/-! ## The pretty form -/

mutual

/-- What a written value is read as. -/
def reread : Json → Json
  | .text pieces => .text (pieces.map StringPiece.reread)
  | .array items => .array (rereadItems items)
  | .object members => .object (rereadMembers members)
  | value => value

/-- What written items are read as. -/
def rereadItems : List Json → List Json
  | [] => []
  | item :: items => reread item :: rereadItems items

/-- What written members are read as. -/
def rereadMembers : List (List StringPiece × Json) → List (List StringPiece × Json)
  | [] => []
  | (key, value) :: members => (key.map StringPiece.reread, reread value) :: rereadMembers members

end

mutual

theorem tokens_reread (value : Json) : (reread value).tokens = value.tokens.map Token.reread := by
  cases value with
  | array items => simp only [reread, tokens, itemTokens_reread, List.map_cons, Token.reread]
  | object members => simp only [reread, tokens, memberTokens_reread, List.map_cons, Token.reread]
  | _ => rfl

theorem itemTokens_reread (items : List Json) :
    itemTokens (rereadItems items) = (itemTokens items).map Token.reread := by
  cases items with
  | nil => rfl
  | cons item items =>
      simp only [rereadItems, itemTokens, tokens_reread, laterItemTokens_reread, List.map_append]

theorem laterItemTokens_reread (items : List Json) :
    laterItemTokens (rereadItems items) = (laterItemTokens items).map Token.reread := by
  cases items with
  | nil => rfl
  | cons item items =>
      simp only [rereadItems, laterItemTokens, tokens_reread, laterItemTokens_reread,
        List.map_append, List.map_cons, Token.reread]

theorem memberTokens_reread (members : List (List StringPiece × Json)) :
    memberTokens (rereadMembers members) = (memberTokens members).map Token.reread := by
  rcases members with _ | ⟨⟨key, value⟩, members⟩
  · rfl
  · simp only [rereadMembers, memberTokens, tokens_reread, laterMemberTokens_reread,
      List.map_append, List.map_cons, Token.reread]

theorem laterMemberTokens_reread (members : List (List StringPiece × Json)) :
    laterMemberTokens (rereadMembers members) = (laterMemberTokens members).map Token.reread := by
  rcases members with _ | ⟨⟨key, value⟩, members⟩
  · rfl
  · simp only [rereadMembers, laterMemberTokens, tokens_reread, laterMemberTokens_reread,
      List.map_append, List.map_cons, Token.reread]

end

theorem Spells.newLine {rest : List Char} {later : List Token} (level : Nat)
    (spells : Spells rest later) :
    Spells (newLine level ++ rest) later := by
  refine .blank rfl ?_
  induction 2 * level with
  | zero => exact spells
  | succ count ih => exact .blank rfl ih

mutual

theorem spells_prettyAt {rest : List Char} {later : List Token} (level : Nat) (value : Json)
    (ends : endsNumber rest) (spells : Spells rest later) :
    Spells (prettyAt level value ++ rest) (value.tokens ++ later) := by
  rcases value with _ | (_ | _) | spelling | pieces | (_ | ⟨item, items⟩) |
    (_ | ⟨⟨key, value⟩, members⟩)
  · exact .token .null rfl spells
  · exact .token (.bool false) rfl spells
  · exact .token (.bool true) rfl spells
  · exact .token (.number spelling) ends spells
  · exact .token (.text pieces) rfl spells
  · exact .token .openArray rfl (.token .closeArray rfl spells)
  · simp only [prettyAt, tokens, itemTokens, List.cons_append, List.append_assoc]
    refine .token .openArray rfl (.newLine _ ?_)
    apply spells_prettyAt
    -- A comma or a line feed comes next, so a number would end here.
    · cases items <;> rfl
    · exact spells_prettyItems level items spells
  · exact .token .openObject rfl (.token .closeObject rfl spells)
  · simp only [prettyAt, tokens, memberTokens, List.cons_append, List.nil_append, List.append_assoc]
    refine .token .openObject rfl (.newLine _ ?_)
    refine .token (.text key) rfl (.token .colon rfl (.blank rfl ?_))
    apply spells_prettyAt
    · rcases members with _ | ⟨⟨_, _⟩, _⟩ <;> rfl
    · exact spells_prettyMembers level members spells

theorem spells_prettyItems {rest : List Char} {later : List Token} (level : Nat)
    (items : List Json) (spells : Spells rest later) :
    Spells (prettyItems level items ++ rest) (laterItemTokens items ++ later) := by
  cases items with
  | nil =>
      rw [prettyItems, List.append_assoc]
      exact .newLine _ (.token .closeArray rfl spells)
  | cons item items =>
      simp only [prettyItems, laterItemTokens, List.cons_append, List.append_assoc]
      refine .token .comma rfl (.newLine _ ?_)
      apply spells_prettyAt
      · cases items <;> rfl
      · exact spells_prettyItems level items spells

theorem spells_prettyMembers {rest : List Char} {later : List Token} (level : Nat)
    (members : List (List StringPiece × Json)) (spells : Spells rest later) :
    Spells (prettyMembers level members ++ rest) (laterMemberTokens members ++ later) := by
  rcases members with _ | ⟨⟨key, value⟩, members⟩
  · rw [prettyMembers, List.append_assoc]
    exact .newLine _ (.token .closeObject rfl spells)
  · simp only [prettyMembers, laterMemberTokens, List.cons_append, List.nil_append,
      List.append_assoc]
    refine .token .comma rfl (.newLine _ ?_)
    refine .token (.text key) rfl (.token .colon rfl (.blank rfl ?_))
    apply spells_prettyAt
    · rcases members with _ | ⟨⟨_, _⟩, _⟩ <;> rfl
    · exact spells_prettyMembers level members spells

end

/-! ## The compact form -/

mutual

theorem spells_tokens {rest : List Char} {later : List Token} (value : Json)
    (ends : endsNumber rest) (spells : Spells rest later) :
    Spells (value.tokens.flatMap Token.spelling ++ rest) (value.tokens ++ later) := by
  cases value with
  | null => exact .token .null rfl spells
  | bool value => simpa [tokens] using Spells.token (.bool value) rfl spells
  | number spelling => simpa [tokens] using Spells.token (.number spelling) ends spells
  | text pieces => simpa [tokens] using Spells.token (.text pieces) rfl spells
  | array items =>
      simp only [tokens, List.flatMap_cons, List.append_assoc]
      exact .token .openArray rfl (spells_itemTokens items spells)
  | object members =>
      simp only [tokens, List.flatMap_cons, List.append_assoc]
      exact .token .openObject rfl (spells_memberTokens members spells)

theorem spells_itemTokens {rest : List Char} {later : List Token} (items : List Json)
    (spells : Spells rest later) :
    Spells ((itemTokens items).flatMap Token.spelling ++ rest) (itemTokens items ++ later) := by
  cases items with
  | nil => exact .token .closeArray rfl spells
  | cons item items =>
      simp only [itemTokens, List.flatMap_append, List.append_assoc]
      apply spells_tokens
      -- A comma or a bracket comes next, so a number would end here.
      · cases items <;> rfl
      · exact spells_laterItemTokens items spells

theorem spells_laterItemTokens {rest : List Char} {later : List Token} (items : List Json)
    (spells : Spells rest later) :
    Spells ((laterItemTokens items).flatMap Token.spelling ++ rest)
      (laterItemTokens items ++ later) := by
  cases items with
  | nil => exact .token .closeArray rfl spells
  | cons item items =>
      simp only [laterItemTokens, List.flatMap_cons, List.flatMap_append, List.append_assoc,
        List.cons_append]
      refine .token .comma rfl ?_
      apply spells_tokens
      · cases items <;> rfl
      · exact spells_laterItemTokens items spells

theorem spells_memberTokens {rest : List Char} {later : List Token}
    (members : List (List StringPiece × Json)) (spells : Spells rest later) :
    Spells ((memberTokens members).flatMap Token.spelling ++ rest)
      (memberTokens members ++ later) := by
  rcases members with _ | ⟨⟨key, value⟩, members⟩
  · exact .token .closeObject rfl spells
  · simp only [memberTokens, List.flatMap_cons, List.flatMap_append, List.append_assoc,
      List.cons_append]
    refine .token (.text key) rfl (.token .colon rfl ?_)
    apply spells_tokens
    · rcases members with _ | ⟨⟨_, _⟩, _⟩ <;> rfl
    · exact spells_laterMemberTokens members spells

theorem spells_laterMemberTokens {rest : List Char} {later : List Token}
    (members : List (List StringPiece × Json)) (spells : Spells rest later) :
    Spells ((laterMemberTokens members).flatMap Token.spelling ++ rest)
      (laterMemberTokens members ++ later) := by
  rcases members with _ | ⟨⟨key, value⟩, members⟩
  · exact .token .closeObject rfl spells
  · simp only [laterMemberTokens, List.flatMap_cons, List.flatMap_append, List.append_assoc,
      List.cons_append]
    refine .token .comma rfl (.token (.text key) rfl (.token .colon rfl ?_))
    apply spells_tokens
    · rcases members with _ | ⟨⟨_, _⟩, _⟩ <;> rfl
    · exact spells_laterMemberTokens members spells

end

/-! ## Values that can be written -/

/-- Whether a value can be written. -/
def IsWritable (value : Json) : Prop :=
  ∀ token ∈ value.tokens, token.IsWritable

theorem isWritable_null : null.IsWritable := by
  simp [IsWritable, tokens, Token.IsWritable]

theorem isWritable_bool (value : Bool) : (bool value).IsWritable := by
  simp [IsWritable, tokens, Token.IsWritable]

theorem isWritable_ofNat (value : Nat) : (ofNat value).IsWritable := by
  simpa [IsWritable, ofNat, tokens, Token.IsWritable] using isNumber_toDigits value

theorem isWritable_of_mem_piecesOf (text : String) :
    ∀ piece ∈ piecesOf text, piece.IsWritable := by
  simp [piecesOf, StringPiece.IsWritable]

theorem isWritable_ofString (text : String) : (ofString text).IsWritable := by
  simpa [IsWritable, ofString, tokens, Token.IsWritable] using isWritable_of_mem_piecesOf text

theorem isWritable_array {items : List Json} (each : ∀ item ∈ items, item.IsWritable) :
    (array items).IsWritable := by
  have later (items : List Json) (each : ∀ item ∈ items, item.IsWritable) :
      ∀ token ∈ laterItemTokens items, token.IsWritable := by
    induction items with
    | nil => simp [laterItemTokens, Token.IsWritable]
    | cons item items ih =>
        rw [List.forall_mem_cons] at each
        rw [laterItemTokens, List.forall_mem_cons, List.forall_mem_append]
        exact ⟨trivial, each.1, ih each.2⟩
  rw [IsWritable, tokens, List.forall_mem_cons]
  refine ⟨trivial, ?_⟩
  cases items with
  | nil => exact later [] each
  | cons item items =>
      rw [List.forall_mem_cons] at each
      rw [itemTokens, List.forall_mem_append]
      exact ⟨each.1, later items each.2⟩

theorem isWritable_object {members : List (List StringPiece × Json)}
    (each : ∀ member ∈ members,
      (∀ piece ∈ member.1, piece.IsWritable) ∧ member.2.IsWritable) :
    (object members).IsWritable := by
  have later (members : List (List StringPiece × Json))
      (each : ∀ member ∈ members,
        (∀ piece ∈ member.1, piece.IsWritable) ∧ member.2.IsWritable) :
      ∀ token ∈ laterMemberTokens members, token.IsWritable := by
    induction members with
    | nil => simp [laterMemberTokens, Token.IsWritable]
    | cons member members ih =>
        rw [List.forall_mem_cons] at each
        simp only [laterMemberTokens, List.forall_mem_cons, List.forall_mem_append]
        exact ⟨trivial, each.1.1, trivial, each.1.2, ih each.2⟩
  rw [IsWritable, tokens, List.forall_mem_cons]
  refine ⟨trivial, ?_⟩
  cases members with
  | nil => exact later [] each
  | cons member members =>
      rw [List.forall_mem_cons] at each
      simp only [memberTokens, List.forall_mem_cons, List.forall_mem_append]
      exact ⟨each.1.1, trivial, each.1.2, later members each.2⟩

theorem isWritable_ofFields {fields : List (String × Json)}
    (each : ∀ field ∈ fields, field.2.IsWritable) : (ofFields fields).IsWritable := by
  apply isWritable_object
  rw [List.forall_mem_map]
  intro field mem
  exact ⟨isWritable_of_mem_piecesOf field.1, each field mem⟩

/-! ## Texts of values -/

/-- A text of a value: its tokens one after another, each in any spelling of it, with blanks before
any of them and at the end. -/
def IsText (value : Json) (text : String) : Prop :=
  IsTextOf value.tokens text.toList

theorem read?_of_isText {value : Json} {text : String} (isText : value.IsText text) :
    read? text.toList = some value := by
  rw [read?, lex_of_isTextOf isText]
  exact ofTokens?_tokens value

/-- What spells the tokens of a value is a text of what the value is read as. -/
theorem isText_of_spells {value : Json} {chars : List Char} (spells : Spells chars value.tokens)
    (writable : value.IsWritable) : (reread value).IsText (String.ofList chars) := by
  rw [IsText, tokens_reread, String.toList_ofList]
  exact isTextOf_of_spells spells writable

theorem isText_pretty {value : Json} (writable : value.IsWritable) :
    (reread value).IsText (String.ofList (pretty value)) := by
  have spells := spells_prettyAt 0 value rfl .done
  rw [List.append_nil, List.append_nil] at spells
  exact isText_of_spells spells writable

theorem isText_compact {value : Json} (writable : value.IsWritable) :
    (reread value).IsText (String.ofList (compact value)) := by
  have spells := spells_tokens value rfl .done
  rw [List.append_nil, List.append_nil] at spells
  exact isText_of_spells spells writable

end TrustGate.Json
