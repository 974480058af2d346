import TrustGate.CommandLine.Argument

/-!
# Reading the command line

Words are read from left to right, first at the level of the program and, once
a command is named, at the level of the command. An option that waits for its
value, and a value of the command, are settled when the next argument comes or
at the end; settling checks them. What was given at both levels counts as given
after the command.
-/

namespace TrustGate.CommandLine

inductive Command
  | list
  | evaluate (network : String)
  | connect (network certificateFile : String) (background : Bool)
  | reset (network : String)
  | add (id : NetworkId) (ssid : String) (eapMethod? : Option EapMethod) (tofu : Bool)
deriving Repr, DecidableEq

structure Invocation where
  folder? : Option String := none
  dryRun : Bool := false
  command? : Option Command := none
deriving Repr, DecidableEq

/-- The arguments of a level so far. -/
structure Reading where
  /-- The arguments that are settled, with their values; flags have an empty one. -/
  settled : List (Argument × String) := []
  /-- The argument that is still to be settled, with the value it has, if any. -/
  pending? : Option (Argument × Option String) := none
  /-- How many values of the command have come. -/
  taken : Nat := 0
deriving Repr, DecidableEq

namespace Reading

def get? (reading : Reading) (argument : Argument) : Option String :=
  reading.settled.lookup argument

def has (reading : Reading) (argument : Argument) : Bool :=
  (reading.get? argument).isSome

/-- Takes an argument with its value. No argument may come twice. -/
def take (reading : Reading) (argument : Argument) (value : String) : Except Refusal Reading :=
  if reading.has argument then .error .argumentConflict
  else
    match argument.refusal? value with
    | some refusal => .error refusal
    | none => .ok { reading with settled := (argument, value) :: reading.settled }

/-- Settles what is pending. An option without its value is refused. -/
def settle (reading : Reading) : Except Refusal Reading :=
  match reading.pending? with
  | none => .ok reading
  | some (_, none) => .error .invalidValue
  | some (argument, some value) => { reading with pending? := none }.take argument value

def takeFlag (reading : Reading) (argument : Argument) : Except Refusal Reading := do
  let reading ← reading.settle
  match argument with
  | .help => throw .displayHelp
  | .version => throw .displayVersion
  | _ => reading.take argument ""

/-- Takes a value of the command, or refuses one that has no place. -/
def takeValue (reading : Reading) (level : Level) (trailing : Bool) (value : String) :
    Except Refusal Reading :=
  match level.values[reading.taken]? with
  | none => .error (level.strayValue trailing value)
  | some argument => do
      let reading ← reading.settle
      return { reading with pending? := some (argument, some value), taken := reading.taken + 1 }

end Reading

/-- A word of the command line, by how it starts. -/
inductive Word
  /-- The two dashes after which all words are values. -/
  | escape
  | long (name : String) (value? : Option String)
  | short (letters : List Char)
  | plain
deriving Repr, DecidableEq

def Word.ofText (text : String) : Word :=
  match text.toList with
  | ['-', '-'] => .escape
  | '-' :: '-' :: rest =>
      let name := rest.takeWhile (· != '=')
      match rest.drop name.length with
      | [] => .long (String.ofList name) none
      | _ :: value => .long (String.ofList name) (some (String.ofList value))
  | ['-'] => .plain
  | '-' :: letters => .short letters
  | _ => .plain

/-- Takes an option by its name, and tells whether it waits for its value. -/
def readLong (level : Level) (reading : Reading) (name : String) (value? : Option String) :
    Except Refusal (Reading × Bool) := do
  match level.byName? name with
  | none => throw .unknownArgument
  | some argument =>
      match argument.takesValue, value? with
      | true, some value => return (← (← reading.settle).take argument value, false)
      | true, none => return ({ (← reading.settle) with pending? := some (argument, none) }, true)
      | false, some _ => throw .tooManyValues
      | false, none => return (← reading.takeFlag argument, false)

def readShort (level : Level) (reading : Reading) : List Char → Except Refusal Reading
  | [] => .ok reading
  | letter :: letters => do
      match level.byLetter? letter with
      | none => throw .unknownArgument
      | some argument => readShort level (← reading.takeFlag argument) letters

/-- What becomes of a request for help on some commands. -/
def helpRefusal : List String → Refusal
  | [] => .displayHelp
  | [word] =>
      if (CommandName.ofWord? word).isSome || word == "help" then .displayHelp
      else .invalidSubcommand
  | _ => .invalidSubcommand

/-- What follows the words of the program: the command and its words. -/
abbrev CommandWords := CommandName × List String

/-- Reads the words of a level, up to a command where one may stand. -/
def readWords (level : Level) (reading : Reading) (awaiting trailing : Bool) :
    List String → Except Refusal (Reading × Option CommandWords)
  | [] => .ok (reading, none)
  | word :: words => do
      if trailing then
        readWords level (← reading.takeValue level trailing word) awaiting trailing words
      else
        let command? := if awaiting || level ≠ .program then none else CommandName.ofWord? word
        match command? with
        | some command => return (reading, some (command, words))
        | none =>
            if !awaiting && level = .program && word == "help" then throw (helpRefusal words)
            else
              match Word.ofText word with
              | .escape => readWords level reading awaiting true words
              | .long name value? =>
                  let (reading, awaiting) ← readLong level reading name value?
                  readWords level reading awaiting false words
              | .short letters =>
                  readWords level (← readShort level reading letters) false false words
              | .plain =>
                  match awaiting, reading.pending? with
                  | true, some (argument, _) =>
                      let reading := { reading with pending? := some (argument, some word) }
                      readWords level reading false false words
                  | _, _ =>
                      readWords level (← reading.takeValue level false word) false false words

/-- Checks a level at its end. The folder that the environment names is checked where none is given,
although one given at the other level may count in its place. -/
def finishLevel (level : Level) (environmentFolder? : Option String) (reading : Reading) :
    Except Refusal Reading := do
  let reading ← reading.settle
  if !reading.has .folder then
    if environmentFolder? = some "" then throw .invalidValue
  if level.required.all reading.has then return reading else throw .missingRequiredArgument

/-- The command with its arguments, once they have been checked. -/
def commandOf? (name : CommandName) (reading : Reading) : Option Command := do
  match name with
  | .list => return .list
  | .evaluate => return .evaluate (← reading.get? .network)
  | .connect =>
      return .connect (← reading.get? .network) (← reading.get? .certificate)
        (reading.has .background)
  | .reset => return .reset (← reading.get? .network)
  | .add =>
      let method? := (reading.get? .eapMethod).bind fun text => (EapMethod.ofText text).toOption
      return .add (← Argument.readNetworkId? (← reading.get? .networkId)) (← reading.get? .ssid)
        method? (reading.has .tofu)

/-- Reads a command line, without the name of the program. The folder may also come from the
environment, where the command line does not name one. -/
def read (words : List String) (environmentFolder? : Option String) :
    Except Refusal Invocation := do
  let (reading, command?) ← readWords .program {} false false words
  match command? with
  | none =>
      let reading ← finishLevel .program environmentFolder? reading
      return {
        folder? := (reading.get? .folder).orElse fun _ => environmentFolder?
        dryRun := reading.has .dryRun }
  | some (name, words) =>
      let (inner, _) ← readWords (.command name) {} false false words
      let inner ← finishLevel (.command name) environmentFolder? inner
      let outer ← finishLevel .program environmentFolder? reading
      match commandOf? name inner with
      | none => throw .missingRequiredArgument
      | some command =>
          return {
            folder? := ((inner.get? .folder).orElse fun _ => outer.get? .folder).orElse
              fun _ => environmentFolder?
            dryRun := inner.has .dryRun || outer.has .dryRun
            command? := some command }

end TrustGate.CommandLine
