import TrustGate.Profile.Basic
import TrustGate.Text.Decimal

/-!
# Arguments

What may stand on the command line: a few options for all commands, and for
each command its own options and the values that it needs. Values are checked
as soon as they are settled, so a wrong value is reported before a missing one.
-/

namespace TrustGate.CommandLine

/-- Why a command line is not run. Asking for help or for the version is one of the reasons. -/
inductive Refusal
  | unknownArgument
  | valueValidation
  | missingRequiredArgument
  | invalidValue
  | argumentConflict
  | invalidSubcommand
  | tooManyValues
  | displayHelp
  | displayVersion
deriving Repr, DecidableEq

inductive Argument
  | folder
  | dryRun
  | help
  | version
  | certificate
  | background
  | eapMethod
  | tofu
  | network
  | networkId
  | ssid
deriving Repr, DecidableEq

namespace Argument

def longName? : Argument → Option String
  | folder => some "config-dir"
  | dryRun => some "dry-run"
  | help => some "help"
  | version => some "version"
  | certificate => some "cert"
  | background => some "background"
  | eapMethod => some "eap"
  | tofu => some "tofu"
  | network | networkId | ssid => none

def letter? : Argument → Option Char
  | help => some 'h'
  | version => some 'V'
  | _ => none

def takesValue : Argument → Bool
  | folder | certificate | eapMethod => true
  | _ => false

def readNetworkId? (text : String) : Option NetworkId := do
  let value ← Text.unsigned? text.toList
  if value < UInt32.size then return UInt32.ofNat value else none

/-- Why a value cannot be taken: a path must not be empty, and numbers and methods have to be
such. -/
def refusal? (argument : Argument) (value : String) : Option Refusal :=
  match argument with
  | folder | certificate => if value.isEmpty then some .invalidValue else none
  | networkId => if (readNetworkId? value).isSome then none else some .valueValidation
  | eapMethod => if (EapMethod.ofText value).isOk then none else some .valueValidation
  | _ => none

end Argument

inductive CommandName
  | list
  | evaluate
  | connect
  | reset
  | add
deriving Repr, DecidableEq

namespace CommandName

def all : List CommandName :=
  [list, evaluate, connect, reset, add]

def word : CommandName → String
  | list => "list"
  | evaluate => "evaluate"
  | connect => "connect"
  | reset => "reset"
  | add => "add"

def ofWord? (word : String) : Option CommandName :=
  all.find? (·.word == word)

def options : CommandName → List Argument
  | connect => [.certificate, .background]
  | add => [.eapMethod, .tofu]
  | list | evaluate | reset => []

/-- The values that a command takes, in their order; it needs them all. -/
def values : CommandName → List Argument
  | list => []
  | evaluate | connect | reset => [.network]
  | add => [.networkId, .ssid]

def required : CommandName → List Argument
  | connect => [.network, .certificate]
  | command => command.values

end CommandName

/-- A place on the command line: before the command, or after it. -/
inductive Level
  | program
  | command (name : CommandName)
deriving Repr, DecidableEq

namespace Level

def options : Level → List Argument
  | program => [.folder, .dryRun, .help, .version]
  | command name => name.options ++ [.folder, .dryRun, .help]

def values : Level → List Argument
  | program => []
  | command name => name.values

def required : Level → List Argument
  | program => []
  | command name => name.required

def byName? (level : Level) (name : String) : Option Argument :=
  level.options.find? (·.longName? == some name)

def byLetter? (level : Level) (letter : Char) : Option Argument :=
  level.options.find? (·.letter? == some letter)

/-- The refusal of a value that has no place at a level. -/
def strayValue (trailing : Bool) (value : String) : Level → Refusal
  | program =>
      if trailing && ((CommandName.ofWord? value).isSome || value == "help") then .unknownArgument
      else .invalidSubcommand
  | command _ => .unknownArgument

end Level

end TrustGate.CommandLine
