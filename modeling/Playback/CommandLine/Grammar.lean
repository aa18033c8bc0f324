import Playback.Dict
import Playback.Text.Blank

/-!
# Grammar of command lines

Words of a command line are options, values of options, or operands.

* `OptionSpec` — **an option**: its names, and whether it takes a value;
* `CommandSpec` — what a command understands;
* `Parsing.word`, `CommandSpec.parse` — reads words from left to right, up to the name of a
  subcommand;
* `UsageError` — why a command line is refused.

The value of an option is the rest of its word, or the next word unless that looks like an option.
It is examined when the next option or operand comes, or at the end. An option is given once.
-/

namespace Playback.CommandLine

/-- **Why a command line is refused**, or what it asks for instead of a command. -/
inductive UsageError where
  | invalidValue
  | unknownArgument
  | tooManyValues
  | argumentConflict
  | missingRequiredArgument
  | invalidSubcommand
  | missingSubcommand
  | displayHelp
  | displayVersion
  deriving DecidableEq, Repr

namespace UsageError

/-- The name of an error. -/
def name : UsageError → String
  | invalidValue => "InvalidValue"
  | unknownArgument => "UnknownArgument"
  | tooManyValues => "TooManyValues"
  | argumentConflict => "ArgumentConflict"
  | missingRequiredArgument => "MissingRequiredArgument"
  | invalidSubcommand => "InvalidSubcommand"
  | missingSubcommand => "MissingSubcommand"
  | displayHelp => "DisplayHelp"
  | displayVersion => "DisplayVersion"

end UsageError

/-- **What an option does.** -/
inductive OptionKind where
  /-- It is given or not. -/
  | flag
  /-- It takes a value that must pass a test. -/
  | valued (accepts : String → Bool)
  | help
  | version

/-- **An option.** -/
structure OptionSpec where
  /-- The long name, behind two dashes. -/
  long : String
  /-- The short name, behind one dash. -/
  short : Option Char := none
  kind : OptionKind

/-- **What a command understands.** -/
structure CommandSpec where
  options : List OptionSpec
  /-- Whether operands are understood, and which. -/
  operands : Option (String → Bool) := none
  /-- The names of subcommands. -/
  subcommands : List String := []

/-- **What has been read of a command line.** -/
structure Parsing where
  /-- The values of the options given; flags have an empty one. -/
  given : Dict String := Dict.empty
  /-- The operands in order. -/
  operands : List String := []
  /-- An option whose value is not examined yet, and the value if it is known. -/
  pending : Option (OptionSpec × Option String) := none
  /-- Only operands follow. -/
  onlyOperands : Bool := false

namespace Parsing

/-- Takes an option in, which must not have been given before. -/
def give (p : Parsing) (o : OptionSpec) (value : String) : Except UsageError Parsing :=
  if p.given.contains o.long then .error .argumentConflict
  else
    match o.kind with
    | .valued accepts =>
      if accepts value then .ok { p with given := p.given.insert o.long value }
      else .error .invalidValue
    | _ => .ok { p with given := p.given.insert o.long value }

/-- Examines the value of the pending option. -/
def settle (p : Parsing) : Except UsageError Parsing :=
  match p.pending with
  | none => .ok p
  -- another option came, or the words ended, where the value should stand
  | some (_, none) => .error .invalidValue
  | some (o, some value) => { p with pending := none }.give o value

/-- An option without a value in its own word. -/
def bare (p : Parsing) (o : OptionSpec) : Except UsageError Parsing := do
  let p ← p.settle
  match o.kind with
  | .flag => p.give o ""
  | .valued _ => .ok { p with pending := some (o, none) }
  | .help => .error .displayHelp
  | .version => .error .displayVersion

/-- An option with a value in its own word. -/
def attached (p : Parsing) (o : OptionSpec) (value : String) : Except UsageError Parsing :=
  match o.kind with
  | .valued _ => do (← p.settle).give o value
  | _ => .error .tooManyValues

/-- A word with a long name. -/
def long (spec : CommandSpec) (p : Parsing) (word : List Char) : Except UsageError Parsing :=
  let name := String.ofList (word.takeWhile (· != '='))
  match spec.options.find? fun o => o.long == name with
  | none => .error .unknownArgument
  | some o =>
    match word.dropWhile (· != '=') with
    | [] => p.bare o
    | _ :: value => p.attached o (String.ofList value)

/-- A word with short names, the last of which may be followed by its value. -/
def short (spec : CommandSpec) (p : Parsing) : List Char → Except UsageError Parsing
  | [] => .ok p
  | c :: rest =>
    match spec.options.find? fun o => o.short == some c with
    | none => .error .unknownArgument
    | some o =>
      match o.kind, rest with
      -- the value may follow its letter directly or after a sign of equality
      | .valued _, '=' :: value => p.attached o (String.ofList value)
      | .valued _, d :: value => p.attached o (String.ofList (d :: value))
      | _, _ => do short spec (← p.bare o) rest

/-- A word that is no option: the value of the pending option, or an operand. -/
def plain (spec : CommandSpec) (p : Parsing) (word : String) : Except UsageError Parsing :=
  match p.pending, p.onlyOperands with
  | some (o, none), false => .ok { p with pending := some (o, some word) }
  | _, _ =>
    match spec.operands with
    | none => .error (if spec.subcommands.isEmpty then .unknownArgument else .invalidSubcommand)
    | some accepts => do
      let p ← p.settle
      if accepts word then .ok { p with operands := p.operands ++ [word] }
      else .error .invalidValue

/-- **Reads a word.** -/
def word (spec : CommandSpec) (p : Parsing) (w : String) : Except UsageError Parsing :=
  if p.onlyOperands then p.plain spec w
  else
    match w.toList with
    | ['-', '-'] => .ok { p with onlyOperands := true }
    | '-' :: '-' :: rest => p.long spec rest
    | '-' :: c :: rest => p.short spec (c :: rest)
    | _ => p.plain spec w

/-- Whether a word is the name of a subcommand here. -/
def isSubcommand (spec : CommandSpec) (p : Parsing) (w : String) : Bool :=
  match p.pending, p.onlyOperands with
  | some (_, none), _ => false
  | _, true => false
  | _, false => spec.subcommands.contains w

end Parsing

/-- **Reads words** up to the name of a subcommand, which is handed back with the words after it. -/
def CommandSpec.parse (spec : CommandSpec) (p : Parsing) :
    List String → Except UsageError (Parsing × Option (String × List String))
  | [] => .ok (p, none)
  | w :: rest =>
    if p.isSubcommand spec w then .ok (p, some (w, rest))
    else do spec.parse (← p.word spec w) rest

end Playback.CommandLine
