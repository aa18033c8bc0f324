import Playback.Config.Load
import Playback.Text.Blank

/-!
# Starting a server

Where a server listens is told by the environment, and so are its scripts and its configuration.

* `isAddress` — whether a text is **an address with a port**: four numbers with dots, or groups of
  hexadecimal digits in brackets;
* `Startup.ofEnvironment` — what a server starts with, or why it does not.
-/

namespace Playback.Server

/-- Whether the text is a number of decimal digits up to a bound. -/
def isNumberUpTo (bound : Nat) (cs : List Char) : Bool :=
  !cs.isEmpty && cs.all isDigit && natOfDigits cs ≤ bound

/-- Whether the text is the number of a port. -/
def isPort (cs : List Char) : Bool := isNumberUpTo 65535 cs

/-- Whether the text is one of the four numbers of an address: without zeros in front. -/
def isOctet (cs : List Char) : Bool :=
  isNumberUpTo 255 cs && cs.length ≤ 3 && (cs.length = 1 || cs.head? != some '0')

/-- Whether the text is an address of four numbers. -/
def isFourNumbers (cs : List Char) : Bool :=
  let parts := Text.splitOnChar '.' cs
  parts.length = 4 && parts.all isOctet

/-- Whether the text is a group of an address. -/
def isGroup (cs : List Char) : Bool :=
  !cs.isEmpty && cs.length ≤ 4 && cs.all fun c => (digitIn? 16 c).isSome

/-- The number of groups in a list of them; the last may be four numbers that stand for two. -/
def groupCount? : List (List Char) → Option Nat
  | [] => some 0
  | [last] =>
    if isGroup last then some 1 else if isFourNumbers last then some 2 else none
  | g :: rest => if isGroup g then (groupCount? rest).map (· + 1) else none

/-- The number of groups in a text with colons between them. -/
def groupsOf? (cs : List Char) : Option Nat :=
  if cs.isEmpty then some 0 else groupCount? (Text.splitOnChar ':' cs)

/-- Divides a text at the first two colons in a row. -/
def splitAtGap : List Char → Option (List Char × List Char)
  | ':' :: ':' :: rest => some ([], rest)
  | c :: rest => (splitAtGap rest).map fun (a, b) => (c :: a, b)
  | [] => none

/-- Whether the text is an address of eight groups, where two colons stand for groups of zero. -/
def isEightGroups (cs : List Char) : Bool :=
  match splitAtGap cs with
  | none => groupsOf? cs = some 8
  | some (front, back) =>
    !(front.contains '.') &&
      match groupsOf? front, groupsOf? back with
      | some n, some m => n + m ≤ 7
      | _, _ => false

/-- Whether the text is an address in brackets, perhaps with a number of its scope. -/
def isBracketed (cs : List Char) : Bool :=
  let address := cs.takeWhile (· != '%')
  isEightGroups address &&
    match cs.dropWhile (· != '%') with
    | [] => true
    | _ :: scope => isNumberUpTo 4294967295 scope

/-- **Whether a text is an address with a port.** -/
def isAddress (s : String) : Bool :=
  match s.toList with
  | '[' :: rest =>
    let address := rest.takeWhile (· != ']')
    match rest.dropWhile (· != ']') with
    | ']' :: ':' :: port => isBracketed address && isPort port
    | _ => false
  | cs =>
    let address := cs.takeWhile (· != ':')
    match cs.dropWhile (· != ':') with
    | _ :: port => isFourNumbers address && isPort port
    | [] => false

/-- **Why a server does not start.** -/
inductive StartupError where
  | address
  | config (error : ConfigError)
  /-- Something else listens there. -/
  | addressInUse
  deriving DecidableEq, Repr

/-- The text of a startup error. -/
def StartupError.message : StartupError → String
  | address => "invalid socket address syntax"
  | config e => e.message
  | addressInUse => "Address already in use (os error 98)"

/-- **What a server starts with.** -/
structure Startup where
  address : String
  /-- The directory of scripts. -/
  scripts : String
  config : EngineConfig

namespace Startup

/-- The variable that tells where to listen. -/
def addressVariable : String := "REPLAYKIT_WEB_ADDR"

/-- The variable that names the directory of scripts. -/
def scriptsVariable : String := "REPLAYKIT_SCRIPTS_DIR"

/-- The variable that names the configuration file. -/
def configVariable : String := "REPLAYKIT_CONFIG"

/-- **What a server starts with.** The address is looked at before the configuration. -/
def ofEnvironment (fs : Files) (env : Environment) : Except StartupError Startup :=
  let address := (env.get? addressVariable).getD "127.0.0.1:8080"
  if !isAddress address then .error .address
  else
    match EngineConfig.load fs ((env.get? configVariable).getD "replaykit.toml") with
    | .error e => .error (.config e)
    | .ok config => .ok {
        address
        scripts := (env.get? scriptsVariable).getD "scripts"
        config := config.withOverrides env }

end Startup

end Playback.Server
