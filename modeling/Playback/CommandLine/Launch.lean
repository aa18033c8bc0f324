import Playback.CommandLine.Command

/-!
# Runs without a browser

Where no browser can be started, a run ends with the reason for that.

* `launchFault` — why the browser of a configuration cannot be started;
* `console` — **a world without a browser**, whose observer writes on the console;
* `execute` — the program: its output and exit code for a command line.
-/

namespace Playback.CommandLine

/-- **Why the browser cannot be started**: there is none, its program is missing, or it is a file
that is not a program. -/
def launchFault (fs : Files) (b : BrowserSettings) : OpenFault :=
  match b.chromeExecutable with
  | none => .launch "Could not auto detect a chrome executable"
  | some path =>
    let missing := .launch ("could not canonicalize `" ++ path ++ "`")
    if path.isEmpty then missing
    else
      match fs.content path with
      | .error .missing => missing
      | .error .notDirectory => missing
      | _ => .launch "Permission denied (os error 13)"

/-- The answer to a call where there is no page. -/
def withoutPage (fault : OpenFault) : (c : Call) → c.Answer
  | .openPage _ => .error fault
  | .goto _ _ => .error .closed
  | .loadState _ _ => .error .closed
  | .waitVisible _ _ => .error .closed
  | .click _ => .error .closed
  | .fill _ _ => .error .closed
  | .press _ _ => .error .closed
  | .text _ => .error .closed
  | .state _ => .error .closed
  | .screenshot => .error .closed
  | .close => .error .closed
  | .lookup _ _ => .error .unconfigured
  | .backoff _ => ()
  | .pause _ => ()

/-- The answer to a request, and what is written. -/
def consoleReply (fault : OpenFault) (format : OutputFormat) (styled : Bool) (o : Output) :
    (q : Request) → q.Answer × Output
  | .shielded c => (withoutPage fault c, o)
  | .guarded c => (.answered (withoutPage fault c), o)
  | .inside c => (some (withoutPage fault c), o)
  | .check => (false, o)
  | .clock => (0, o)
  | .now => (⟨0, 0⟩, o)
  | .tell m => ((), o.hear format styled m)

/-- **A world without a browser**, whose observer writes on the console. -/
def console (fault : OpenFault) (format : OutputFormat) (styled : Bool) : World Output :=
  ⟨consoleReply fault format styled⟩

/-- The hexadecimal digits of a byte. -/
def byteText (b : UInt8) : List Char :=
  let digit (n : Nat) : Char := if n < 10 then Char.ofNat (48 + n) else Char.ofNat (87 + n)
  [digit (b.toNat / 16), digit (b.toNat % 16)]

/-- **The name of a session** made of sixteen random bytes: their hexadecimal digits in five groups,
with the mark of random names in the third and the fourth. -/
def sessionName (bytes : List UInt8) : String :=
  let byte (i : Nat) : UInt8 := bytes[i]?.getD 0
  let marked (i : Nat) : UInt8 :=
    if i = 6 then byte i % 16 + 64 else if i = 8 then byte i % 64 + 128 else byte i
  let group (start size : Nat) : List Char :=
    (List.range size).flatMap fun i => byteText (marked (start + i))
  String.ofList (group 0 4 ++ '-' :: group 4 2 ++ '-' :: group 6 2 ++ '-' :: group 8 2 ++
    '-' :: group 10 6)

/-- **What a command does**: its output and exit code. The session of a run bears the given name. -/
def perform (fs : Files) (env : Environment) (sessionId : String) (styled : Bool) :
    Command → Output × Nat
  | .run format flags =>
    match Command.prepare fs env sessionId flags with
    | .error e => (({} : Output).complain e.message, 1)
    | .ok (config, request) =>
      let engine : Engine := ⟨.standard, config⟩
      let world := console (launchFault fs config.browser) format styled
      let (summary, output) := world.run (engine.session request) {}
      (output, if summary.status = .passed then 0 else 1)
  | .validate format files =>
    let (output, ok) := Command.validated fs format files
    (output, if ok then 0 else 1)
  | .showVersion shown => (({} : Output).print (Command.versionLine shown), 0)
  | .showHelp => ({}, 0)

/-- **The program**: a command line is refused with code 2. -/
def execute (fs : Files) (env : Environment) (sessionId : String) (styled : Bool)
    (argv : List String) : Output × Nat :=
  match Command.parse env argv with
  | .error e => (({} : Output).complain e.name, 2)
  | .ok command => perform fs env sessionId styled command

end Playback.CommandLine
