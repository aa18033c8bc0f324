import Playback.Passcode.Acquire
import Playback.Run.Handler.Basic
import Playback.Text.Blank

/-!
# Passcode steps

A click on the first `id` selector of a step makes a passcode be sent. The step looks the code up
and types it, a character each, into fields whose ids are that of the selector with a position in
place of its final digits.

* `digitFieldBase` — the common part of the ids of the fields;
* `enterDigits` — types the characters of a code;
* `Handler.passcode` — **the handler of passcode steps**.
-/

namespace Playback

/-- The text without the number signs in front. -/
def withoutSigns (locator : String) : List Char := locator.toList.dropWhile (· == '#')

/-- **The common part of the ids of the fields**: a locator without the number signs in front and
the digits at its end. -/
def digitFieldBase (locator : String) : String :=
  String.ofList (Text.dropTrailing isDigit (withoutSigns locator))

/-- The query of the field for a character of a code. -/
def digitField (base : String) (position : Nat) : String := "#" ++ base ++ toString position

/-- The user a code is looked up for: the text of the step, or else the datum `username`. -/
def StepRecord.username? (s : StepRecord) (data : TestData) : Option String :=
  (s.input?.filter fun v => !Text.isBlankText v).orElse fun _ => data.get? "username"

/-- **Types the characters of a code** from a position on, and tells why it stopped early. -/
def enterDigits (base : String) : List Char → Nat → Attempt (Option String)
  | [], _ => return none
  | c :: cs, position => do
    match ← Attempt.guard (.fill (digitField base position) (String.singleton c)) with
    | .ok _ => enterDigits base cs (position + 1)
    | .error e =>
      return some ("Could not enter passcode digit " ++ toString position ++ " into " ++
        digitField base position ++ ": " ++ e.message)

/-- Looks a code up for a user and types it. -/
def enterCodeOf (ctx : StepContext) (step : StepRecord) (started : Nat) (locator username : String)
    (reference : Instant) : Attempt ActionOutcome := do
  let config := ctx.config.passcode
  let rounds := max config.acquisitionRetries.toNat 1
  match ← Passcode.acquireWithin (.ofConfig config) username reference rounds with
  | none =>
    Attempt.fail step step.label started
      (.failed ("No fresh passcode received for " ++ username ++ " after " ++ toString rounds ++
        " acquisition(s)"))
  | some code => do
    let base := digitFieldBase locator
    match ← enterDigits base code.toList 0 with
    | some message => Attempt.fail step step.label started (.failed message)
    | none =>
      Attempt.complete step ("Enter passcode into #" ++ base ++ "0..") started none (some (.obj [
        ("digits", .int code.length), ("fieldBase", .str base)]))

/-- **Requests a passcode and types it.** The instant of the request is that after the click. -/
def Handler.passcode : Handler := fun ctx step => do
  let started ← Attempt.start step
  Attempt.settle ctx.config
  match step.firstOfKind? .id with
  | none => Attempt.fail step step.label started (.failed "Passcode step has no id selector")
  | some control =>
    match ← Attempt.resolveWithin ctx.config ctx.config.timeouts.passcodeMs [control] with
    | .notFound _ =>
      Attempt.fail step step.label started
        (.failed ("Passcode control #" ++ String.ofList (withoutSigns control.locator) ++
          " not found"))
    | .found found => do
      let answer ← Attempt.guard (.click found.query)
      Attempt.orFault answer
      -- codes are measured against the moment right after the click that asked for one
      let reference ← ExceptT.lift (Routine.request .now)
      match step.username? ctx.data with
      | none =>
        Attempt.fail step step.label started
          (.failed "No username available for passcode lookup")
      | some username => enterCodeOf ctx step started control.locator username reference

end Playback
