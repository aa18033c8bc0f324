import Playback.Run.Attempt

/-!
# Acquiring a passcode

`Passcode.acquire` **looks codes up until one is fresh**, over alternating channels and with a pause
between two look-ups. A look-up that fails, finds nothing or finds an old code counts as an attempt.

The whole acquisition is one guarded activity: it is refused once the run is cancelled, and given up
if the run is cancelled while a look-up or a pause waits.
-/

namespace Playback.Passcode

/-- What an acquisition goes by. -/
structure Policy where
  /-- The number of look-ups. -/
  attempts : Nat
  /-- The pause between two of them, in milliseconds. -/
  backoffMs : Nat
  /-- How far a code may lie from the request, in milliseconds. -/
  windowMs : Nat
  deriving DecidableEq, Repr

/-- The policy of a configuration. -/
def Policy.ofConfig (c : PasscodeConfig) : Policy :=
  ⟨c.attempts.toNat, c.backoffMs, c.freshnessWindowMs⟩

/-- **How an acquisition ends.** -/
inductive Acquisition where
  | code (code : String)
  | none
  | interrupted
  deriving DecidableEq, Repr

/-- The code that an answer offers, if it is fresh. -/
def offered (policy : Policy) (reference : Instant) :
    Except LookupFault (Option IssuedCode) → Option String
  | .ok (some c) => if c.isFresh reference policy.windowMs then some c.code else Option.none
  | _ => Option.none

/-- The remaining look-ups of an acquisition, the next of which is the given attempt. -/
def acquireFrom (policy : Policy) (username : String) (reference : Instant) :
    Nat → Nat → Routine Acquisition
  | 0, _ => return .none
  | left + 1, attempt => do
    match ← Routine.request (.inside (.lookup (Channel.forAttempt attempt) username)) with
    | Option.none => return .interrupted
    | some answer =>
      match offered policy reference answer with
      | some code => return .code code
      | Option.none =>
        -- no pause after the last look-up
        if left = 0 then return .none
        else
          match ← Routine.request (.inside (.backoff (Span.ofMillis policy.backoffMs))) with
          | Option.none => return .interrupted
          | some _ => acquireFrom policy username reference left (attempt + 1)

/-- **An acquisition**: look-ups until a code is fresh. -/
def acquire (policy : Policy) (username : String) (reference : Instant) : Routine Acquisition :=
  acquireFrom policy username reference policy.attempts 0

/-- **A guarded acquisition**, `none` if no code was fresh. -/
def acquireGuarded (policy : Policy) (username : String) (reference : Instant) :
    Attempt (Option String) := do
  -- within the acquisition no call is refused, so the token is looked at once, before it
  if ← ExceptT.lift (Routine.request .check) then throw .cancelled
  match ← ExceptT.lift (acquire policy username reference) with
  | .code code => return some code
  | .none => return Option.none
  | .interrupted => throw .cancelled

/-- Guarded acquisitions until one gives a code. -/
def acquireWithin (policy : Policy) (username : String) (reference : Instant) :
    Nat → Attempt (Option String)
  | 0 => return Option.none
  | rounds + 1 => do
    match ← acquireGuarded policy username reference with
    | some code => return some code
    | Option.none => acquireWithin policy username reference rounds

end Playback.Passcode
