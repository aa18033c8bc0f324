import Playback.Instant
import Playback.Wire.Decode

/-!
# One-time passcodes

* `Channel` — how a code was delivered; look-ups take turns between the channels;
* `IssuedCode` — **a code and when it was issued**;
* `IssuedCode.isFresh` — whether a code may answer a request made at some instant: it is a code at
  all, and was issued within the window before or after the request;
* `LookupFault` — why a look-up gives no answer.
-/

namespace Playback

/-- **The channels** that codes are delivered through. -/
inductive Channel where
  | email
  | phone
  deriving DecidableEq, Repr, Inhabited

namespace Channel

/-- The name of a channel. -/
def name : Channel → String
  | email => "EMAIL"
  | phone => "PHONE"

/-- The channel of an attempt, counted from 0: the channels take turns. -/
def forAttempt (attempt : Nat) : Channel := if attempt % 2 = 0 then email else phone

/-- The channels by their names. -/
def members : List (String × Channel) := [email, phone].map fun c => (c.name, c)

/-- A channel as text. -/
def encode (c : Channel) : Json := .str c.name

/-- Reads a channel. -/
def decode (origin : Origin) : Document → Wire.Result Channel := Wire.choice members origin

end Channel

/-- What stands for a code when there is none. -/
def noCode : String := "no-code"

/-- **A code that was issued.** -/
structure IssuedCode where
  /-- The code itself. -/
  code : String
  /-- When it was issued. -/
  createdAt : Instant
  deriving DecidableEq, Repr, Inhabited

namespace IssuedCode

/-- Whether the text is a code at all. -/
def isCode (c : IssuedCode) : Bool := c.code ≠ "" && c.code ≠ noCode

/-- Windows of more milliseconds than this hold every two representable instants. -/
def widestWindow : Nat := Nat.pow 2 63 - 1

/-- **Freshness**: a code issued at most `window` milliseconds from `reference`, on either side. -/
def isFresh (c : IssuedCode) (reference : Instant) (window : Nat) : Bool :=
  c.isCode &&
    (decide (widestWindow < window) ||
      decide (c.createdAt.apart reference ≤ window * 1000000))

end IssuedCode

/-- **Why a look-up gives no answer.** -/
inductive LookupFault where
  | transport (message : String)
  | decode (message : String)
  | unconfigured
  deriving DecidableEq, Repr

/-- The text of a fault in a look-up. -/
def LookupFault.message : LookupFault → String
  | transport m => "Passcode backend unreachable: " ++ m
  | decode m => "Unexpected passcode response: " ++ m
  | unconfigured => "No passcode backend configured"

end Playback
