import Playback.Json.Reader
import Playback.Passcode.Basic

/-!
# Replies of the passcode service

Codes are looked up by a query over a service that answers in JSON.

* `Passcode.query` — the text of the query;
* `Passcode.ofReply` — **what a reply says**: a code, no code, or something that is no answer;
* `Passcode.ofBody` — the same of the text of a reply.
-/

namespace Playback.Passcode

/-- **The query** for the latest code under the name `field`. -/
def query (field : String) : String :=
  "query LatestPasscode($profile: String!, $type: String!, $username: String!) \x7b " ++ field ++
    "(profile: $profile, type: $type, username: $username) \x7b code createdAt \x7d \x7d"

/-- A number of milliseconds since the beginning of 1970, if it fits 64 bits. -/
def instantOfMillis? (ms : Int) : Option Instant :=
  if fitsWord ms then Instant.ofMillis? ms else none

/-- **A time of issue**: a date and time as text, or milliseconds since the beginning of 1970 as a
whole number or its text. -/
def createdAt? : Json → Option Instant
  | .int ms => instantOfMillis? ms
  | .str s =>
    match Instant.ofText? s.toList with
    | some t => some t
    | none => (intOfText? s.toList).bind instantOfMillis?
  | _ => none

/-- **What a reply says.** Errors in the reply win over its data. -/
def ofReply (field : String) (payload : Json) : Except LookupFault (Option IssuedCode) :=
  let errors := payload.index "errors"
  if !errors.isNull then .error (.decode errors.compact)
  else
    let entry := (payload.index "data").index field
    if entry.isNull then .ok none
    else
      match (entry.index "code").str? with
      | none => .error (.decode "missing code")
      | some code =>
        match createdAt? (entry.index "createdAt") with
        | none => .error (.decode ("bad createdAt " ++ (entry.index "createdAt").compact))
        | some t => .ok (some ⟨code, t⟩)

/-- **What the text of a reply says**, `none` if it is not JSON. -/
def ofBody (field body : String) : Option (Except LookupFault (Option IssuedCode)) :=
  match Wire.ofText (fun _ => Wire.json) body with
  | .ok payload => some (ofReply field payload)
  | .error _ => none

end Playback.Passcode
