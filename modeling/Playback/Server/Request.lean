import Playback.Number.Numeral
import Playback.Text.Blank

/-!
# Requests to a server

* `WebRequest` — **a request**: method, target, and perhaps a body with its media type;
* `Route` — what the server can be asked for;
* `Route.find` — the route of a target, whose parameter is still encoded;
* `percentDecoded?` — a parameter decoded, if that gives a text;
* `isJsonType` — whether a media type is that of JSON.
-/

namespace Playback.Server

/-- **A request.** -/
structure WebRequest where
  method : String
  /-- The path, perhaps followed by a query or a fragment. -/
  target : String
  contentType : Option String := none
  body : String := ""

/-! ## Routes -/

/-- **What the server can be asked for**, with a name as it is written in the path. -/
inductive Route where
  | health
  | testCases
  | runTestCase (name : List Char)
  | sessions
  | session (id : List Char)
  deriving DecidableEq, Repr

namespace Route

/-- The path of a target. -/
def path (target : String) : List Char := target.toList.takeWhile fun c => c != '?' && c != '#'

/-- **The route of a path.** Names are not empty. -/
def find (path : List Char) : Option Route :=
  match (Text.splitOnChar '/' path).map String.ofList with
  | ["", "health"] => some health
  | ["", "api", "test-cases"] => some testCases
  | ["", "api", "test-cases", name, "run"] =>
    if name.isEmpty then none else some (runTestCase name.toList)
  | ["", "api", "sessions"] => some sessions
  | ["", "api", "sessions", id] => if id.isEmpty then none else some (session id.toList)
  | _ => none

/-- Whether a route understands a method. -/
def allows (method : String) : Route → Bool
  | health => method == "GET" || method == "HEAD"
  | testCases => method == "GET" || method == "HEAD"
  | runTestCase _ => method == "POST"
  | sessions => method == "GET" || method == "HEAD"
  | session _ => method == "DELETE"

end Route

/-! ## Encoded names -/

/-- The bytes that encoded characters stand for. A percent sign without two hexadecimal digits
stands for itself. -/
def percentBytes : List Char → List UInt8
  | [] => []
  | '%' :: a :: b :: cs =>
    match digitIn? 16 a, digitIn? 16 b with
    | some x, some y => UInt8.ofNat (x * 16 + y) :: percentBytes cs
    | _, _ => 0x25 :: percentBytes (a :: b :: cs)
  | c :: cs => (String.singleton c).toUTF8.toList ++ percentBytes cs

/-- **A decoded name**, `none` if it is not a text. -/
def percentDecoded? (cs : List Char) : Option String :=
  String.fromUTF8? ⟨(percentBytes cs).toArray⟩

/-! ## Media types -/

/-- A letter A to Z in lower case. -/
def lowered (cs : List Char) : List Char :=
  cs.map fun c => if 'A' ≤ c ∧ c ≤ 'Z' then Char.ofNat (c.toNat + 32) else c

/-- A character of a name in a media type. -/
def isTypeChar (c : Char) : Bool := c.isAlphanum || "!#$%&'*+-.^_`|~".toList.contains c

/-- Whether the text after a type is a parameter of it. -/
def isParameter (cs : List Char) : Bool :=
  let cs := Text.trimChars cs
  let name := cs.takeWhile isTypeChar
  match cs.dropWhile isTypeChar with
  | '=' :: '"' :: value => !name.isEmpty && value.getLast? == some '"'
  | '=' :: value => !name.isEmpty && !value.isEmpty && value.all isTypeChar
  | rest => name.isEmpty && rest.isEmpty

/-- **Whether a media type is that of JSON**: `application/json`, or a type with the suffix
`+json`. -/
def isJsonType (mediaType : String) : Bool :=
  let pieces := Text.splitOnChar ';' mediaType.toList
  let essence := lowered (Text.dropTrailing (· == ' ') (pieces.headD []))
  let type := essence.takeWhile (· != '/')
  let subtype := (essence.dropWhile (· != '/')).drop 1
  let suffix := (subtype.reverse.takeWhile (· != '+')).reverse
  let stem := subtype.take (subtype.length - suffix.length - 1)
  let plain := suffix.length = subtype.length
  type == "application".toList && subtype.all isTypeChar &&
    (if plain then subtype == "json".toList
      else stem == "json".toList || (suffix == "json".toList && !stem.isEmpty)) &&
    pieces.tail.all isParameter

end Playback.Server
