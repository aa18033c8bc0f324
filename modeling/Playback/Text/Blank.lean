/-!
# Blank characters and parts of texts

* `isBlank` — the characters that count as white space in every script;
* `trim` — a text without the blanks at its two ends;
* `occursIn` — one text as a contiguous part of another;
* `dropTrailing`, `splitAtFirst`, `splitOnChar` — pieces of a character list.
-/

namespace Playback.Text

/-- **White space**: the controls from tab to carriage return, the next-line control, and the
spaces and separators of all scripts. -/
def isBlank (c : Char) : Bool :=
  let n := c.toNat
  (9 ≤ n && n ≤ 13) || n == 32 || n == 0x85 || n == 0xA0 || n == 0x1680 ||
    (0x2000 ≤ n && n ≤ 0x200A) || n == 0x2028 || n == 0x2029 || n == 0x202F || n == 0x205F ||
    n == 0x3000

/-- The list without the longest tail whose members all satisfy a test. -/
def dropTrailing (p : Char → Bool) (cs : List Char) : List Char :=
  (cs.reverse.dropWhile p).reverse

/-- The characters without the blanks at both ends. -/
def trimChars (cs : List Char) : List Char := dropTrailing isBlank (cs.dropWhile isBlank)

/-- **Trimming**: a text without the blanks at its two ends. -/
def trim (s : String) : String := String.ofList (trimChars s.toList)

/-- A text of blanks only. -/
def isBlankText (s : String) : Bool := s.toList.all isBlank

/-- Whether the first list is a contiguous part of the second. -/
def isPart : List Char → List Char → Bool
  | part, [] => part.isEmpty
  | part, c :: cs => part.isPrefixOf (c :: cs) || isPart part cs

/-- **Occurrence**: the first text is a contiguous part of the second; the empty text always is. -/
def occursIn (part whole : String) : Bool := isPart part.toList whole.toList

/-- The characters before the first one that satisfies a test, and those after it, if there is
one. -/
def splitAtFirst (p : Char → Bool) : List Char → Option (List Char × List Char)
  | [] => none
  | c :: cs => if p c then some ([], cs) else (splitAtFirst p cs).map fun (a, b) => (c :: a, b)

/-- The pieces between the occurrences of a character; always at least one. -/
def splitOnChar (sep : Char) : List Char → List (List Char)
  | [] => [[]]
  | c :: cs =>
    if c = sep then [] :: splitOnChar sep cs
    else match splitOnChar sep cs with
      | [] => [[c]]
      | piece :: pieces => (c :: piece) :: pieces

end Playback.Text
