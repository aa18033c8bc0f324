/-!
# Styles

Escape sequences that make a terminal show text in a colour or dimmed. Where styles are not wanted
the text is left as it is.
-/

namespace Playback

/-- **The ways to show a text.** -/
inductive Style where
  | dimmed
  | red
  | green
  | yellow
  deriving DecidableEq, Repr

namespace Style

/-- The escape character. -/
def escape : Char := Char.ofNat 27

/-- The sequence that begins a style. -/
def opening : Style → List Char
  | dimmed => [escape, '[', '2', 'm']
  | red => [escape, '[', '3', '1', 'm']
  | green => [escape, '[', '3', '2', 'm']
  | yellow => [escape, '[', '3', '3', 'm']

/-- The sequence that ends all styles. -/
def closing : List Char := [escape, '[', '0', 'm']

/-- A text in which the style begins anew wherever the text ends it. -/
def renewed (style : Style) (cs : List Char) : List Char :=
  match cs with
  | [] => []
  | c :: rest =>
    if closing.isPrefixOf (c :: rest) then
      closing ++ opening style ++ renewed style (rest.drop 3)
    else c :: renewed style rest
termination_by cs.length
decreasing_by all_goals simp only [List.length_cons, List.length_drop]; omega

/-- **A text in a style**, or as it is if styles are not wanted. -/
def apply (style : Style) (wanted : Bool) (text : String) : String :=
  if wanted then
    String.ofList (opening style ++ renewed style text.toList ++ closing)
  else text

end Style

end Playback
