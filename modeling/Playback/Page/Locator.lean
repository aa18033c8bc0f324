import Playback.Step.Record

/-!
# Queries of selectors

A recorded selector names an element by its id, its class, a test id, attributes or an XPath
expression. `Selector.query?` is **the page query of a selector**; a selector of unknown type has
none. A locator that is already written as a query of its kind is left as it is.
-/

namespace Playback

/-- What marks a query as an XPath expression. -/
def xpathMarker : String := "xpath="

/-- Puts a marker in front of a text that does not begin with it. -/
def marked (marker text : String) : String :=
  if marker.toList.isPrefixOf text.toList then text else marker ++ text

/-- The query of a locator of a kind. -/
def SelectorKind.query (locator : String) : SelectorKind → String
  | .id => marked "#" locator
  | .class => marked "." locator
  | .dataTestId =>
    if ['['].isPrefixOf locator.toList then locator else "[data-testid=\"" ++ locator ++ "\"]"
  | .tagAttributes => locator
  | .xpath => marked xpathMarker locator

/-- **The query of a selector**, `none` if its type is unknown. -/
def Selector.query? (s : Selector) : Option String := s.kind?.map (SelectorKind.query s.locator)

end Playback
