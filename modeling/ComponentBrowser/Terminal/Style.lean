/-!
# ComponentBrowser.Terminal.Style

Texts for a terminal.  A stretch that is to look different stands between a
control sequence that sets its style and one that ends it.
-/

namespace ComponentBrowser.Terminal

/-- How a stretch of text looks. -/
inductive Style where
  /-- What announces a mistake. -/
  | alarm
  | heading
  /-- What is typed as it stands. -/
  | literal
  /-- What would have been right. -/
  | right
  /-- What was wrong. -/
  | wrong
  deriving DecidableEq, Repr

/-- The control sequence with a parameter that sets a style. -/
def sequence (parameter : String) : String := "\x1b[" ++ parameter ++ "m"

/-- The parameters that set a style. -/
def Style.parameters : Style → List String
  | alarm => ["1", "31"]
  | heading => ["1", "4"]
  | literal => ["1"]
  | right => ["32"]
  | wrong => ["33"]

/-- A text in a style. -/
def paint (style : Style) (text : String) : String :=
  String.join (style.parameters.map sequence) ++ text ++ sequence "0"

end ComponentBrowser.Terminal
