/-!
# ComponentBrowser.Text.Section

The frame around every listing, preview and prompt on the console.
-/

namespace ComponentBrowser.Section

/-- Width of the rule that frames a section. -/
def ruleWidth : Nat := 60

/-- A rule across the full width. -/
def rule : String := String.ofList (List.replicate ruleWidth '=')

/-- A section's header: a blank line, a rule, the title, a rule.  It ends its
last line. -/
def header (title : String) : String :=
  "\n" ++ rule ++ "\n" ++ title ++ "\n" ++ rule ++ "\n"

end ComponentBrowser.Section
