import ComponentBrowser.Text.CodePoints

/-!
# ComponentBrowser.Pattern.NamedSet

The sets of ASCII characters that have names, and the letters of the other case.
-/

namespace ComponentBrowser.CodePoints

/-- The characters of some ranges. -/
def ofRanges (ranges : List (Char × Char)) : CodePoints :=
  unions (ranges.map fun (low, high) => range low high)

/-- The set of ASCII characters with a name. -/
def ofName? (name : String) : Option CodePoints :=
  let digits := ('0', '9')
  let upper := ('A', 'Z')
  let lower := ('a', 'z')
  let only := fun (c : Char) => (c, c)
  match name with
  | "alnum" => some (ofRanges [digits, upper, lower])
  | "alpha" => some (ofRanges [upper, lower])
  | "ascii" => some (range '\x00' '\x7f')
  | "blank" => some (ofRanges [only '\t', only ' '])
  | "cntrl" => some (ofRanges [('\x00', '\x1f'), only '\x7f'])
  | "digit" => some (ofRanges [digits])
  | "graph" => some (range '!' '~')
  | "lower" => some (ofRanges [lower])
  | "print" => some (range ' ' '~')
  | "punct" => some (ofRanges [('!', '/'), (':', '@'), ('[', '\x60'), ('\x7b', '~')])
  | "space" => some (ofRanges [('\t', '\r'), only ' '])
  | "upper" => some (ofRanges [upper])
  | "word" => some (ofRanges [digits, upper, only '_', lower])
  | "xdigit" => some (ofRanges [digits, ('A', 'F'), ('a', 'f')])
  | _ => none

/-- The characters of a set, and the ASCII letters that are those of the set in
the other case. -/
def bothCases (s : CodePoints) : CodePoints :=
  let upper := inter s (range 'A' 'Z')
  let lower := inter s (range 'a' 'z')
  unions [s, ⟨upper.boundaries.map (· + 32)⟩, ⟨lower.boundaries.map (· - 32)⟩]

end ComponentBrowser.CodePoints
