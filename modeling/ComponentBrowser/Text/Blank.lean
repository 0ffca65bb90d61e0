import ComponentBrowser.Text.CodePoints

/-!
# ComponentBrowser.Text.Blank

White space, by the Unicode property White_Space (25 characters), and the
trimming of texts.
-/

namespace ComponentBrowser.Text

/-- The characters with the property White_Space. -/
def blanks : CodePoints :=
  ⟨[0x09, 0x0E, 0x20, 0x21, 0x85, 0x86, 0xA0, 0xA1, 0x1680, 0x1681, 0x2000, 0x200B,
    0x2028, 0x202A, 0x202F, 0x2030, 0x205F, 0x2060, 0x3000, 0x3001]⟩

/-- Whether a character is white space. -/
def isBlank (c : Char) : Bool := blanks.has c

/-- The text without the white space in front. -/
def trimStart (cs : List Char) : List Char := cs.dropWhile isBlank

/-- The text without the white space at its end. -/
def trimEnd (cs : List Char) : List Char := (trimStart cs.reverse).reverse

/-- The text without the white space at either end. -/
def trim (cs : List Char) : List Char := trimEnd (trimStart cs)

end ComponentBrowser.Text
