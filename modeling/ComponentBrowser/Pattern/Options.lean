import ComponentBrowser.Pattern.Basic
import ComponentBrowser.Text.Blank

/-!
# ComponentBrowser.Pattern.Options

The options that govern how the text of a pattern is read.  They are letters in
a group that begins with a question mark, those behind a minus sign turned off.
-/

namespace ComponentBrowser.Pattern

/-- The options that apply at a place in the text of a pattern. -/
structure Options where
  /-- `i`. -/
  anyCase : Bool := false
  /-- `m`: the anchors stand for the ends of lines. -/
  lines : Bool := false
  /-- `s`: the dot stands for line feeds too. -/
  dotAll : Bool := false
  /-- `U`: repetitions are greedy when they say that they are not. -/
  swapGreed : Bool := false
  /-- `u`: characters are those of Unicode and not of ASCII only. -/
  unicode : Bool := true
  /-- `R`: a carriage return ends lines too. -/
  records : Bool := false
  /-- `x`: white space and comments are passed over. -/
  spaced : Bool := false
  deriving DecidableEq, Repr

namespace Options

/-- The options with the one of a letter turned on or off. -/
def set? (o : Options) (letter : Char) (isOn : Bool) : Option Options :=
  match letter with
  | 'i' => some { o with anyCase := isOn }
  | 'm' => some { o with lines := isOn }
  | 's' => some { o with dotAll := isOn }
  | 'U' => some { o with swapGreed := isOn }
  | 'u' => some { o with unicode := isOn }
  | 'R' => some { o with records := isOn }
  | 'x' => some { o with spaced := isOn }
  | _ => none

/-- What is read of options. -/
structure Reading where
  options : Options
  /-- Whether nothing stood there. -/
  isEmpty : Bool
  /-- Whether they end their group. -/
  isClosed : Bool
  rest : List Char

/-- Read options up to the colon or parenthesis behind them.  `seen` holds what
has been read, the latest first: nothing may stand there twice, and a minus
sign not at the end. -/
def read? (o : Options) (seen : List Char) : List Char → Option Reading
  | [] => none
  | c :: rest =>
    if c = ':' || c = ')' then
      if seen.head? = some '-' then none else some ⟨o, seen.isEmpty, c == ')', rest⟩
    else if seen.contains c then none
    else if c = '-' then read? o (c :: seen) rest
    else (o.set? c (!seen.contains '-')).bind fun o => read? o (c :: seen) rest

/-- The dot. -/
def dot? (o : Options) : Option CodePoints :=
  if !o.unicode then none
  else if o.dotAll then some .all
  else if o.records then some (.others (.union (.single '\r') (.single '\n')))
  else some (.others (.single '\n'))

/-- The anchor at a start. -/
def startAnchor (o : Options) : Look :=
  if o.lines then if o.records then .recordStart else .lineStart else .textStart

/-- The anchor at an end. -/
def endAnchor (o : Options) : Look :=
  if o.lines then if o.records then .recordEnd else .lineEnd else .textEnd

end Options

/-! ## what is passed over -/

/-- A text behind white space and comments. -/
def skipSpaced (inComment : Bool) : List Char → List Char
  | [] => []
  | c :: rest =>
    if inComment then skipSpaced (c != '\n') rest
    else if Text.isBlank c then skipSpaced false rest
    else if c = '#' then skipSpaced true rest
    else c :: rest

/-- A text behind what is passed over. -/
def Options.skip (o : Options) (cs : List Char) : List Char :=
  if o.spaced then skipSpaced false cs else cs

/-- The next character that is no white space, in a comment too; with only white
space left, the one at hand. -/
def peekSpaced? (given : Option Char) (inComment : Bool) : List Char → Option Char
  | [] => given
  | c :: rest =>
    if Text.isBlank c then peekSpaced? given inComment rest
    else if c = '#' && !inComment then peekSpaced? given true rest
    else some c

/-- The next character. -/
def Options.peek? (o : Options) (cs : List Char) : Option Char :=
  if o.spaced then peekSpaced? cs.head? false cs else cs.head?

end ComponentBrowser.Pattern
