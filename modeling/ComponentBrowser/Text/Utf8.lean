/-!
# ComponentBrowser.Text.Utf8

Bytes and text.  A byte sequence is read by a `Decoder` that takes one byte
at a time; what it has read so far is a list of `Segment`s, each a character
or a maximal run of bytes that no character starts with.  Two readings are
built on it:

* `decode` — the lenient reading: every ill-formed run becomes U+FFFD;
* `decode?` — the strict reading: an ill-formed run anywhere refuses the whole.

The decoder is a left fold, so the segments of a prefix are final as soon as
the prefix is read: `segments_append` says that reading goes on from where
the prefix left it.
-/

namespace ComponentBrowser

/-- A file's content, a command-line token, an environment value: bytes that
need not be text. -/
abbrev Bytes := List UInt8

namespace Utf8

/-- A decoded piece of a byte sequence. -/
inductive Segment where
  /-- A well-formed sequence and the character it stands for. -/
  | scalar (c : Char)
  /-- A longest run of bytes that begins like a character and is none. -/
  | broken (bytes : Bytes)
  deriving DecidableEq

/-- A multi-byte sequence whose last bytes are still to come. -/
structure Partial where
  /-- The bytes read so far, in order. -/
  seen : Bytes
  /-- The payload bits read so far. -/
  value : Nat
  /-- How many bytes the sequence still needs, at least one. -/
  missing : Nat
  /-- The least and greatest byte that may come next. -/
  low : UInt8
  high : UInt8

/-- What a decoder knows after some bytes: the finished segments, the latest
first, and a sequence that is still open. -/
structure Decoder where
  finished : List Segment
  pending : Option Partial

namespace Decoder

/-- A decoder that has read nothing. -/
def empty : Decoder := ⟨[], none⟩

/-- A lead byte opens a sequence; the second byte's bounds keep out overlong
forms, surrogates and values above U+10FFFF. -/
def lead? (b : UInt8) : Option Partial :=
  let opened := fun (weight : Nat) (missing : Nat) (low high : UInt8) =>
    some ⟨[b], b.toNat % weight, missing, low, high⟩
  if b < 0xC2 then none
  else if b < 0xE0 then opened 32 1 0x80 0xBF
  else if b = 0xE0 then opened 16 2 0xA0 0xBF
  else if b = 0xED then opened 16 2 0x80 0x9F
  else if b < 0xF0 then opened 16 2 0x80 0xBF
  else if b = 0xF0 then opened 8 3 0x90 0xBF
  else if b < 0xF4 then opened 8 3 0x80 0xBF
  else if b = 0xF4 then opened 8 3 0x80 0x8F
  else none

/-- Read a byte with no sequence open. -/
def start (finished : List Segment) (b : UInt8) : Decoder :=
  if b < 0x80 then ⟨.scalar (Char.ofNat b.toNat) :: finished, none⟩
  else match lead? b with
    | some p => ⟨finished, some p⟩
    | none => ⟨.broken [b] :: finished, none⟩

/-- Read one byte.  A byte that cannot continue the open sequence ends it as
broken and is read afresh. -/
def feed (d : Decoder) (b : UInt8) : Decoder :=
  match d.pending with
  | none => start d.finished b
  | some p =>
    if p.low ≤ b ∧ b ≤ p.high then
      let value := p.value * 64 + b.toNat % 64
      if p.missing ≤ 1 then ⟨.scalar (Char.ofNat value) :: d.finished, none⟩
      else ⟨d.finished, some ⟨p.seen ++ [b], value, p.missing - 1, 0x80, 0xBF⟩⟩
    else start (.broken p.seen :: d.finished) b

/-- The segments read, in order; a sequence left open is broken. -/
def finish (d : Decoder) : List Segment :=
  match d.pending with
  | none => d.finished.reverse
  | some p => (.broken p.seen :: d.finished).reverse

end Decoder

/-- The decoder after a whole byte sequence. -/
def run (d : Decoder) (bytes : Bytes) : Decoder := bytes.foldl Decoder.feed d

/-- The segments of a byte sequence. -/
def segments (bytes : Bytes) : List Segment := (run .empty bytes).finish

/-- Reading a concatenation is reading on. -/
theorem run_append (d : Decoder) (xs ys : Bytes) : run d (xs ++ ys) = run (run d xs) ys :=
  List.foldl_append

theorem segments_append (xs ys : Bytes) :
    segments (xs ++ ys) = (run (run .empty xs) ys).finish := by
  rw [segments, run_append]

/-! ## the two readings -/

/-- The character a segment shows as: U+FFFD for a broken one. -/
def Segment.shown : Segment → Char
  | .scalar c => c
  | .broken _ => '\uFFFD'

/-- The character of a well-formed segment. -/
def Segment.scalar? : Segment → Option Char
  | .scalar c => some c
  | .broken _ => none

/-- The lenient reading: one U+FFFD for each broken segment. -/
def decode (bytes : Bytes) : List Char := (segments bytes).map Segment.shown

/-- The strict reading: text, if every segment is a character. -/
def decode? (bytes : Bytes) : Option (List Char) := (segments bytes).mapM Segment.scalar?

/-- The bytes of a text. -/
def encode (text : List Char) : Bytes := text.flatMap String.utf8EncodeChar

/-! ## places in a text -/

/-- The characters behind the first `n` bytes of a text; none if these end
within a character or the text has fewer. -/
def drop? : Nat → List Char → Option (List Char)
  | 0, cs => some cs
  | _ + 1, [] => none
  | n + 1, c :: cs => if c.utf8Size ≤ n + 1 then drop? (n + 1 - c.utf8Size) cs else none

/-- The characters of the first `n` bytes of a text; none if these end within a
character or the text has fewer. -/
def take? : Nat → List Char → Option (List Char)
  | 0, _ => some []
  | _ + 1, [] => none
  | n + 1, c :: cs =>
    if c.utf8Size ≤ n + 1 then (take? (n + 1 - c.utf8Size) cs).map (c :: ·) else none

end Utf8

/-- The lenient reading of bytes as a text. -/
def Bytes.toText (bytes : Bytes) : String := String.ofList (Utf8.decode bytes)

/-- The strict reading of bytes as a text. -/
def Bytes.toText? (bytes : Bytes) : Option String := (Utf8.decode? bytes).map String.ofList

/-- The bytes of a text. -/
def Bytes.ofText (text : String) : Bytes := Utf8.encode text.toList

end ComponentBrowser
