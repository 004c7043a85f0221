/-! Places in a text, counted in two ways.

A `Position` is what a reader of SQL reports: a line and a column, both from one, a
line feed starting a new line and every other character taking one column. An offset
counts the bytes of the UTF-8 form. `offset?` goes from the first to the second, and a
`Span` is a range of offsets. -/
namespace EmbeddedSql.Text

structure Position where
  line : Nat
  column : Nat
deriving DecidableEq, Repr, Inhabited

namespace Position

/-- The place of the first character. -/
def start : Position := ⟨1, 1⟩

/-- The place behind a character that stands at `p`. -/
def after (p : Position) (c : Char) : Position :=
  if c = '\n' then ⟨p.line + 1, 1⟩ else ⟨p.line, p.column + 1⟩

/-- The place behind all of `cs`. -/
def afterAll (p : Position) (cs : List Char) : Position := cs.foldl after p

end Position

/-- The number of bytes of the UTF-8 form. -/
def byteCount : List Char → Nat
  | [] => 0
  | c :: cs => c.utf8Size + byteCount cs

/-- The offset of `target` in a text that continues with `cs`, where `here` and `offset` say
how far the text has been read. The end of the text has a place too. -/
def offsetFrom? (target : Position) (here : Position) (offset : Nat) : List Char → Option Nat
  | [] => if here = target then some offset else none
  | c :: cs =>
    if here = target then some offset
    else offsetFrom? target (here.after c) (offset + c.utf8Size) cs

def offset? (text : String) (target : Position) : Option Nat :=
  offsetFrom? target .start 0 text.toList

/-- Bytes from `start` up to, not including, `stop`. -/
structure Span where
  start : Nat
  stop : Nat
deriving DecidableEq, Repr, Inhabited

namespace Span

/-- The bytes between two places, if both are in the text and the second is behind the
first. -/
def resolve? (text : String) (first last : Position) : Option Span := do
  let start ← offset? text first
  let stop ← offset? text last
  if start < stop then some ⟨start, stop⟩ else none

def length (s : Span) : Nat := s.stop - s.start

def isEmpty (s : Span) : Bool := s.length == 0

def contains (s : Span) (offset : Nat) : Bool := s.start ≤ offset && offset < s.stop

/-- By where they start, then by where they stop. -/
def before (s t : Span) : Bool :=
  s.start < t.start || (s.start == t.start && s.stop ≤ t.stop)

end Span

/-- What is left behind the first `n` bytes. -/
def dropBytes : Nat → List Char → List Char
  | 0, cs => cs
  | _, [] => []
  | n, c :: cs => dropBytes (n - c.utf8Size) cs

/-- The first `n` bytes. -/
def takeBytes : Nat → List Char → List Char
  | 0, _ => []
  | _, [] => []
  | n, c :: cs => c :: takeBytes (n - c.utf8Size) cs

/-- The text that a span covers. -/
def Span.slice (s : Span) (cs : List Char) : List Char :=
  takeBytes s.length (dropBytes s.start cs)

end EmbeddedSql.Text
