import EmbeddedSql.Text.Lines

/-! The inside of a text block: what stands between its delimiters.

A text block starts behind the line break that follows its first delimiter, and the white
space that all of its lines have in common does not belong to the text. A new text is
indented as deep as the shallowest line of the one that it replaces. What a reader would take
for an escape, or for the delimiter at the end, is escaped. -/
namespace EmbeddedSql.TextBlock

open Text

/-- How indentation is measured and written. -/
structure Style where
  useTabs : Bool := false
  tabSize : Nat := 4
deriving DecidableEq, Repr

/-- The blanks in front of a line. -/
structure Indent where
  tabs : Nat
  spaces : Nat
deriving DecidableEq, Repr, Inhabited

def isIndent (c : Char) : Bool := c = ' ' || c = '\t'

/-! ### Indentation -/

namespace Indent

def none : Indent := ⟨0, 0⟩

/-- One more blank. -/
def widen (i : Indent) (c : Char) : Indent :=
  if c = '\t' then { i with tabs := i.tabs + 1 } else { i with spaces := i.spaces + 1 }

/-- The columns of an indentation, as a number of 64 bits. -/
def width (tabSize : Nat) (i : Indent) : Nat := (i.tabs * tabSize + i.spaces) % UInt64.size

def render (style : Style) (i : Indent) : List Char :=
  if style.useTabs then List.replicate i.tabs '\t' ++ List.replicate i.spaces ' '
  else List.replicate (i.width style.tabSize) ' '

/-- The narrower of two; the first one if they are equally wide. -/
def narrower (tabSize : Nat) (i j : Indent) : Indent :=
  if j.width tabSize < i.width tabSize then j else i

end Indent

/-- What is known of a body that has been read up to some character. -/
structure Scan where
  /-- The narrowest indentation of the lines that hold something. -/
  shortest : Option Indent := none
  /-- The blanks of a line that has held nothing else yet. -/
  current : Indent := Indent.none
  /-- Whether there is such a line, behind a line break. -/
  afterBreak : Bool := false
deriving DecidableEq, Repr

namespace Scan

def step (tabSize : Nat) (s : Scan) (c : Char) : Scan :=
  if c = '\n' then { s with current := Indent.none, afterBreak := true }
  else if s.afterBreak && isIndent c then { s with current := s.current.widen c }
  else if s.afterBreak then
    -- The first character of another kind ends what is measured of its line.
    { shortest := some (s.shortest.elim s.current (Indent.narrower tabSize · s.current)) }
  else { shortest := s.shortest }

/-- What a body is measured by. -/
def found (s : Scan) : Indent :=
  match s.shortest with
  | some i => i
  | none => if s.afterBreak then s.current else Indent.none

end Scan

/-- The narrowest indentation behind the first line break, in one pass. Lines of blanks count
only if there are no others, and then the last one does. -/
def shortestIndent (tabSize : Nat) (body : List Char) : Indent :=
  (body.foldl (Scan.step tabSize) {}).found

/-! ### Ends -/

/-- The number of backslashes at the end. -/
def finalBackslashes (cs : List Char) : Nat := (cs.reverse.takeWhile (· = '\\')).length

/-- Whether a body ends in a line break, perhaps with blanks behind it. A line break behind a
backslash that is not escaped itself is none. -/
def endsInLineBreak (body : List Char) : Bool :=
  match body.reverse.dropWhile isIndent with
  | '\n' :: before => finalBackslashes before.reverse % 2 = 0
  | _ => false

/-! ### Writing -/

/-- Backslashes are doubled, and three quotes in a row get one in front. -/
def escape : List Char → List Char
  | '\\' :: cs => '\\' :: '\\' :: escape cs
  | '"' :: '"' :: '"' :: cs => '\\' :: '"' :: '"' :: '"' :: escape cs
  | c :: cs => c :: escape cs
  | [] => []

/-- A line with another one behind it. A space at its end is spelled out, for a reader drops
it otherwise. -/
def innerLine (line : List Char) : List Char :=
  let line := escape line
  match dropLast? ' ' line with
  | some front => front ++ ['\\', 's']
  | none => line

/-- The lines of a text as they stand in a text block. -/
def writtenLines (text : List Char) : List (List Char) :=
  let lines := cut '\n' text
  lines.dropLast.map innerLine ++ (lines.getLast?.map escape).toList

/-- The body that replaces `body` and holds `text`. It starts with a line break and ends with
a line of its own for the delimiter; if `body` did not end in a line break, that one is
escaped. -/
def reindent (style : Style) (body text : List Char) : List Char :=
  let front := '\n' :: (shortestIndent style.tabSize body).render style
  front ++ join front (writtenLines text) ++ (if endsInLineBreak body then [] else ['\\']) ++ front

end EmbeddedSql.TextBlock
