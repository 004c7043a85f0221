/-! Sets of characters given as ranges of code points.

A property of the Unicode standard is a list of ranges, both ends included. The
lists hold only what lies beyond ASCII: a predicate decides the ASCII characters by
its own rule and looks the rest up, so on plain SQL no list is ever read. -/
namespace EmbeddedSql.Text

/-- Code points from the first to the second number of each pair, ends included. -/
abbrev Ranges := List (Nat × Nat)

def Ranges.contains (ranges : Ranges) (c : Char) : Bool :=
  ranges.any fun (first, last) => first ≤ c.toNat && c.toNat ≤ last

/-- ASCII characters by a rule of their own, all others by the ranges. -/
def asciiOr (ascii : Char → Bool) (ranges : Ranges) (c : Char) : Bool :=
  if c.toNat < 128 then ascii c else ranges.contains c

end EmbeddedSql.Text
