import EmbeddedSql.Proofs.Format.Keeping
import EmbeddedSql.Proofs.Text.Weaving

/-! Laying out a text that has been laid out.

If the text is read again as what it says, with the same white space between the runs and each run
relined, then a second layout relines the runs a second time. A run is `Settled` if that changes
nothing. The unit decides: if it opens with two blanks, each line inside a run that begins with two
blanks is indented anew every time, and a unit of a single blank makes two blanks out of three. Nor
is a run settled whose line break has two carriage returns in front, as only one of them is lost at
a time. -/
namespace EmbeddedSql.Format

open Sql Text

variable {unit : List Char}

/-! ### Relining twice -/

/-- A run that has nothing left to reline once it is relined. -/
structure Settled (unit r : List Char) : Prop where
  returns : ¬['\r', '\r', '\n'] <:+: r
  steps : [' ', ' '] <+: unit → unit = [' ', ' '] ∨ ¬['\n', ' ', ' '] <:+: r
  blank : unit = [' '] → ¬['\n', ' ', ' ', ' '] <:+: r

variable {runs : List (List Char)} {old new : List Char}

end EmbeddedSql.Format
