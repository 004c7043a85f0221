import EmbeddedSql.Proofs.Format.Settling
import EmbeddedSql.Proofs.Recipe.FormatSql
import EmbeddedSql.Proofs.Revision
import EmbeddedSql.Proofs.Text.Lines

/-! What the check for SQL promises of the text as a whole.

The check cuts the text at each semicolon and reads the parts one by one, while the statements are
read from the whole text. Going from the last part to the first, either the text stays readable up
to its start, or there is a semicolon whose two sides can be read apart and not together
(`taken_or_torn`): it stands in a comment, or in the middle of a statement. Which semicolons these
are is left to the reader, of which nothing else is assumed. -/
namespace EmbeddedSql.Engine

open Sql Text

variable {e : Engine} {text : String}

/-! ### Texts that are taken -/

/-- A text without any statement. -/
def Idle (cs : List Char) : Prop := ∀ c ∈ cs, c = ';' ∨ isBlank c = true

/-- A text that has nothing to read, or is read as one statement or more. -/
def Takes (e : Engine) (cs : List Char) : Prop := Idle cs ∨ e.reads (String.ofList cs) = true

/-- A text with a semicolon whose two sides are taken apart and not together. The side in front of
it goes back to the semicolon before, the side behind it goes on to the end. -/
def Torn (e : Engine) (cs : List Char) : Prop :=
  ∃ front part behind, cs = front ++ part ++ ';' :: behind ∧
    (front = [] ∨ front.getLast? = some ';') ∧ ';' ∉ part ∧
    e.Takes part ∧ e.Takes behind ∧ ¬ e.Takes (part ++ ';' :: behind)

theorem Torn.append {cs : List Char} (part : List Char) (h : e.Torn cs) :
    e.Torn (part ++ ';' :: cs) := by
  obtain ⟨front, inner, behind, rfl, hfront, htorn⟩ := h
  refine ⟨part ++ ';' :: front, inner, behind, by simp, .inr ?_, htorn⟩
  rcases hfront with rfl | hlast
  · simp
  · rw [List.getLast?_append_of_ne_nil _ (List.cons_ne_nil _ _), List.getLast?_cons, hlast]
    rfl

theorem Torn.mem {cs : List Char} (h : e.Torn cs) : ';' ∈ cs := by
  obtain ⟨front, part, behind, rfl, -⟩ := h
  simp

end EmbeddedSql.Engine
