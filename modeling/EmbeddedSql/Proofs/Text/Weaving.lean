import EmbeddedSql.Proofs.Text.Runs
import Mathlib.Data.List.Forall2

/-! Gaps with words between them.

Two texts with the same gaps are the same if their words are. The converse holds of words that
cannot make up for each other: of which none is longer than the one in its place (`woven_inj`). -/
namespace EmbeddedSql.Text

/-- The gaps with the words between them, one gap in front of each word and one behind the last. -/
def woven : List (List Char) → List (List Char) → List Char
  | gap :: gaps, word :: words => gap ++ word ++ woven gaps words
  | gap :: _, [] => gap
  | [], _ => []

theorem length_woven_le {words words' : List (List Char)}
    (h : List.Forall₂ (fun w w' => w.length ≤ w'.length) words words') (gaps : List (List Char)) :
    (woven gaps words).length ≤ (woven gaps words').length := by
  induction h generalizing gaps with
  | nil => exact Nat.le_refl _
  | cons hle _ ih =>
    cases gaps with
    | nil => exact Nat.le_refl _
    | cons gap gaps =>
      have := ih gaps
      simp only [woven, List.length_append]
      omega

/-- If no word is longer than the one in its place, the texts are the same only if all words are. -/
theorem woven_inj {words words' : List (List Char)}
    (hle : List.Forall₂ (fun w w' => w.length ≤ w'.length) words words') {gaps : List (List Char)}
    (hcount : words.length < gaps.length) (h : woven gaps words = woven gaps words') :
    words = words' := by
  induction hle generalizing gaps with
  | nil => rfl
  | @cons w w' words words' hle hrest ih =>
    cases gaps with
    | nil => cases hcount
    | cons gap gaps =>
      have hlengths := congrArg List.length h
      have := length_woven_le hrest gaps
      simp only [woven, List.length_append] at hlengths
      simp only [woven, List.append_assoc] at h
      obtain ⟨rfl, hrest⟩ := List.append_inj (List.append_cancel_left h) (by omega)
      rw [ih (Nat.lt_of_succ_lt_succ hcount) hrest]

/-! ### Blank gaps -/

end EmbeddedSql.Text
