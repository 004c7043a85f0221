import EmbeddedSql.Proofs.TextBlock.Ending
import EmbeddedSql.Recipe.FormatSql

/-! Laying out a text block twice.

A visit either leaves the block as it is or writes it anew around the text that the formatter
gives (`visit_cases`). The new block ends as the old one did, so what the second visit compares
with the formatter's text is that text again (`written_text_withTextBlock`). If the formatter
has nothing to change in its own texts, neither has the second visit (`visit_visit`). Nothing is
assumed of how texts are read. -/
namespace EmbeddedSql

open Text

/-! ### The text of a block without its last line break -/

theorem Host.endsInLineBreak_withTextBlock (h : Host) (style : TextBlock.Style) (sql : String) :
    (h.withTextBlock style sql).endsInLineBreak = h.endsInLineBreak := by
  rw [endsInLineBreak, withTextBlock_body?, Option.getD_some,
    TextBlock.endsInLineBreak_reindent, endsInLineBreak]

/-- What a new block would be written around is what it has been written around. -/
theorem Host.written_text_withTextBlock (h : Host) (style : TextBlock.Style) (sql : String) :
    (h.withTextBlock style sql).written (h.withTextBlock style sql).text = h.written sql := by
  rw [written, endsInLineBreak_withTextBlock, withTextBlock_text]
  cases h.endsInLineBreak with
  | true => simp [dropLast?_eq_some_iff.mpr rfl]
  | false => simp

theorem Host.written_of_getLast? {h : Host} {sql : String}
    (hlast : sql.toList.getLast? ≠ some '\n') : h.written sql = sql.toList := by
  have hnone : dropLast? '\n' sql.toList = none := by
    rwa [dropLast?_eq_none_iff, List.singleton_suffix_iff_getLast?_eq_some]
  rw [written, hnone, Option.getD_none, ite_self]

namespace Recipe.FormatSql

variable {r : FormatSql} {h : Host} {y : String}

/-! ### One visit -/

theorem visit_of_body? {body : List Char} (hbody : h.body? = some body) :
    r.visit h =
      if r.engine.isSql h.text then
        match r.format h.text with
        | .error _ => h
        | .ok y => if y.toList = h.written h.text then h else h.withTextBlock r.engine.style y
      else h := by
  simp only [visit, hbody, Host.written, Host.endsInLineBreak, Option.getD_some]
  cases r.engine.isSql h.text <;> rfl

theorem visit_of_body?_none (hbody : h.body? = none) : r.visit h = h := by simp only [visit, hbody]

/-- A visit writes the block anew around the formatter's text, or leaves it as it is. -/
theorem visit_cases (r : FormatSql) (h : Host) :
    r.visit h = h ∨
      ∃ y, r.format h.text = .ok y ∧ r.visit h = h.withTextBlock r.engine.style y := by
  cases hbody : h.body? with
  | none => exact .inl (visit_of_body?_none hbody)
  | some body =>
    rw [visit_of_body? hbody]
    split
    · split
      · exact .inl rfl
      · next y hy =>
        split
        · exact .inl rfl
        · exact .inr ⟨y, hy, rfl⟩
    · exact .inl rfl

/-- A text that the formatter gives back, or fails on, is left as it is. -/
theorem visit_eq_self (hy : ∀ y, r.format h.text = .ok y → y.toList = h.written h.text) :
    r.visit h = h := by
  cases hbody : h.body? with
  | none => exact visit_of_body?_none hbody
  | some body =>
    rw [visit_of_body? hbody]
    split
    · split
      · rfl
      · next y hformat => rw [if_pos (hy y hformat)]
    · rfl

/-! ### Two visits -/

/-- A formatter whose texts end in no line break, and which has nothing to change in them, nor if
a line break is put behind them. It may fail on any text. -/
structure Stable (format : String → Except Error String) : Prop where
  last : ∀ x y, format x = .ok y → y.toList.getLast? ≠ some '\n'
  again : ∀ x y z, format x = .ok y → format y = .ok z → z = y
  ended : ∀ x y z, format x = .ok y → format (y ++ "\n") = .ok z → z = y

/-- **With a stable formatter, a second visit changes nothing**: neither the text nor the source
nor what searches have noted. -/
theorem visit_visit (hr : Stable r.format) (h : Host) : r.visit (r.visit h) = r.visit h := by
  rcases visit_cases r h with hsame | ⟨y, hy, hnew⟩
  · rw [hsame, hsame]
  · rw [hnew]
    refine visit_eq_self fun z hz => ?_
    have hzy : z = y := by
      rw [Host.withTextBlock_text_eq] at hz
      split at hz
      · exact hr.ended h.text y z hy hz
      · exact hr.again h.text y z hy hz
    rw [hzy, Host.written_text_withTextBlock, Host.written_of_getLast? (hr.last h.text y hy)]

/-- Drops the line breaks at the end of a text. -/
def withoutBreaks (sql : String) : Except Error String :=
  .ok (String.ofList (sql.toList.rdropWhile (· = '\n')))

theorem withoutBreaks_eq_ok_iff {x y : String} :
    withoutBreaks x = .ok y ↔ y.toList = x.toList.rdropWhile (· = '\n') := by
  rw [withoutBreaks, Except.ok.injEq, ← String.toList_inj, String.toList_ofList, eq_comm]

theorem stable_withoutBreaks : Stable withoutBreaks where
  last x y hy := by
    rw [withoutBreaks_eq_ok_iff.mp hy]
    intro hlast
    have hne : x.toList.rdropWhile (· = '\n') ≠ [] := by
      rintro hnil
      rw [hnil] at hlast
      cases hlast
    have hlast' := (List.getLast?_eq_some_getLast hne).symm.trans hlast
    exact List.rdropWhile_last_not (· = '\n') x.toList hne (by simpa using hlast')
  again x y z hy hz := by
    rw [withoutBreaks_eq_ok_iff] at hy hz
    rw [← String.toList_inj, hz, hy, List.rdropWhile_idempotent]
  ended x y z hy hz := by
    rw [withoutBreaks_eq_ok_iff] at hy hz
    have hbreak : (y ++ "\n").toList = y.toList ++ ['\n'] := String.toList_append ..
    rw [← String.toList_inj, hz, hbreak, List.rdropWhile_concat_pos _ _ _ rfl, hy,
      List.rdropWhile_idempotent]

/-- A block with an empty line at the end of its text. -/
def spacedBlock : Host := ⟨.literal "SELECT 1\n\n" "\"\"\"\n  SELECT 1\n\n  \"\"\"", [none]⟩

/-- The first visit drops the empty line, the second one finds nothing to do. -/
theorem visit_visit_spacedBlock :
    Stable withoutBreaks ∧
      visit ⟨defaultEngine, withoutBreaks⟩ spacedBlock =
        ⟨.literal "SELECT 1\n" "\"\"\"\n  SELECT 1\n  \"\"\"", [none]⟩ ∧
      visit ⟨defaultEngine, withoutBreaks⟩ (visit ⟨defaultEngine, withoutBreaks⟩ spacedBlock) =
        visit ⟨defaultEngine, withoutBreaks⟩ spacedBlock :=
  ⟨stable_withoutBreaks, by decide +kernel, visit_visit stable_withoutBreaks spacedBlock⟩

end Recipe.FormatSql

end EmbeddedSql
