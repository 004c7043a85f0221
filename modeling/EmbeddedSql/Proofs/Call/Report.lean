import EmbeddedSql.Proofs.Call.Agreement
import EmbeddedSql.Proofs.Call.RoundTrip

/-! What the changes say that a renaming reports.

A change is reported for each name that is replaced, whether or not the new word is another one. So
wherever the text is another one there is a change, but a change may leave the text as it is: that a
change is reported says that a call matches, and no more (`apply_report`). -/
namespace EmbeddedSql.Call

open Sql Text

/-- Puts another word in the place of the one that stands there. -/
def Replacement.Alters (sql : String) (x : Replacement) : Prop :=
  x.spelling.toList ≠ x.span.slice sql.toList

/-! ### Texts with the same gaps -/

/-- Words of which none is longer than the one in its place are the same if the texts are. -/
theorem words_eq_of_woven {α : Type} {word word' : α → List Char} {xs : List α}
    {gaps : List (List Char)} (hcount : xs.length < gaps.length)
    (hle : ∀ x ∈ xs, (word x).length ≤ (word' x).length)
    (h : woven gaps (xs.map word) = woven gaps (xs.map word')) : ∀ x ∈ xs, word x = word' x := by
  have hlengths : List.Forall₂ (fun w w' : List Char => w.length ≤ w'.length)
      (xs.map word) (xs.map word') := by
    rwa [List.forall₂_map_left_iff, List.forall₂_map_right_iff, List.forall₂_same]
  exact List.map_inj_left.mp (woven_inj hlengths (by rwa [List.length_map]) h)

namespace Parallel
variable {old new : List Char} {there back : List Replacement}

/-- The first text, as the words of which it is made. -/
theorem eq_woven_slices (h : Parallel 0 0 old new there back) :
    old = woven (gaps 0 old (there.map Replacement.span)) (there.map (·.span.slice old)) := by
  have hslices := h.slices [] rfl
  have hgaps := h.gaps_eq [] [] rfl rfl
  rw [List.nil_append] at hslices
  rw [List.nil_append, List.nil_append] at hgaps
  rw [hslices, hgaps]
  exact h.symm.eq_woven [] rfl

/-- With the same words in the same gaps the texts are the same. -/
theorem eq_of_same_words (h : Parallel 0 0 old new there back)
    (hsame : ∀ x ∈ there, x.spelling.toList = x.span.slice old) : new = old := by
  have hwords := List.map_congr_left hsame
  have hnew := h.eq_woven [] rfl
  rw [List.nil_append, hwords, ← h.eq_woven_slices] at hnew
  exact hnew

/-- If the texts are the same, then so are the words, or some are shorter than those in their place
and make up for others that are longer. -/
theorem same_words_or_offset (h : Parallel 0 0 old new there back) (hsame : new = old) :
    (∀ x ∈ there, x.spelling.toList = x.span.slice old) ∨
      (∃ x ∈ there, x.spelling.toList.length < (x.span.slice old).length) ∧
        ∃ x ∈ there, (x.span.slice old).length < x.spelling.toList.length := by
  have hwoven : woven (gaps 0 old (there.map Replacement.span)) (there.map (·.spelling.toList)) =
      woven (gaps 0 old (there.map Replacement.span)) (there.map (·.span.slice old)) :=
    ((h.eq_woven [] rfl).symm.trans hsame).trans h.eq_woven_slices
  have hcount : there.length < (gaps 0 old (there.map Replacement.span)).length := by
    rw [Renaming.length_gaps, List.length_map]
    exact Nat.lt_succ_self _
  by_cases hlonger : ∃ x ∈ there, (x.span.slice old).length < x.spelling.toList.length
  · by_cases hshorter : ∃ x ∈ there, x.spelling.toList.length < (x.span.slice old).length
    · exact .inr ⟨hshorter, hlonger⟩
    · push Not at hshorter
      exact .inl fun x hx => (words_eq_of_woven hcount hshorter hwoven.symm x hx).symm
  · push Not at hlonger
    exact .inl (words_eq_of_woven hcount hlonger hwoven)

end Parallel

/-! ### Reports -/

namespace Renaming

/-- **A change is reported exactly if a call matches.** Each change has the new word of a call, and
between the changes the texts are the same; so if the new text is another one, a change is reported,
and one of them has another word than the old text. If the new text is the old one, then no change
has another word, or some of the new words make up for the length of others. -/
theorem apply_report {r : Renaming} {sql : String} {s : Statement} {t : Renamed}
    (h : r.apply sql s = .ok t) :
    ∃ all kept, List.Forall₂ (Renames r sql) (r.matching s) all ∧ Kept all kept ∧
      ExactSplice sql kept t ∧
      (t.isChanged = true ↔ r.matching s ≠ []) ∧
      (t.text ≠ sql → t.isChanged = true ∧ ∃ x ∈ kept, x.Alters sql) ∧
      (t.text = sql → (∀ x ∈ kept, ¬x.Alters sql) ∨
        (∃ x ∈ kept, x.spelling.toList.length < (x.span.slice sql.toList).length) ∧
          ∃ x ∈ kept, (x.span.slice sql.toList).length < x.spelling.toList.length) := by
  obtain ⟨all, kept, back, hrenames, hkept, hparallel, hchanges⟩ := exists_parallel_of_apply h
  have hchanged : t.isChanged = true ↔ kept ≠ [] := by
    rw [Renamed.isChanged, hchanges, Bool.not_eq_true', ← Bool.not_eq_true, List.isEmpty_iff,
      List.map_eq_nil_iff, ← List.length_eq_zero_iff, ← hparallel.length_add.1,
      List.length_eq_zero_iff]
  refine ⟨all, kept, hrenames, hkept, hparallel.exactSplice hchanges, ?_, fun hother => ?_, fun hsame => ?_⟩
  · rw [hchanged, Ne, hkept.eq_nil_iff, ← List.length_eq_zero_iff, ← hrenames.length_eq,
      List.length_eq_zero_iff]
  · have halters : ∃ x ∈ kept, x.Alters sql := by
      by_contra hnone
      refine hother (String.toList_injective (hparallel.eq_of_same_words fun x hx => ?_))
      exact by_contra fun hword => hnone ⟨x, hx, hword⟩
    obtain ⟨x, hx, -⟩ := id halters
    exact ⟨hchanged.mpr (List.ne_nil_of_mem hx), halters⟩
  · refine (hparallel.same_words_or_offset (congrArg String.toList hsame)).imp_left ?_
    exact fun hwords x hx => not_not.mpr (hwords x hx)

/-- A call in capitals, and another one. -/
def inCapitalsText : String := "SELECT NVL(a), max(b) FROM t"

/-- Under a new name there is another word where the change is reported. -/
theorem apply_report_inCapitals :
    ∃ s t, (Engine.ofDialect .generic {}).read inCapitalsText = .ok s ∧
      apply ⟨wordPattern "nvl", "coalesce"⟩ inCapitalsText s = .ok t ∧ t.text ≠ inCapitalsText ∧
      t.isChanged = true ∧ matching ⟨wordPattern "nvl", "coalesce"⟩ s ≠ [] ∧
      ∃ kept, ExactSplice inCapitalsText kept t ∧ ∃ x ∈ kept, x.Alters inCapitalsText := by
  have hrun : ∃ s, (Engine.ofDialect .generic {}).read inCapitalsText = .ok s ∧
      apply ⟨wordPattern "nvl", "coalesce"⟩ inCapitalsText s =
        .ok ⟨"SELECT COALESCE(a), max(b) FROM t", [⟨7, 15⟩]⟩ := by
    decide +kernel
  obtain ⟨s, hs, ht⟩ := hrun
  obtain ⟨all, kept, -, -, hexact, hmatching, hother, -⟩ := apply_report ht
  have hne : "SELECT COALESCE(a), max(b) FROM t" ≠ inCapitalsText := by decide
  obtain ⟨hchanged, halters⟩ := hother hne
  exact ⟨s, _, hs, ht, hne, hchanged, hmatching.mp hchanged, kept, hexact, halters⟩

/-- Under the name that it has the text stays, and so does the word where a change is reported. -/
theorem same_name_reported :
    ∃ s t, (Engine.ofDialect .generic {}).read inCapitalsText = .ok s ∧
      apply ⟨wordPattern "nvl", "nvl"⟩ inCapitalsText s = .ok t ∧ t.text = inCapitalsText ∧
      t.isChanged = true ∧ t.changes = [⟨7, 10⟩] ∧
      ∀ c ∈ t.changes, c.slice t.text.toList = c.slice inCapitalsText.toList := by
  have hrun : ∃ s, (Engine.ofDialect .generic {}).read inCapitalsText = .ok s ∧
      apply ⟨wordPattern "nvl", "nvl"⟩ inCapitalsText s = .ok ⟨inCapitalsText, [⟨7, 10⟩]⟩ := by
    decide +kernel
  obtain ⟨s, hs, ht⟩ := hrun
  exact ⟨s, _, hs, ht, rfl, rfl, rfl, fun _ _ => rfl⟩

end Renaming

end EmbeddedSql.Call
