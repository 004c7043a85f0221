import EmbeddedSql.Proofs.Usage.Nesting

/-! Which `SELECT`s of a query its rows tell of.

An extraction goes through the body of a query, the queries that it names and the keys of its
order. What stands behind them, how many rows there are and the clauses behind that, may hold
queries too, and these have no rows. `rows_perm_iff` says that no other `SELECT` is left out, at
any depth, and that none is told of twice. -/
namespace EmbeddedSql.Usage

open Sql

/-- A `SELECT` from a table uses the columns of its items, those without a name left out. -/
theorem ofSelect_of_table (l : Location) {s : Select} {table : String}
    (h : s.sources.head?.bind tableOf? = some table) :
    ofSelect (.new l .select) s =
      ((s.items.flatMap columnsOf).filter (· ≠ "")).map fun column =>
        ⟨l.slashed, l.line, l.revision, ⟨.select, table, some column⟩⟩ := by
  obtain ⟨_, items, _, sources, _, _, _, _, _, _⟩ := s
  simp only at h
  simp only [ofSelect, h]
  induction items.flatMap columnsOf with
  | nil => rfl
  | cons column columns ih =>
    by_cases hempty : column = ""
    · rw [List.filterMap_cons_none (by simp [Scope.row?, Scope.withTable, hempty]), ih,
        List.filter_cons_of_neg (by simp [hempty])]
    · rw [List.filterMap_cons_some (by simp [Scope.row?, Scope.withTable, hempty]; rfl), ih,
        List.filter_cons_of_pos (by simp [hempty]), List.map_cons]
      rfl

theorem rowsOfSelects_eq_nil_iff (l : Location) (ss : List Select) :
    rowsOfSelects l ss = [] ↔ ∀ s ∈ ss, ofSelect (.new l .select) s = [] :=
  List.flatMap_eq_nil_iff

/-- **The rows of a query tell of each `SELECT` in it once, but for those behind the keys of an
order.** So they tell of all of them exactly if there is nothing to tell of those. What they tell
of one from a table are the columns of its items. -/
theorem rows_perm_iff (q : Query) (l : Location) :
    (rowsOfSelects l (selectsIn (q.inside .full))).Perm
        (rows (.query q) l ++ rowsOfSelects l q.passedOver) ∧
      ((rowsOfSelects l (selectsIn (q.inside .full))).Perm (rows (.query q) l) ↔
        ∀ s ∈ q.passedOver, ofSelect (.new l .select) s = []) ∧
      ∀ s table, s.sources.head?.bind tableOf? = some table →
        ofSelect (.new l .select) s =
          ((s.items.flatMap columnsOf).filter (· ≠ "")).map fun column =>
            ⟨l.slashed, l.line, l.revision, ⟨.select, table, some column⟩⟩ := by
  have hperm : (rowsOfSelects l (selectsIn (q.inside .full))).Perm
      (rows (.query q) l ++ rowsOfSelects l q.passedOver) := by
    rw [rows_query, ← rowsOfSelects_append]
    exact (selects_perm q).flatMap_right _
  refine ⟨hperm, ?_, fun s table => ofSelect_of_table l⟩
  rw [← rowsOfSelects_eq_nil_iff]
  constructor
  · intro hall
    have hlength := (hall.symm.trans hperm).length_eq
    rw [List.length_append] at hlength
    exact List.eq_nil_of_length_eq_zero (by omega)
  · intro hnone
    rwa [hnone, List.append_nil] at hperm

/-- The query that says how many rows there are is not told of. -/
theorem limit_not_told_of :
    ∃ q, readStatements .generic "SELECT a FROM t LIMIT (SELECT b FROM u)" = .ok [.query q] ∧
      rows (.query q) ⟨"q.sql", 1, none⟩ =
        [⟨"q.sql", 1, none, ⟨.select, "t", some "a"⟩⟩] ∧
      rowsOfSelects ⟨"q.sql", 1, none⟩ (selectsIn (q.inside .full)) =
        [⟨"q.sql", 1, none, ⟨.select, "t", some "a"⟩⟩,
          ⟨"q.sql", 1, none, ⟨.select, "u", some "b"⟩⟩] := by
  have hread : readsQuery .generic "SELECT a FROM t LIMIT (SELECT b FROM u)" (fun q =>
      decide (rowsOfSelects ⟨"q.sql", 1, none⟩ q.selects =
        [⟨"q.sql", 1, none, ⟨.select, "t", some "a"⟩⟩]) &&
      decide (rowsOfSelects ⟨"q.sql", 1, none⟩ (selectsIn (q.inside .full)) =
        [⟨"q.sql", 1, none, ⟨.select, "t", some "a"⟩⟩,
          ⟨"q.sql", 1, none, ⟨.select, "u", some "b"⟩⟩])) = true := by decide +kernel
  obtain ⟨q, hq, hread⟩ := exists_of_readsQuery hread
  rw [Bool.and_eq_true, decide_eq_true_eq, decide_eq_true_eq] at hread
  exact ⟨q, hq, (rows_query _ q).trans hread.1, hread.2⟩

end EmbeddedSql.Usage
