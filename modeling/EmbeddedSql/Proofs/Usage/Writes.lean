import EmbeddedSql.Proofs.Grammar.Opening
import EmbeddedSql.Proofs.Usage.WellFormed

/-! Writes behind a leading `WITH`.

The rows of a statement go by what the statement is, and behind named queries an `UPDATE` or a
`DELETE` is the body of a query. Such a body has no rows of its own, only those of the queries
inside it. So a statement that starts with `WITH` has no row of a write, and
`writes_behind_with_iff` says when none is missing: if nothing with a name is written to. -/
namespace EmbeddedSql.Usage

open Sql

/-- Whether a row tells of a write. -/
def Row.isWrite (r : Row) : Bool := r.use.operation = .update || r.use.operation = .delete

/-- Whether a statement writes to a table that has a name. -/
def WritesNamed : Statement → Prop
  | .update _ target _ assignments _ _ =>
    (∃ table, tableOf? target = some table) ∧ ∃ a ∈ assignments, a.targets ≠ []
  | .delete tables _ sources _ =>
    ∃ table, some table ∈ tables.map Name.base? ++ [sources.head?.bind tableOf?]
  | _ => False

/-! ### The rows of a write -/

theorem not_isWrite_of_mem_query {q : Query} {l : Location} {r : Row}
    (h : r ∈ rows (.query q) l) : r.isWrite = false := by
  rw [Row.isWrite, operation_of_mem_query h]
  rfl

theorem exists_write_update_iff (l : Location) (target : Source) (assignments : List Assignment) :
    (∃ r ∈ ofUpdate (.new l .update) target assignments, r.isWrite = true) ↔
      (∃ table, tableOf? target = some table) ∧ ∃ a ∈ assignments, a.targets ≠ [] := by
  constructor
  · rintro ⟨r, hr, -⟩
    obtain ⟨table, htable, a, ha, name, hname, -⟩ := mem_ofUpdate_iff.mp hr
    exact ⟨⟨table, htable⟩, a, ha, List.ne_nil_of_mem hname⟩
  · rintro ⟨⟨table, htable⟩, a, ha, hne⟩
    obtain ⟨name, hname⟩ := List.exists_mem_of_ne_nil _ hne
    exact ⟨_, mem_ofUpdate_iff.mpr ⟨table, htable, a, ha, name, hname,
      row?_eq_some_iff.mpr ⟨table, rfl, base?_ne_empty name, rfl⟩⟩, rfl⟩

theorem exists_write_delete_iff (l : Location) (tables : List Name) (sources : List Source) :
    (∃ r ∈ ofDelete (.new l .delete) tables sources, r.isWrite = true) ↔
      ∃ table, some table ∈ tables.map Name.base? ++ [sources.head?.bind tableOf?] := by
  constructor
  · rintro ⟨r, hr, -⟩
    obtain ⟨table, hm, hrow⟩ := mem_ofDelete_iff.mp hr
    obtain ⟨named, hnamed, -⟩ := row?_eq_some_iff.mp hrow
    exact ⟨named, hnamed ▸ hm⟩
  · rintro ⟨table, hm⟩
    exact ⟨_, mem_ofDelete_iff.mpr ⟨some table, hm,
      row?_eq_some_iff.mpr ⟨table, rfl, nofun, rfl⟩⟩, rfl⟩

/-- A statement has a row of a write exactly if it writes to something with a name. -/
theorem exists_write_iff (s : Statement) (l : Location) :
    (∃ r ∈ rows s l, r.isWrite = true) ↔ WritesNamed s := by
  cases s with
  | query q =>
    refine iff_of_false ?_ id
    rintro ⟨r, hr, hwrite⟩
    rw [not_isWrite_of_mem_query hr] at hwrite
    cases hwrite
  | update head target before assignments after rest =>
    exact exists_write_update_iff l target assignments
  | delete tables withFrom sources rest => exact exists_write_delete_iff l tables sources
  | insert head partition source rest => exact iff_of_false nofun id
  | other wording => exact iff_of_false nofun id

/-! ### Behind `WITH` -/

/-- **Behind a leading `WITH`, no write has a row.** So the writes of a statement, such as the one
that `sql` is by itself, are all there exactly if it writes to nothing with a name. What is there
are the rows of the queries inside the write and of the named ones. -/
theorem writes_behind_with_iff {d : Dialect} {names sql : String} {t : Statement}
    {ts : List Statement}
    (ht : readStatements d ("WITH " ++ names ++ " " ++ sql) = .ok (t :: ts)) (s : Statement)
    (l : Location) :
    (((rows s l).filter Row.isWrite).Sublist (rows t l) ↔ ¬WritesNamed s) ∧
      ∃ q, t = .query q ∧ rows t l = rowsOfSelects l q.selects ∧
        ∀ change, q.body = .change change →
          rows t l = rowsOfQueries l (queriesIn 0 (change.events .full)) ++
            rowsOfQueries l (q.ctes.map Cte.query) ++
            rowsOfQueries l (queriesIn 0 (eventsOfPieces .full q.order)) := by
  rw [String.append_assoc, String.append_assoc] at ht
  obtain ⟨q, rfl⟩ := exists_query_of_with (eq_ok_of_mapError ht)
  refine ⟨?_, q, rfl, rows_query l q, fun change hchange => ?_⟩
  · rw [← exists_write_iff s l]
    constructor
    · rintro hsub ⟨r, hr, hwrite⟩
      have hmem := hsub.subset (List.mem_filter.mpr ⟨hr, hwrite⟩)
      rw [not_isWrite_of_mem_query hmem] at hwrite
      cases hwrite
    · intro hnone
      have hnil : (rows s l).filter Row.isWrite = [] :=
        List.filter_eq_nil_iff.mpr fun r hr hwrite => hnone ⟨r, hr, hwrite⟩
      rw [hnil]
      exact List.nil_sublist _
  · rw [rows_query_parts, hchange, rows_bareQuery_change]

/-- A `DELETE` behind a named query. -/
theorem writes_behind_with_delete :
    ∃ s t, readStatements .generic "DELETE FROM t" = .ok [s] ∧
      readStatements .generic ("WITH " ++ "w AS (SELECT b FROM u)" ++ " " ++ "DELETE FROM t") =
        .ok [t] ∧
      WritesNamed s ∧
      ¬((rows s ⟨"q.sql", 1, none⟩).filter Row.isWrite).Sublist (rows t ⟨"q.sql", 1, none⟩) := by
  have hread : readsOne .generic "DELETE FROM t" (fun s =>
      (rows s ⟨"q.sql", 1, none⟩).any Row.isWrite) = true := by decide +kernel
  have hbehind : readsOne .generic
      ("WITH " ++ "w AS (SELECT b FROM u)" ++ " " ++ "DELETE FROM t") (fun _ => true) = true := by
    decide +kernel
  obtain ⟨s, hs, hwrites⟩ := exists_of_readsOne hread
  obtain ⟨t, ht, -⟩ := exists_of_readsOne hbehind
  have hnamed := (exists_write_iff s _).mp (List.any_eq_true.mp hwrites)
  exact ⟨s, t, hs, ht, hnamed, fun hsub => (writes_behind_with_iff ht s _).1.mp hsub hnamed⟩

/-- An `UPDATE` has a row by itself and none behind a named query. -/
theorem with_hides_update :
    ∃ s t, readStatements .generic "UPDATE t SET a = 1" = .ok [s] ∧
      readStatements .generic "WITH w AS (SELECT 1) UPDATE t SET a = 1" = .ok [t] ∧
      rows s ⟨"q.sql", 1, none⟩ = [⟨"q.sql", 1, none, ⟨.update, "t", some "a"⟩⟩] ∧
      rows t ⟨"q.sql", 1, none⟩ = [] := by
  have hread : readsOne .generic "UPDATE t SET a = 1" (fun s =>
      decide (rows s ⟨"q.sql", 1, none⟩ =
        [⟨"q.sql", 1, none, ⟨.update, "t", some "a"⟩⟩])) = true := by decide +kernel
  have hbehind : readsQuery .generic "WITH w AS (SELECT 1) UPDATE t SET a = 1" (fun q =>
      decide (rowsOfSelects ⟨"q.sql", 1, none⟩ q.selects = [])) = true := by decide +kernel
  obtain ⟨s, hs, hrows⟩ := exists_of_readsOne hread
  obtain ⟨q, hq, hnone⟩ := exists_of_readsQuery hbehind
  exact ⟨s, .query q, hs, hq, of_decide_eq_true hrows,
    (rows_query _ q).trans (of_decide_eq_true hnone)⟩

end EmbeddedSql.Usage
