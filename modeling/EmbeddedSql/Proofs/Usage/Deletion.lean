import EmbeddedSql.Proofs.Usage.Nesting

/-! The tables that a `DELETE` deletes from.

They are named in front of `FROM`, or, if none is, behind it. In both places there may be any
number of them, but of those behind `FROM` only the first one has a row.
`rows_delete_eq_iff` says which tables are left out: where nothing stands in front of `FROM`, all
behind it but the first. -/
namespace EmbeddedSql.Usage

open Sql

/-- The row of a `DELETE` that tells of a table. -/
def deleted (l : Location) (table : String) : Row :=
  ⟨l.slashed, l.line, l.revision, ⟨.delete, table, none⟩⟩

/-- What a `DELETE` deletes from, as far as it has a name. Tables in front of `FROM` are meant, and
the first one behind it is told of too; without them, all behind it are meant. -/
def targets (tables : List Name) (sources : List Source) : List String :=
  tables.filterMap Name.base? ++
    if tables.isEmpty then sources.filterMap tableOf? else (sources.head?.bind tableOf?).toList

/-- What a `DELETE` has rows for: the tables in front of `FROM` and the first one behind it, as far
as they have a name. -/
def reported (tables : List Name) (sources : List Source) : List String :=
  tables.filterMap Name.base? ++ (sources.head?.bind tableOf?).toList

/-- What a `DELETE` deletes from and has no row for. -/
def dropped (tables : List Name) (sources : List Source) : List String :=
  if tables.isEmpty then sources.tail.filterMap tableOf? else []

theorem targets_eq (tables : List Name) (sources : List Source) :
    targets tables sources = reported tables sources ++ dropped tables sources := by
  cases tables with
  | cons table tables => simp [targets, reported, dropped]
  | nil =>
    cases sources with
    | nil => rfl
    | cons source sources =>
      cases hsource : tableOf? source <;> simp [targets, reported, dropped, hsource]

/-- A `DELETE` has one row for each table that it tells of. -/
theorem ofDelete_eq_map (l : Location) (tables : List Name) (sources : List Source) :
    ofDelete (.new l .delete) tables sources = (reported tables sources).map (deleted l) := by
  have hrow (names : List (Option String)) :
      (names.filterMap fun table => ((Scope.new l .delete).withTable table).row? none) =
        (names.filterMap id).map (deleted l) := by
    rw [List.map_filterMap]
    refine List.filterMap_congr fun table _ => ?_
    cases table <;> rfl
  rw [ofDelete, hrow, List.filterMap_append, List.filterMap_map, reported]
  cases sources.head?.bind tableOf? <;> rfl

/-- **The rows of a `DELETE` are those of all its tables exactly if none is dropped**: if something
stands in front of `FROM`, or no source behind the first one is a table with a name. Otherwise the
rows of the sources behind the first one are missing, and no others. -/
theorem rows_delete_eq_iff (tables : List Name) (withFrom : Bool) (sources : List Source)
    (rest : List Piece) (l : Location) :
    (targets tables sources).map (deleted l) =
        rows (.delete tables withFrom sources rest) l ++
          (dropped tables sources).map (deleted l) ∧
      (rows (.delete tables withFrom sources rest) l = (targets tables sources).map (deleted l) ↔
        tables ≠ [] ∨ ∀ source ∈ sources.tail, tableOf? source = none) := by
  have hrows : rows (.delete tables withFrom sources rest) l =
      (reported tables sources).map (deleted l) := ofDelete_eq_map l tables sources
  rw [hrows, targets_eq, List.map_append]
  refine ⟨rfl, ?_⟩
  rw [List.self_eq_append_right, List.map_eq_nil_iff, dropped]
  cases tables with
  | nil => simp [List.filterMap_eq_nil_iff]
  | cons table tables => simp

/-- Of two tables behind `FROM`, only the first one has a row. -/
theorem second_target_dropped :
    ∃ tables withFrom sources rest,
      readStatements .generic "DELETE FROM t1, t2 USING t1 INNER JOIN t2 ON t1.id = t2.id" =
        .ok [.delete tables withFrom sources rest] ∧
      targets tables sources = ["t1", "t2"] ∧
      rows (.delete tables withFrom sources rest) ⟨"q.sql", 1, none⟩ =
        [deleted ⟨"q.sql", 1, none⟩ "t1"] := by
  have hread : readsOne .generic "DELETE FROM t1, t2 USING t1 INNER JOIN t2 ON t1.id = t2.id"
      (fun
        | .delete tables _ sources _ => decide (targets tables sources = ["t1", "t2"] ∧
            reported tables sources = ["t1"])
        | _ => false) = true := by decide +kernel
  obtain ⟨s, hs, hread⟩ := exists_of_readsOne hread
  split at hread
  · next tables withFrom sources rest =>
    obtain ⟨htargets, hreported⟩ := of_decide_eq_true hread
    refine ⟨tables, withFrom, sources, rest, hs, htargets, ?_⟩
    rw [rows, ofDelete_eq_map, hreported, List.map_singleton]
  · cases hread

end EmbeddedSql.Usage
