import EmbeddedSql.Proofs.Usage.Nesting

/-! What all rows have in common.

A row tells of one use of a table with a name, at the place that was looked at (`Row.FoundAt`). A
row of a `DELETE` has no column. The converse fails in one case: an `UPDATE` of a table that
assigns to something without a name, an empty word in quotes or what a function makes, gives a
row that has no column either. `rows_wellFormed_iff` says that there is no other. -/
namespace EmbeddedSql.Usage

open Sql

/-! ### Rows of a scope -/

/-- A row that tells of a use of a table at `l`, or of one of its columns. -/
structure Row.FoundAt (l : Location) (r : Row) : Prop where
  table : r.use.table ≠ ""
  column : r.use.column ≠ some ""
  operation : r.use.operation ≠ .insert
  path : '\\' ∉ r.path.toList
  line : r.line = l.line
  revision : r.revision = l.revision

/-- Such a row, which has no column exactly if it tells of a `DELETE`. -/
structure Row.WellFormed (l : Location) (r : Row) : Prop extends r.FoundAt l where
  wholeTable : r.use.column = none ↔ r.use.operation = .delete

theorem notMem_slashed (l : Location) : '\\' ∉ l.slashed.toList := by
  rw [Location.slashed, String.toList_ofList, List.mem_map]
  rintro ⟨c, -, hc⟩
  split at hc
  · cases hc
  · next h => exact h hc

theorem foundAt_of_row? {l : Location} {operation : Operation} {table column : Option String}
    {r : Row} (h : Scope.row? ⟨l, operation, table⟩ column = some r) (hop : operation ≠ .insert)
    (htable : table ≠ some "") : r.FoundAt l := by
  obtain ⟨named, rfl, hcolumn, rfl⟩ := row?_eq_some_iff.mp h
  exact ⟨fun he => htable (congrArg some he), hcolumn, hop, notMem_slashed l, rfl, rfl⟩

theorem base?_ne_empty (name : Name) : Name.base? name ≠ some "" := by
  rw [Name.base?]
  split
  · split <;> simp_all
  · simp

theorem tableOf?_ne_empty (source : Source) : tableOf? source ≠ some "" := by
  obtain ⟨⟨table, _, _, _⟩, _⟩ := source
  exact base?_ne_empty table

/-! ### Rows of a statement -/

theorem mem_ofUpdate_iff {scope : Scope} {target : Source} {assignments : List Assignment}
    {r : Row} :
    r ∈ ofUpdate scope target assignments ↔ ∃ table, tableOf? target = some table ∧
      ∃ a ∈ assignments, ∃ name ∈ a.targets,
        (scope.withTable (some table)).row? (Name.base? name) = some r := by
  rw [ofUpdate]
  cases tableOf? target with
  | none => simp
  | some table =>
    simp only [List.mem_filterMap, List.mem_flatMap, Option.some.injEq, exists_eq_left']
    constructor
    · rintro ⟨name, ⟨⟨targets, grouped, value⟩, ha, hname⟩, hrow⟩
      exact ⟨_, ha, name, hname, hrow⟩
    · rintro ⟨⟨targets, grouped, value⟩, ha, name, hname, hrow⟩
      exact ⟨name, ⟨_, ha, hname⟩, hrow⟩

theorem mem_ofDelete_iff {scope : Scope} {tables : List Name} {sources : List Source} {r : Row} :
    r ∈ ofDelete scope tables sources ↔
      ∃ table ∈ tables.map Name.base? ++ [sources.head?.bind tableOf?],
        (scope.withTable table).row? none = some r := by
  rw [ofDelete, List.mem_filterMap]

/-- A `SELECT` uses columns of a table. -/
theorem wellFormed_of_mem_ofSelect {l : Location} {s : Select} {r : Row}
    (h : r ∈ ofSelect (.new l .select) s) : r.WellFormed l := by
  obtain ⟨table, htable, column, -, hrow⟩ := mem_ofSelect_iff.mp h
  obtain ⟨source, -, hsource⟩ := Option.bind_eq_some_iff.mp htable
  refine ⟨foundAt_of_row? hrow nofun (hsource ▸ tableOf?_ne_empty source), ?_⟩
  obtain ⟨_, -, -, rfl⟩ := row?_eq_some_iff.mp hrow
  exact iff_of_false nofun nofun

theorem wellFormed_of_mem_query {l : Location} {q : Query} {r : Row}
    (h : r ∈ rows (.query q) l) : r.WellFormed l := by
  rw [rows_query] at h
  obtain ⟨s, -, hs⟩ := List.mem_flatMap.mp h
  exact wellFormed_of_mem_ofSelect hs

/-- A `DELETE` uses whole tables. -/
theorem wellFormed_of_mem_ofDelete {l : Location} {tables : List Name} {sources : List Source}
    {r : Row} (h : r ∈ ofDelete (.new l .delete) tables sources) : r.WellFormed l := by
  obtain ⟨table, htable, hrow⟩ := mem_ofDelete_iff.mp h
  have hnamed : table ≠ some "" := by
    rcases List.mem_append.mp htable with hm | hm
    · obtain ⟨name, -, rfl⟩ := List.mem_map.mp hm
      exact base?_ne_empty name
    · rw [List.mem_singleton.mp hm]
      intro hempty
      obtain ⟨source, -, hsource⟩ := Option.bind_eq_some_iff.mp hempty
      exact tableOf?_ne_empty source hsource
  refine ⟨foundAt_of_row? hrow nofun hnamed, ?_⟩
  obtain ⟨_, -, -, rfl⟩ := row?_eq_some_iff.mp hrow
  exact iff_of_true rfl rfl

/-- An `UPDATE` uses what it assigns to, under the name that this has, if it has one. -/
theorem foundAt_of_mem_ofUpdate {l : Location} {target : Source} {assignments : List Assignment}
    {r : Row} (h : r ∈ ofUpdate (.new l .update) target assignments) :
    r.FoundAt l ∧ r.use.operation = .update ∧
      ∃ a ∈ assignments, ∃ name ∈ a.targets, r.use.column = Name.base? name := by
  obtain ⟨table, htable, a, ha, name, hname, hrow⟩ := mem_ofUpdate_iff.mp h
  refine ⟨foundAt_of_row? hrow nofun (htable ▸ tableOf?_ne_empty target), ?_⟩
  obtain ⟨_, -, -, rfl⟩ := row?_eq_some_iff.mp hrow
  exact ⟨rfl, a, ha, name, hname, rfl⟩

/-! ### All rows -/

/-- Whether a statement is an `UPDATE` of a table that assigns to something without a name. -/
def AssignsNameless : Statement → Prop
  | .update _ target _ assignments _ _ =>
    (∃ table, tableOf? target = some table) ∧
      ∃ a ∈ assignments, ∃ name ∈ a.targets, Name.base? name = none
  | _ => False

/-- **All rows of a statement are well formed, unless it assigns to something without a name.**
Then there is a row without a column that is none of a `DELETE`. All else holds of every row. -/
theorem rows_wellFormed_iff (s : Statement) (l : Location) :
    (∀ r ∈ rows s l, r.FoundAt l ∧ (r.use.operation = .delete → r.use.column = none)) ∧
      ((∀ r ∈ rows s l, r.WellFormed l) ↔ ¬AssignsNameless s) := by
  -- Where all rows are well formed, there is nothing else to show.
  have hall (h : ∀ r ∈ rows s l, r.WellFormed l) (hs : ¬AssignsNameless s) :
      (∀ r ∈ rows s l, r.FoundAt l ∧ (r.use.operation = .delete → r.use.column = none)) ∧
        ((∀ r ∈ rows s l, r.WellFormed l) ↔ ¬AssignsNameless s) :=
    ⟨fun r hr => ⟨(h r hr).toFoundAt, (h r hr).wholeTable.mpr⟩, iff_of_true h hs⟩
  cases s with
  | query q => exact hall (fun r => wellFormed_of_mem_query) id
  | delete tables withFrom sources rest =>
    exact hall (fun r => wellFormed_of_mem_ofDelete) id
  | insert head partition source rest => exact hall nofun id
  | other wording => exact hall nofun id
  | update head target before assignments after rest =>
    refine ⟨fun r hr => ?_, fun h => ?_, fun h r hr => ?_⟩
    · obtain ⟨hfound, hop, -⟩ := foundAt_of_mem_ofUpdate hr
      exact ⟨hfound, fun hdelete => absurd (hop.symm.trans hdelete) nofun⟩
    · rintro ⟨⟨table, htable⟩, a, ha, name, hname, hnone⟩
      have hrow : (⟨l.slashed, l.line, l.revision, ⟨.update, table, none⟩⟩ : Row) ∈
          ofUpdate (.new l .update) target assignments :=
        mem_ofUpdate_iff.mpr ⟨table, htable, a, ha, name, hname,
          row?_eq_some_iff.mpr ⟨table, rfl, by simp [hnone], by rw [hnone]; rfl⟩⟩
      exact absurd ((h _ hrow).wholeTable.mp rfl) nofun
    · obtain ⟨hfound, hop, a, ha, name, hname, hcolumn⟩ := foundAt_of_mem_ofUpdate hr
      refine ⟨hfound, iff_of_false (fun hnone => h ?_) (hop ▸ nofun)⟩
      obtain ⟨table, htable, -⟩ := mem_ofUpdate_iff.mp hr
      exact ⟨⟨table, htable⟩, a, ha, name, hname, hcolumn.symm.trans hnone⟩

/-- An `UPDATE` that assigns to the empty word has a row without a column. -/
theorem column_lost :
    ∃ s r, readStatements .generic "UPDATE t SET \"\" = 1" = .ok [s] ∧
      rows s ⟨"q.sql", 1, none⟩ = [r] ∧ r.use = ⟨.update, "t", none⟩ ∧
      ¬r.WellFormed ⟨"q.sql", 1, none⟩ := by
  have hread : readsOne .generic "UPDATE t SET \"\" = 1" (fun s =>
      decide (rows s ⟨"q.sql", 1, none⟩ = [⟨"q.sql", 1, none, ⟨.update, "t", none⟩⟩])) = true := by
    decide +kernel
  obtain ⟨s, hs, hrows⟩ := exists_of_readsOne hread
  exact ⟨s, _, hs, of_decide_eq_true hrows, rfl,
    fun h => Operation.noConfusion (h.wholeTable.mp rfl)⟩

end EmbeddedSql.Usage
