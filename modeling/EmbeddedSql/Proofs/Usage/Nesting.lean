import EmbeddedSql.Engine
import EmbeddedSql.Proofs.Visit.Selects
import EmbeddedSql.Usage

/-! How the rows of a query are put together.

An extraction hands its scope down, but a query inside another one starts with a scope of its
own, so neither the table nor the operation around it shows in its rows: it has the rows that it
has as a statement of its own. Read to the end, this makes the rows of a query those of the
`SELECT`s in it, one after the other (`rows_query`). `rows_composed` says how the rows of a
statement come from those of its parts, and that a query at any depth gives one block. -/
namespace EmbeddedSql.Usage

open Sql Sql.Grammar

/-- The rows of some `SELECT`s, without those of the queries inside them. -/
def rowsOfSelects (l : Location) (ss : List Select) : List Row :=
  ss.flatMap (ofSelect (.new l .select))

/-- The rows of some queries, each as a statement of its own. -/
def rowsOfQueries (l : Location) (qs : List Query) : List Row :=
  qs.flatMap fun q => rows (.query q) l

theorem rowsOfSelects_append (l : Location) (ss ts : List Select) :
    rowsOfSelects l (ss ++ ts) = rowsOfSelects l ss ++ rowsOfSelects l ts := List.flatMap_append

theorem rowsOfSelects_cons (l : Location) (s : Select) (ss : List Select) :
    rowsOfSelects l (s :: ss) = ofSelect (.new l .select) s ++ rowsOfSelects l ss :=
  List.flatMap_cons

/-! ### Scopes -/

/-- A query inside another one does not see the scope around it. -/
theorem ofQuery_nested (scope : Scope) (q : Query) :
    ofQuery scope.nested q = rows (.query q) scope.location := by
  rw [rows, Scope.nested]

theorem flatMap_nested (scope : Scope) (qs : List Query) :
    (qs.attach.flatMap fun ⟨child, _⟩ => ofQuery scope.nested child) =
      rowsOfQueries scope.location qs := by
  rw [List.flatMap_subtype (fun child _ => ofQuery_nested scope child), List.unattach_attach,
    rowsOfQueries]

/-- The rows of a query are those of its body, then of the queries that it names, and then of
those in the keys of its order. Only the body sees the scope. -/
theorem ofQuery_eq (scope : Scope) (q : Query) :
    ofQuery scope q = ofBody scope q.body ++ rowsOfQueries scope.location (q.ctes.map Cte.query)
      ++ rowsOfQueries scope.location (queriesIn 0 (eventsOfPieces .full q.order)) := by
  rw [ofQuery, flatMap_nested, flatMap_nested]

/-! ### Bodies -/

theorem ofBody_select (scope : Scope) (s : Select) :
    ofBody scope (.select s) =
      ofSelect scope s ++ rowsOfQueries scope.location (queriesIn 0 (s.events .full)) := by
  rw [ofBody, flatMap_nested]

theorem ofBody_change (scope : Scope) (s : Statement) :
    ofBody scope (.change s) = rowsOfQueries scope.location (queriesIn 0 (s.events .full)) := by
  rw [ofBody, flatMap_nested]

theorem ofBody_other (scope : Scope) (wording : List Piece) :
    ofBody scope (.other wording) =
      rowsOfQueries scope.location (queriesIn 0 (eventsOfPieces .full wording)) := by
  rw [ofBody, flatMap_nested]

theorem ofBody_parenthesized (scope : Scope) (q : Query) :
    ofBody scope (.parenthesized q) = rows (.query q) scope.location := by
  rw [ofBody, ofQuery_nested]

/-- A query that is no more than its body has the rows of the body. -/
theorem rows_bareQuery (l : Location) (b : Body) :
    rows (.query (bareQuery b)) l = ofBody (.new l .select) b := by
  rw [rows, ofQuery_eq]
  simp [bareQuery, eventsOfPieces, queriesIn, rowsOfQueries]

/-- The sides of a set operation do not see the scope around it. -/
theorem ofBody_combined (scope : Scope) (left right : Body) (operator : String) :
    ofBody scope (.combined left operator right) =
      rows (.query (bareQuery left)) scope.location ++
        rows (.query (bareQuery right)) scope.location := by
  rw [ofBody, rows_bareQuery, rows_bareQuery, Scope.nested]

/-! ### Rows without scopes -/

/-- The table of a scope is that of the `SELECT` itself, so only the operation is left of it. -/
theorem ofSelect_eq (scope : Scope) (h : scope.operation = .select) (s : Select) :
    ofSelect scope s = ofSelect (.new scope.location .select) s := by
  obtain ⟨location, operation, table⟩ := scope
  subst h
  obtain ⟨_, items, _, sources, _, _, _, _, _, _⟩ := s
  rfl

theorem rowsOfQueries_eq {l : Location} {qs : List Query}
    (h : ∀ q ∈ qs, rows (.query q) l = rowsOfSelects l q.selects) :
    rowsOfQueries l qs = rowsOfSelects l (qs.flatMap Query.selects) := by
  induction qs with
  | nil => rfl
  | cons q qs ih =>
    rw [List.forall_mem_cons] at h
    rw [List.flatMap_cons, rowsOfSelects_append, ← h.1, ← ih h.2, rowsOfQueries,
      List.flatMap_cons, rowsOfQueries]

/-- In a scope of reading, queries and bodies have the rows of the `SELECT`s in them. -/
theorem ofQuery_and_ofBody_eq :
    (∀ scope q, scope.operation = .select →
        ofQuery scope q = rowsOfSelects scope.location q.selects) ∧
      ∀ scope b, scope.operation = .select →
        ofBody scope b = rowsOfSelects scope.location (selectsIn (b.events .bodyFirst)) := by
  -- A query inside another one is read in a scope of reading, whatever the one around it is.
  have hnested {scope : Scope} {qs : List Query}
      (h : ∀ child ∈ qs, scope.nested.operation = .select →
        ofQuery scope.nested child = rowsOfSelects scope.nested.location child.selects) :
      rowsOfQueries scope.location qs =
        rowsOfSelects scope.location (qs.flatMap Query.selects) :=
    rowsOfQueries_eq fun child hchild => (ofQuery_nested scope child).symm.trans
      (h child hchild rfl)
  apply ofQuery.mutual_induct
  case case1 =>
    intro scope q hbody hctes horder hscope
    rw [ofQuery_eq, hbody hscope, hnested hctes, hnested horder, ← rowsOfSelects_append,
      ← rowsOfSelects_append, ← selects_query]
  case case2 =>
    intro scope s hchild hscope
    rw [ofBody_select, ofSelect_eq scope hscope, hnested hchild, Body.events, selectsIn_select,
      rowsOfSelects_cons, selects_select]
  case case3 =>
    intro scope left operator right hleft hright hscope
    rw [ofBody, hleft rfl, hright rfl, Body.events, selectsIn_append, rowsOfSelects_append]
    rfl
  case case4 =>
    intro scope q hq hscope
    rw [ofBody, hq rfl, Body.events]
    simp [Query.selects, Scope.nested, Scope.new]
  case case5 =>
    intro scope s hchild hscope
    rw [ofBody_change, hnested hchild, Body.events, selects_statement]
  case case6 =>
    intro scope wording hchild hscope
    rw [ofBody_other, hnested hchild, Body.events, selects_pieces]

/-- **The rows of a query are those of its `SELECT`s**, in the order of a reader. -/
theorem rows_query (l : Location) (q : Query) :
    rows (.query q) l = rowsOfSelects l q.selects := by
  rw [rows, ofQuery_and_ofBody_eq.1 _ q rfl, Scope.new]

/-! ### Rows of a scope -/

theorem row?_eq_some_iff {scope : Scope} {column : Option String} {r : Row} :
    scope.row? column = some r ↔ ∃ table, scope.table = some table ∧ column ≠ some "" ∧
      r = ⟨scope.location.slashed, scope.location.line, scope.location.revision,
        ⟨scope.operation, table, column⟩⟩ := by
  obtain ⟨location, operation, table⟩ := scope
  cases table with
  | none => simp [Scope.row?]
  | some table =>
    by_cases hempty : column = some ""
    · simp [Scope.row?, hempty]
    · simp [Scope.row?, hempty, eq_comm]

theorem mem_ofSelect_iff {scope : Scope} {s : Select} {r : Row} :
    r ∈ ofSelect scope s ↔ ∃ table, s.sources.head?.bind tableOf? = some table ∧
      ∃ column ∈ s.items.flatMap columnsOf,
        (scope.withTable (some table)).row? (some column) = some r := by
  obtain ⟨_, items, _, sources, _, _, _, _, _, _⟩ := s
  rw [ofSelect]
  cases sources.head?.bind tableOf? with
  | none => simp
  | some table => simp only [List.mem_filterMap, Option.some.injEq, exists_eq_left']

theorem operation_of_mem_ofSelect {scope : Scope} {s : Select} {r : Row}
    (h : r ∈ ofSelect scope s) : r.use.operation = scope.operation := by
  obtain ⟨table, -, column, -, hrow⟩ := mem_ofSelect_iff.mp h
  obtain ⟨_, -, -, rfl⟩ := row?_eq_some_iff.mp hrow
  rfl

/-! ### Texts of one statement -/

/-- Whether a text is read as one statement of which `p` holds. -/
def readsOne (d : Dialect) (sql : String) (p : Statement → Bool) : Bool :=
  match readStatements d sql with
  | .ok [s] => p s
  | _ => false

/-- Whether a text is read as one query of which `p` holds. -/
def readsQuery (d : Dialect) (sql : String) (p : Query → Bool) : Bool :=
  match readStatements d sql with
  | .ok [.query q] => p q
  | _ => false

theorem exists_of_readsOne {d : Dialect} {sql : String} {p : Statement → Bool}
    (h : readsOne d sql p = true) : ∃ s, readStatements d sql = .ok [s] ∧ p s = true := by
  rw [readsOne] at h
  split at h
  · next s hs => exact ⟨s, hs, h⟩
  · cases h

theorem exists_of_readsQuery {d : Dialect} {sql : String} {p : Query → Bool}
    (h : readsQuery d sql p = true) :
    ∃ q, readStatements d sql = .ok [.query q] ∧ p q = true := by
  rw [readsQuery] at h
  split at h
  · next q hq => exact ⟨q, hq, h⟩
  · cases h

/-! ### Composition -/

/-- The rows of queries are put together from those of their parts. -/
structure RowsComposed (l : Location) : Prop where
  /-- First the left side of a set operation, then the right one. -/
  combined (left right : Body) (operator : String) :
    rows (.query (bareQuery (.combined left operator right))) l =
      rows (.query (bareQuery left)) l ++ rows (.query (bareQuery right)) l
  parenthesized (q : Query) :
    rows (.query (bareQuery (.parenthesized q))) l = rows (.query q) l
  /-- First what the items use, then the outermost queries in the order of the full walk. -/
  select (s : Select) :
    rows (.query (bareQuery (.select s))) l =
      ofSelect (.new l .select) s ++ rowsOfQueries l (queriesIn 0 (s.events .full))
  change (s : Statement) :
    rows (.query (bareQuery (.change s))) l = rowsOfQueries l (queriesIn 0 (s.events .full))
  other (wording : List Piece) :
    rows (.query (bareQuery (.other wording))) l =
      rowsOfQueries l (queriesIn 0 (eventsOfPieces .full wording))
  /-- First the body, then the queries that it names, then those in the keys of its order. -/
  query (q : Query) :
    rows (.query q) l =
      rows (.query (bareQuery q.body)) l ++ rowsOfQueries l (q.ctes.map Cte.query) ++
        rowsOfQueries l (queriesIn 0 (eventsOfPieces .full q.order))
  /-- Whatever is done around a query, and to whichever table, it has the rows that it has as a
  statement. -/
  nested (operation : Operation) (table : Option String) (q : Query) :
    ofQuery (Scope.nested ⟨l, operation, table⟩) q = rows (.query q) l
  /-- A query that is entered, at any depth, gives one block: its own rows. The rows in front of
  it and behind it are those of what is met before it is entered and after it is left. -/
  block (q child : Query) (before behind : List Event) :
    q.inside .bodyFirst = before ++ .enter child :: behind →
      ∃ after, behind = child.inside .bodyFirst ++ .leave :: after ∧
        rows (.query q) l = rowsOfSelects l (selectsIn before) ++ rows (.query child) l ++
          rowsOfSelects l (selectsIn after)
  operation (q : Query) : ∀ r ∈ rows (.query q) l, r.use.operation = .select

theorem rows_bareQuery_change (s : Statement) (l : Location) :
    rows (.query (bareQuery (.change s))) l = rowsOfQueries l (queriesIn 0 (s.events .full)) := by
  rw [rows_bareQuery, ofBody_change, Scope.new]

theorem rows_query_parts (q : Query) (l : Location) :
    rows (.query q) l =
      rows (.query (bareQuery q.body)) l ++ rowsOfQueries l (q.ctes.map Cte.query) ++
        rowsOfQueries l (queriesIn 0 (eventsOfPieces .full q.order)) := by
  rw [rows_bareQuery, rows, ofQuery_eq, Scope.new]

theorem operation_of_mem_query {q : Query} {l : Location} {r : Row}
    (h : r ∈ rows (.query q) l) : r.use.operation = .select := by
  rw [rows_query] at h
  obtain ⟨s, -, hs⟩ := List.mem_flatMap.mp h
  exact operation_of_mem_ofSelect hs

/-- **The rows of a query are those of its parts, each as a statement of its own.** -/
theorem rows_composed (l : Location) : RowsComposed l where
  combined left right operator := by rw [rows_bareQuery, ofBody_combined, Scope.new]
  parenthesized q := by rw [rows_bareQuery, ofBody_parenthesized, Scope.new]
  select s := by rw [rows_bareQuery, ofBody_select, Scope.new]
  change s := rows_bareQuery_change s l
  other wording := by rw [rows_bareQuery, ofBody_other, Scope.new]
  query q := rows_query_parts q l
  nested operation table q := ofQuery_nested ⟨l, operation, table⟩ q
  block q child before behind hq := by
    obtain ⟨after, rfl⟩ := (Bracketed.inside .bodyFirst q).exists_leave hq
    refine ⟨after, rfl, ?_⟩
    rw [rows_query, rows_query, ← rowsOfSelects_append, ← rowsOfSelects_append, Query.selects, hq,
      Query.selects]
    simp
  operation _ _ := operation_of_mem_query

/-- The query in a condition gives the rows of its own table, behind those of the other one. -/
theorem rows_composed_condition :
    ∃ q child before after,
      readStatements .generic "SELECT a FROM t WHERE a IN (SELECT b FROM u)" = .ok [.query q] ∧
      q.inside .bodyFirst = before ++ .enter child :: (child.inside .bodyFirst ++ .leave :: after) ∧
      rows (.query child) ⟨"q.sql", 1, none⟩ = [⟨"q.sql", 1, none, ⟨.select, "u", some "b"⟩⟩] ∧
      rows (.query q) ⟨"q.sql", 1, none⟩ =
        [⟨"q.sql", 1, none, ⟨.select, "t", some "a"⟩⟩,
          ⟨"q.sql", 1, none, ⟨.select, "u", some "b"⟩⟩] ∧
      rows (.query q) ⟨"q.sql", 1, none⟩ =
        rowsOfSelects ⟨"q.sql", 1, none⟩ (selectsIn before)
          ++ rows (.query child) ⟨"q.sql", 1, none⟩
          ++ rowsOfSelects ⟨"q.sql", 1, none⟩ (selectsIn after) := by
  have hread : readsQuery .generic "SELECT a FROM t WHERE a IN (SELECT b FROM u)" (fun q =>
      decide ((queriesIn 0 (q.inside .bodyFirst)).map
          (fun child => rowsOfSelects ⟨"q.sql", 1, none⟩ child.selects) =
        [[⟨"q.sql", 1, none, ⟨.select, "u", some "b"⟩⟩]]) &&
      decide (rowsOfSelects ⟨"q.sql", 1, none⟩ q.selects =
        [⟨"q.sql", 1, none, ⟨.select, "t", some "a"⟩⟩,
          ⟨"q.sql", 1, none, ⟨.select, "u", some "b"⟩⟩])) = true := by decide +kernel
  obtain ⟨q, hq, hread⟩ := exists_of_readsQuery hread
  rw [Bool.and_eq_true, decide_eq_true_eq, decide_eq_true_eq] at hread
  obtain ⟨hchildren, hrows⟩ := hread
  obtain ⟨child, hchild, hrowsOfChild⟩ := List.map_eq_singleton_iff.mp hchildren
  have hmem : Event.enter child ∈ q.inside .bodyFirst :=
    Bracketed.enter_mem_of_mem_queriesIn (by rw [hchild]; exact List.mem_singleton_self _)
  obtain ⟨before, behind, hevents⟩ := List.append_of_mem hmem
  obtain ⟨after, rfl, hblock⟩ := (rows_composed ⟨"q.sql", 1, none⟩).block q child before
    behind hevents
  exact ⟨q, child, before, after, hq, hevents, (rows_query _ child).trans hrowsOfChild,
    (rows_query _ q).trans hrows, hblock⟩

end EmbeddedSql.Usage
