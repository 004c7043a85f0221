import EmbeddedSql.Location
import EmbeddedSql.Sql.Layout
import EmbeddedSql.Sql.Visit.Nesting
import EmbeddedSql.Text.Blank

/-! Which tables and columns a statement uses.

A `SELECT` uses the columns of its items, and they count for its first source if that is a
table. Every `SELECT` of a query counts by itself. An `UPDATE` uses the columns that it
assigns, a `DELETE` its tables. What is done, and to which table, is the scope in which a part
of the statement is read; a query inside another one is read in a scope of its own. -/
namespace EmbeddedSql.Usage

open Sql Text

inductive Operation
  | select | update | insert | delete
deriving DecidableEq, Repr

def Operation.name : Operation → String
  | select => "SELECT"
  | update => "UPDATE"
  | insert => "INSERT"
  | delete => "DELETE"

/-- What a statement does, as far as usage is concerned. -/
inductive Kind
  | select | update | delete | insert | other
deriving DecidableEq, Repr

def Kind.of : Statement → Kind
  | .query _ => .select
  | .update .. => .update
  | .delete .. => .delete
  | .insert .. => .insert
  | .other _ => .other

/-- One use of a table, or of one of its columns. -/
structure Use where
  operation : Operation
  table : String
  column : Option String
deriving DecidableEq, Repr

/-- A use and where it was found. -/
structure Row where
  path : String
  line : Nat
  revision : Option String
  use : Use
deriving DecidableEq, Repr

/-! ### Scopes -/

/-- What is known where a part of a statement is read. -/
structure Scope where
  location : Location
  operation : Operation
  /-- The table to which columns count, once it is known. -/
  table : Option String

namespace Scope

def new (l : Location) (operation : Operation) : Scope := ⟨l, operation, none⟩

def withTable (s : Scope) (table : Option String) : Scope := {s with table := table}

/-- The scope of a query inside this one. -/
def nested (s : Scope) : Scope := new s.location .select

/-- The use of a column, or of the whole table. There is none without a table, and none of a
column whose name is empty. -/
def row? (s : Scope) (column : Option String) : Option Row := do
  let table ← s.table
  if column = some "" then none
  else some ⟨s.location.slashed, s.location.line, s.location.revision,
    ⟨s.operation, table, column⟩⟩

end Scope

/-! ### Queries -/

/-- The name of the table that a source starts with, if it is one. -/
def tableOf? : Source → Option String
  | ⟨⟨table, _, _, _⟩, _⟩ => Name.base? table

/-- The columns that an item speaks of. A star is a column of its own, with its qualifier up
to the first blank. -/
def columnsOf (i : Item) : List String :=
  match i with
  | .expr e _ => e.columns
  | .star .. => (firstWord? i.text).toList

/-- What the items of a `SELECT` use. -/
def ofSelect (scope : Scope) : Select → List Row
  | ⟨_, items, _, sources, _, _, _, _, _, _⟩ =>
    match sources.head?.bind tableOf? with
    | none => []
    | some table =>
      (items.flatMap columnsOf).filterMap fun column =>
        (scope.withTable (some table)).row? (some column)

mutual

/-- The rows of a query: of its body, of the queries that it names, and of those in the keys of
its order. -/
def ofQuery (scope : Scope) (q : Query) : List Row :=
  ofBody scope q.body
    ++ (q.ctes.map Cte.query).attach.flatMap (fun ⟨child, _⟩ => ofQuery scope.nested child)
    ++ (queriesIn 0 (eventsOfPieces .full q.order)).attach.flatMap fun ⟨child, _⟩ =>
      ofQuery scope.nested child
termination_by ((q.inside .full).length, sizeOf q)
decreasing_by
  · exact .right' _ q.length_body_le (by cases q; simp only [Query.mk.sizeOf_spec]; omega)
  · next h => exact .left _ _ (Query.length_inside_lt_of_mem_ctes h)
  · next h => exact .left _ _ (Query.length_inside_lt_of_mem_order h)

/-- The sides of a set operation, each with the queries inside it, come one after the other. -/
def ofBody (scope : Scope) (b : Body) : List Row :=
  match b with
  | .select s =>
    ofSelect scope s ++ (queriesIn 0 (s.events .full)).attach.flatMap fun ⟨child, _⟩ =>
      ofQuery scope.nested child
  | .combined left _ right => ofBody scope.nested left ++ ofBody scope.nested right
  | .parenthesized q => ofQuery scope.nested q
  | .change s =>
    (queriesIn 0 (s.events .full)).attach.flatMap fun ⟨child, _⟩ => ofQuery scope.nested child
  | .other wording =>
    (queriesIn 0 (eventsOfPieces .full wording)).attach.flatMap fun ⟨child, _⟩ =>
      ofQuery scope.nested child
termination_by ((b.events .full).length, sizeOf b)
decreasing_by
  · next h => exact .left _ _ (Nat.lt_succ_of_lt ((bracketed_select .full s).length_inside_lt h))
  · exact .right' _ (by simp [Body.events]) (by simp only [Body.combined.sizeOf_spec]; omega)
  · exact .right' _ (by simp [Body.events]) (by simp only [Body.combined.sizeOf_spec]; omega)
  · exact .left _ _ (by simp only [Body.events, List.length_append, List.length_cons]; omega)
  · next h => exact .left _ _ ((bracketed_statement .full s).length_inside_lt h)
  · next h => exact .left _ _ ((bracketed_pieces .full wording).length_inside_lt h)

end

/-! ### Statements -/

/-- What the assignments of an `UPDATE` use. -/
def ofUpdate (scope : Scope) (target : Source) (assignments : List Assignment) : List Row :=
  match tableOf? target with
  | none => []
  | some table =>
    (assignments.flatMap fun
      | ⟨targets, _, _⟩ => targets).filterMap fun name =>
        (scope.withTable (some table)).row? (Name.base? name)

/-- What a `DELETE` uses: the tables in front of `FROM`, then the first one behind it. -/
def ofDelete (scope : Scope) (tables : List Name) (sources : List Source) : List Row :=
  (tables.map Name.base? ++ [sources.head?.bind tableOf?]).filterMap fun table =>
    (scope.withTable table).row? none

/-- The uses of a statement, in the order in which it mentions them. -/
def rows (s : Statement) (l : Location) : List Row :=
  match s with
  | .query q => ofQuery (.new l .select) q
  | .update _ target _ assignments _ _ => ofUpdate (.new l .update) target assignments
  | .delete tables _ sources _ => ofDelete (.new l .delete) tables sources
  | .insert .. | .other _ => []

end EmbeddedSql.Usage
