import EmbeddedSql.Sql.Token

/-! Statements of SQL as trees.

The parts of a statement that something asks about are nodes of their own: calls, columns,
queries, the items and sources of a `SELECT`, the targets of a write. All else is wording,
a list of `Piece`s: the words and signs in their canonical spelling, with the nodes that
stand between them. A wording may also say where it breaks lines when it is laid out. -/
namespace EmbeddedSql.Sql

open Text

/-- A name of one word. `extent` is its first place and the place behind it; a name that no
text spells out has none. -/
structure Ident where
  value : String
  quote : Option Char
  extent : Option (Position × Position)
deriving DecidableEq, Repr

/-- A second name of a table, and perhaps of its columns with their types. -/
structure Alias where
  /-- Whether `AS` is written. -/
  marked : Bool
  name : Ident
  columns : List (Ident × String)
deriving DecidableEq, Repr

/-- Where the sources of a `SELECT` stand. -/
inductive SelectOrder
  | itemsFirst | sourcesFirst | sourcesOnly
deriving DecidableEq, Repr

mutual

inductive Piece
  | text (s : String)
  /-- A blank, or a line break when laid out. -/
  | gap
  /-- Nothing, or a line break when laid out. -/
  | fold
  /-- Indented when laid out. -/
  | nest (inner : List Piece)
  /-- On one line even when the rest is laid out. -/
  | flat (inner : List Piece)
  | expr (e : Expr)
  | query (q : Query)
  | source (s : Source)
  | statement (s : Statement)

inductive Expr
  | column (path : List Ident)
  | literal (wording : List Piece)
  | call (c : Call)
  /-- A value and the way into it: fields and subscripts. -/
  | access (root : Expr) (way : List Piece)
  | binary (left : Expr) (operator : String) (right : Expr)
  | trim (side : String) (what : List Piece) (subject : Expr)
  /-- Wording on one line. -/
  | phrase (wording : List Piece)
  /-- Wording that may be laid out. -/
  | block (wording : List Piece)

/-- A part of a name: a word, or a function that makes one. -/
inductive NamePart
  | ident (i : Ident)
  | made (f : Ident) (arguments : List Piece)

structure Call where
  name : List NamePart
  parameters : List Piece
  arguments : List Piece
  within : List Piece
  filter : List Piece
  nulls : String
  windowed : List Piece
  /-- Stands in braces. -/
  braced : Bool

structure Cte where
  label : Alias
  mode : String
  query : Query
  origin : Option Ident

structure Query where
  recursive : Bool
  ctes : List Cte
  body : Body
  order : List Piece
  limit : List Piece
  settings : List Piece
  fetch : List Piece
  rest : List Piece

inductive Body
  | select (s : Select)
  | combined (left : Body) (operator : String) (right : Body)
  | parenthesized (q : Query)
  | change (s : Statement)
  | other (wording : List Piece)

structure Select where
  /-- Between `SELECT` and the items. -/
  head : List Piece
  items : List Item
  into : List Piece
  sources : List Source
  order : SelectOrder
  clauses : List Piece
  windows : List Piece
  qualify : List Piece
  windowsFirst : Bool
  connect : List Piece

inductive Item
  | expr (e : Expr) (label : Option Ident)
  | star (qualifier : List Piece) (options : List Piece)

/-- A table or what stands for one. -/
structure Relation where
  /-- The name of a plain table, or nothing. -/
  table : List NamePart
  /-- What stands between the name and the alias. -/
  wording : List Piece
  label : Option Alias
  options : List Piece

structure Join where
  operator : List Piece
  relation : Relation
  condition : List Piece

structure Source where
  relation : Relation
  joins : List Join

structure Assignment where
  targets : List (List NamePart)
  /-- The targets stand in parentheses. -/
  grouped : Bool
  value : Expr

inductive Statement
  | query (q : Query)
  | insert (head partition source rest : List Piece)
  | update (head : String) (target : Source) (before : List Source)
    (assignments : List Assignment) (after : List Source) (rest : List Piece)
  | delete (tables : List (List NamePart)) (withFrom : Bool) (sources : List Source)
    (rest : List Piece)
  | other (wording : List Piece)

end

/-- A name of one or more parts. -/
abbrev Name := List NamePart

/-- Words, signs and the nodes between them. -/
abbrev Wording := List Piece

/-- A wording of one text. -/
def say (s : String) : Wording := [.text s]

def Expr.wording (e : Expr) : Wording := [.expr e]

def Query.wording (q : Query) : Wording := [.query q]

instance : Inhabited Expr := ⟨.phrase []⟩

instance : Inhabited Statement := ⟨.other []⟩

/-- The words of a name, without the parts that functions make. -/
def Name.idents (n : Name) : List Ident :=
  n.filterMap fun
    | .ident i => some i
    | .made .. => none

/-- The last word of a name, unless it is empty. -/
def Name.base? (n : Name) : Option String :=
  match n.idents.getLast? with
  | some i => if i.value = "" then none else some i.value
  | none => none

/-- The words of a name with dots between them. -/
def Name.dotted (n : Name) : String := ".".intercalate (n.idents.map Ident.value)

end EmbeddedSql.Sql
