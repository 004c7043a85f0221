import EmbeddedSql.Sql.Syntax

/-! What a walk through a tree meets, in order.

A node is met before what it holds, and a query is entered and left. In a full walk the
order is that of the parts of a statement, which is not always the order in which they are
written: the items of a `SELECT` come before its sources even where `FROM` stands first, and
the argument of `TRIM` before the characters it removes. The other walk goes through a query
in the order in which a reader takes in what it selects: its body, the queries that it names,
the keys of its order, and no more. Searches through a tree are folds over these events. -/
namespace EmbeddedSql.Sql

inductive Event
  | expr (e : Expr)
  | select (s : Select)
  | enter (q : Query)
  | leave

inductive Walk
  /-- Every part of a query, the queries that it names first. -/
  | full
  /-- The body of a query, the queries that it names, and the keys of its order. -/
  | bodyFirst
deriving DecidableEq, Repr

mutual

def Piece.events (w : Walk) : Piece → List Event
  | .text _ | .gap | .fold => []
  | .nest inner | .flat inner => eventsOfPieces w inner
  | .expr e => .expr e :: e.inside w
  | .query q => .enter q :: q.inside w ++ [.leave]
  | .source s => s.events w
  | .statement s => s.events w

def eventsOfPieces (w : Walk) : List Piece → List Event
  | [] => []
  | p :: ps => p.events w ++ eventsOfPieces w ps

/-- What an expression holds. -/
def Expr.inside (w : Walk) : Expr → List Event
  | .column _ => []
  | .literal wording => eventsOfPieces w wording
  | .call c => c.inside w
  | .access root way => .expr root :: root.inside w ++ eventsOfPieces w way
  | .binary l _ r => .expr l :: l.inside w ++ .expr r :: r.inside w
  | .trim _ what subject => .expr subject :: subject.inside w ++ eventsOfPieces w what
  | .phrase wording | .block wording => eventsOfPieces w wording

def NamePart.events (w : Walk) : NamePart → List Event
  | .ident _ => []
  | .made _ arguments => eventsOfPieces w arguments

def eventsOfName (w : Walk) : List NamePart → List Event
  | [] => []
  | part :: rest => part.events w ++ eventsOfName w rest

def eventsOfNames (w : Walk) : List (List NamePart) → List Event
  | [] => []
  | name :: names => eventsOfName w name ++ eventsOfNames w names

def Call.inside (w : Walk) : Call → List Event
  | ⟨name, parameters, arguments, within, filter, _, windowed, _⟩ =>
    eventsOfName w name ++ eventsOfPieces w parameters ++ eventsOfPieces w arguments
      ++ eventsOfPieces w filter ++ eventsOfPieces w windowed ++ eventsOfPieces w within

def Cte.events (w : Walk) : Cte → List Event
  | ⟨_, _, query, _⟩ => .enter query :: query.inside w ++ [.leave]

def eventsOfCtes (w : Walk) : List Cte → List Event
  | [] => []
  | c :: cs => c.events w ++ eventsOfCtes w cs

/-- What a query holds. -/
def Query.inside (w : Walk) : Query → List Event
  | ⟨_, ctes, body, order, limit, settings, fetch, rest⟩ =>
    if w = .bodyFirst then body.events w ++ eventsOfCtes w ctes ++ eventsOfPieces w order
    else eventsOfCtes w ctes ++ body.events w ++ eventsOfPieces w order ++ eventsOfPieces w limit
      ++ eventsOfPieces w fetch ++ eventsOfPieces w settings ++ eventsOfPieces w rest

def Body.events (w : Walk) : Body → List Event
  | .select s => .select s :: s.events w
  | .combined l _ r => l.events w ++ r.events w
  | .parenthesized q => .enter q :: q.inside w ++ [.leave]
  | .change s => s.events w
  | .other wording => eventsOfPieces w wording

def Select.events (w : Walk) : Select → List Event
  | ⟨head, items, into, sources, _, clauses, windows, qualify, _, connect⟩ =>
    eventsOfPieces w head ++ eventsOfItems w items ++ eventsOfPieces w into
      ++ eventsOfSources w sources ++ eventsOfPieces w clauses ++ eventsOfPieces w windows
      ++ eventsOfPieces w qualify ++ eventsOfPieces w connect

def Item.events (w : Walk) : Item → List Event
  | .expr e _ => .expr e :: e.inside w
  | .star qualifier options => eventsOfPieces w qualifier ++ eventsOfPieces w options

def eventsOfItems (w : Walk) : List Item → List Event
  | [] => []
  | i :: is => i.events w ++ eventsOfItems w is

def Relation.events (w : Walk) : Relation → List Event
  | ⟨table, wording, _, options⟩ =>
    eventsOfName w table ++ eventsOfPieces w wording ++ eventsOfPieces w options

def Join.events (w : Walk) : Join → List Event
  | ⟨operator, relation, condition⟩ =>
    relation.events w ++ eventsOfPieces w operator ++ eventsOfPieces w condition

def eventsOfJoins (w : Walk) : List Join → List Event
  | [] => []
  | j :: js => j.events w ++ eventsOfJoins w js

def Source.events (w : Walk) : Source → List Event
  | ⟨relation, joins⟩ => relation.events w ++ eventsOfJoins w joins

def eventsOfSources (w : Walk) : List Source → List Event
  | [] => []
  | s :: ss => s.events w ++ eventsOfSources w ss

def Assignment.events (w : Walk) : Assignment → List Event
  | ⟨targets, _, value⟩ => eventsOfNames w targets ++ .expr value :: value.inside w

def eventsOfAssignments (w : Walk) : List Assignment → List Event
  | [] => []
  | a :: as => a.events w ++ eventsOfAssignments w as

def Statement.events (w : Walk) : Statement → List Event
  | .query q => .enter q :: q.inside w ++ [.leave]
  | .insert head partition source rest =>
    eventsOfPieces w head ++ eventsOfPieces w source ++ eventsOfPieces w partition
      ++ eventsOfPieces w rest
  | .update _ target before assignments after rest =>
    target.events w ++ eventsOfAssignments w assignments ++ eventsOfSources w before
      ++ eventsOfSources w after ++ eventsOfPieces w rest
  | .delete tables _ sources rest =>
    eventsOfNames w tables ++ eventsOfSources w sources ++ eventsOfPieces w rest
  | .other wording => eventsOfPieces w wording

end

/-- The calls among these events. -/
def callsIn (events : List Event) : List Call :=
  events.filterMap fun
    | .expr (.call c) => some c
    | _ => none

/-- The `SELECT`s among these events. -/
def selectsIn (events : List Event) : List Select :=
  events.filterMap fun
    | .select s => some s
    | _ => none

/-- The outermost queries among these events; `depth` queries are open. -/
def queriesIn (depth : Nat) : List Event → List Query
  | [] => []
  | .enter q :: rest =>
    if depth = 0 then q :: queriesIn 1 rest else queriesIn (depth + 1) rest
  | .leave :: rest => queriesIn (depth - 1) rest
  | .expr _ :: rest | .select _ :: rest => queriesIn depth rest

/-- The last words of the columns among these events that stand outside all queries;
`depth` queries are open. -/
def columnsIn (depth : Nat) : List Event → List String
  | [] => []
  | .enter _ :: rest => columnsIn (depth + 1) rest
  | .leave :: rest => columnsIn (depth - 1) rest
  | .expr (.column path) :: rest =>
    if depth = 0 then
      match path.getLast? with
      | some last => last.value :: columnsIn 0 rest
      | none => columnsIn 0 rest
    else columnsIn depth rest
  | .expr _ :: rest | .select _ :: rest => columnsIn depth rest

/-- The calls of a statement in the order of the walk. -/
def Statement.calls (s : Statement) : List Call := callsIn (s.events .full)

/-- The `SELECT`s of a query in the order in which a reader takes them in. -/
def Query.selects (q : Query) : List Select := selectsIn (q.inside .bodyFirst)

/-- The columns of an expression, those of its nested queries left out. -/
def Expr.columns (e : Expr) : List String := columnsIn 0 (.expr e :: e.inside .full)

end EmbeddedSql.Sql
