import EmbeddedSql.Sql.Visit.Nesting

/-! The columns that an expression speaks of.

The search for them walks through all of the expression and counts the queries that are open.
`Expr.ownColumns` finds them by the parts of the expression, and turns back in front of every
query. `columns_eq_ownColumns` says that the two agree, and that the count is right at every place
of the walk: a query is left only if it was entered, and none is open at the end. So a column
behind a query is found like one in front of it. -/
namespace EmbeddedSql.Sql

/-! ### Open queries -/

/-- How many queries are open behind some events, if `depth` are open in front of them. There is
no such number if one is left that was not entered. -/
def openBehind : Nat → List Event → Option Nat
  | depth, [] => some depth
  | depth, .enter _ :: es => openBehind (depth + 1) es
  | 0, .leave :: _ => none
  | depth + 1, .leave :: es => openBehind depth es
  | depth, .expr _ :: es | depth, .select _ :: es => openBehind depth es

theorem openBehind_append (depth : Nat) (es fs : List Event) :
    openBehind depth (es ++ fs) = (openBehind depth es).bind (openBehind · fs) := by
  induction es generalizing depth with
  | nil => rfl
  | cons e es ih =>
    cases e with
    | expr e => exact ih depth
    | select s => exact ih depth
    | enter q => exact ih (depth + 1)
    | leave =>
      cases depth with
      | zero => rfl
      | succ depth => exact ih depth

/-- A walk that has come to a place has a number of open queries there. -/
theorem exists_openBehind_of_append {depth : Nat} {es fs : List Event}
    (h : openBehind depth (es ++ fs) ≠ none) : ∃ d, openBehind depth es = some d := by
  rw [openBehind_append] at h
  exact Option.ne_none_iff_exists'.mp fun hnone => h (by rw [hnone]; rfl)

/-- The search goes on with the queries that are open. -/
theorem columnsIn_append_of_open {depth d : Nat} {es : List Event}
    (h : openBehind depth es = some d) (fs : List Event) :
    columnsIn depth (es ++ fs) = columnsIn depth es ++ columnsIn d fs := by
  induction es generalizing depth with
  | nil =>
    cases h
    rfl
  | cons e es ih =>
    cases e with
    | select s => exact ih h
    | enter q => exact ih h
    | leave =>
      cases depth with
      | zero => cases h
      | succ depth => exact ih h
    | expr e =>
      have hrest : columnsIn depth (es ++ fs) = columnsIn depth es ++ columnsIn d fs := ih h
      cases e with
      | column path =>
        simp only [List.cons_append, columnsIn]
        split
        · next hdepth =>
          subst hdepth
          split
          · exact congrArg (_ :: ·) hrest
          · exact hrest
        · exact hrest
      | _ => exact hrest

namespace Bracketed
variable {w : Walk} {es : List Event}

/-- Every query that is entered is left again, and no other one. -/
theorem openBehind_eq (h : Bracketed w es) (depth : Nat) : openBehind depth es = some depth := by
  induction h generalizing depth with
  | nil => rfl
  | expr e _ ih => exact ih depth
  | select s _ ih => exact ih depth
  | query q _ _ ihq ih =>
    rw [openBehind, openBehind_append, ihq]
    exact ih depth

theorem columnsIn_append (h : Bracketed w es) (depth : Nat) (fs : List Event) :
    columnsIn depth (es ++ fs) = columnsIn depth es ++ columnsIn depth fs :=
  columnsIn_append_of_open (h.openBehind_eq depth) fs

/-- Inside a query nothing is found, however many others are open in it. -/
theorem columnsIn_succ (h : Bracketed w es) (depth : Nat) : columnsIn (depth + 1) es = [] := by
  induction h generalizing depth with
  | nil => rfl
  | expr e _ ih => cases e <;> exact ih depth
  | select s _ ih => exact ih depth
  | query q hq _ ihq ih =>
    rw [columnsIn, hq.columnsIn_append, ihq]
    exact ih depth

theorem columnsIn_query (q : Query) (w : Walk) :
    columnsIn 0 (.enter q :: q.inside w ++ [.leave]) = [] := by
  rw [List.cons_append, columnsIn, (inside w q).columnsIn_append, (inside w q).columnsIn_succ]
  rfl

end Bracketed

/-! ### By parts -/

mutual

/-- The columns in a part of an expression, those inside queries left out. -/
def Piece.ownColumns : Piece → List (List Ident)
  | .text _ | .gap | .fold => []
  | .nest inner | .flat inner => ownColumnsOfPieces inner
  | .expr e => e.ownColumns
  | .query _ => []
  | .source s => s.ownColumns
  | .statement s => s.ownColumns

def ownColumnsOfPieces : List Piece → List (List Ident)
  | [] => []
  | p :: ps => p.ownColumns ++ ownColumnsOfPieces ps

/-- The columns that an expression is or that stand in it, those inside queries left out: in the
order of the walk, each with all its words. -/
def Expr.ownColumns : Expr → List (List Ident)
  | .column path => [path]
  | .literal wording => ownColumnsOfPieces wording
  | .call c => c.ownColumns
  | .access root way => root.ownColumns ++ ownColumnsOfPieces way
  | .binary l _ r => l.ownColumns ++ r.ownColumns
  | .trim _ what subject => subject.ownColumns ++ ownColumnsOfPieces what
  | .phrase wording | .block wording => ownColumnsOfPieces wording

def NamePart.ownColumns : NamePart → List (List Ident)
  | .ident _ => []
  | .made _ arguments => ownColumnsOfPieces arguments

def ownColumnsOfName : List NamePart → List (List Ident)
  | [] => []
  | part :: rest => part.ownColumns ++ ownColumnsOfName rest

def ownColumnsOfNames : List (List NamePart) → List (List Ident)
  | [] => []
  | name :: names => ownColumnsOfName name ++ ownColumnsOfNames names

def Call.ownColumns : Call → List (List Ident)
  | ⟨name, parameters, arguments, within, filter, _, windowed, _⟩ =>
    ownColumnsOfName name ++ ownColumnsOfPieces parameters ++ ownColumnsOfPieces arguments
      ++ ownColumnsOfPieces filter ++ ownColumnsOfPieces windowed ++ ownColumnsOfPieces within

def Relation.ownColumns : Relation → List (List Ident)
  | ⟨table, wording, _, options⟩ =>
    ownColumnsOfName table ++ ownColumnsOfPieces wording ++ ownColumnsOfPieces options

def ownColumnsOfJoins : List Join → List (List Ident)
  | [] => []
  | ⟨operator, relation, condition⟩ :: js =>
    relation.ownColumns ++ ownColumnsOfPieces operator ++ ownColumnsOfPieces condition
      ++ ownColumnsOfJoins js

def Source.ownColumns : Source → List (List Ident)
  | ⟨relation, joins⟩ => relation.ownColumns ++ ownColumnsOfJoins joins

def ownColumnsOfSources : List Source → List (List Ident)
  | [] => []
  | s :: ss => s.ownColumns ++ ownColumnsOfSources ss

def ownColumnsOfAssignments : List Assignment → List (List Ident)
  | [] => []
  | ⟨targets, _, value⟩ :: as =>
    ownColumnsOfNames targets ++ value.ownColumns ++ ownColumnsOfAssignments as

def Statement.ownColumns : Statement → List (List Ident)
  | .query _ => []
  | .insert head partition source rest =>
    ownColumnsOfPieces head ++ ownColumnsOfPieces source ++ ownColumnsOfPieces partition
      ++ ownColumnsOfPieces rest
  | .update _ target before assignments after rest =>
    target.ownColumns ++ ownColumnsOfAssignments assignments ++ ownColumnsOfSources before
      ++ ownColumnsOfSources after ++ ownColumnsOfPieces rest
  | .delete tables _ sources rest =>
    ownColumnsOfNames tables ++ ownColumnsOfSources sources ++ ownColumnsOfPieces rest
  | .other wording => ownColumnsOfPieces wording

end

/-- The name of a column itself, without what it is a column of. -/
def lastWord? (path : List Ident) : Option String := path.getLast?.map Ident.value

/-- What the search finds among some events are the last words of these columns. -/
structure Finds (w : Walk) (paths : List (List Ident)) (es : List Event) : Prop where
  bracketed : Bracketed w es
  found : columnsIn 0 es = paths.filterMap lastWord?

namespace Finds
variable {w : Walk}

theorem nil : Finds w [] [] := ⟨.nil, rfl⟩

theorem append {ps qs : List (List Ident)} {es fs : List Event} (h : Finds w ps es)
    (k : Finds w qs fs) : Finds w (ps ++ qs) (es ++ fs) :=
  ⟨h.bracketed.append k.bracketed, by
    rw [h.bracketed.columnsIn_append, List.filterMap_append, h.found, k.found]⟩

theorem query (q : Query) : Finds w [] (.enter q :: q.inside w ++ [.leave]) :=
  ⟨.query q (Bracketed.inside w q) .nil, Bracketed.columnsIn_query q w⟩

/-- An expression that is no column is found by what it holds. -/
theorem cons {ps : List (List Ident)} {es : List Event} (e : Expr)
    (he : ∀ path, e ≠ .column path) (h : Finds w ps es) : Finds w ps (.expr e :: es) :=
  ⟨.expr e h.bracketed, by
    rw [← h.found]
    cases e with
    | column path => exact absurd rfl (he path)
    | _ => rfl⟩

theorem column (path : List Ident) : Finds w [path] [.expr (.column path)] :=
  ⟨.expr _ .nil, by
    simp only [columnsIn, if_true, lastWord?, List.filterMap_cons]
    cases path.getLast? <;> rfl⟩

mutual

theorem piece : ∀ p : Piece, Finds w p.ownColumns (p.events w)
  | .text _ => nil
  | .gap => nil
  | .fold => nil
  | .nest inner => pieces inner
  | .flat inner => pieces inner
  | .expr e => expr e
  | .query q => query q
  | .source s => source s
  | .statement s => statement s

theorem pieces : ∀ ps : List Piece, Finds w (ownColumnsOfPieces ps) (eventsOfPieces w ps)
  | [] => nil
  | p :: ps => (piece p).append (pieces ps)

theorem expr : ∀ e : Expr, Finds w e.ownColumns (.expr e :: e.inside w)
  | .column path => column path
  | .literal wording => cons _ nofun (pieces wording)
  | .call c => cons _ nofun (call c)
  | .access root way => cons _ nofun ((expr root).append (pieces way))
  | .binary l _ r => cons _ nofun ((expr l).append (expr r))
  | .trim _ what subject => cons _ nofun ((expr subject).append (pieces what))
  | .phrase wording => cons _ nofun (pieces wording)
  | .block wording => cons _ nofun (pieces wording)

theorem namePart : ∀ n : NamePart, Finds w n.ownColumns (n.events w)
  | .ident _ => nil
  | .made _ arguments => pieces arguments

theorem name : ∀ n : List NamePart, Finds w (ownColumnsOfName n) (eventsOfName w n)
  | [] => nil
  | part :: rest => (namePart part).append (name rest)

theorem names : ∀ ns : List (List NamePart), Finds w (ownColumnsOfNames ns) (eventsOfNames w ns)
  | [] => nil
  | n :: ns => (name n).append (names ns)

theorem call : ∀ c : Call, Finds w c.ownColumns (c.inside w)
  | ⟨n, parameters, arguments, within, filter, _, windowed, _⟩ =>
    (((((name n).append (pieces parameters)).append (pieces arguments)).append
      (pieces filter)).append (pieces windowed)).append (pieces within)

theorem relation : ∀ r : Relation, Finds w r.ownColumns (r.events w)
  | ⟨table, wording, _, options⟩ =>
    ((name table).append (pieces wording)).append (pieces options)

theorem joins : ∀ js : List Join, Finds w (ownColumnsOfJoins js) (eventsOfJoins w js)
  | [] => nil
  | ⟨operator, r, condition⟩ :: js =>
    (((relation r).append (pieces operator)).append (pieces condition)).append (joins js)

theorem source : ∀ s : Source, Finds w s.ownColumns (s.events w)
  | ⟨r, js⟩ => (relation r).append (joins js)

theorem sources : ∀ ss : List Source, Finds w (ownColumnsOfSources ss) (eventsOfSources w ss)
  | [] => nil
  | s :: ss => (source s).append (sources ss)

theorem assignments :
    ∀ as : List Assignment, Finds w (ownColumnsOfAssignments as) (eventsOfAssignments w as)
  | [] => nil
  | ⟨targets, _, value⟩ :: as =>
    ((names targets).append (expr value)).append (assignments as)

theorem statement : ∀ s : Statement, Finds w s.ownColumns (s.events w)
  | .query q => query q
  | .insert head partition source rest =>
    (((pieces head).append (pieces source)).append (pieces partition)).append (pieces rest)
  | .update _ target before as after rest =>
    ((((source target).append (assignments as)).append (sources before)).append
      (sources after)).append (pieces rest)
  | .delete tables _ ss rest => ((names tables).append (sources ss)).append (pieces rest)
  | .other wording => pieces wording

end

end Finds

/-! ### The search -/

theorem columns_eq_filterMap (e : Expr) : e.columns = e.ownColumns.filterMap lastWord? :=
  (Finds.expr e).found

/-- **The columns found in an expression are its own ones.** Inside a query nothing is found, and
no query is open at the end. At every place of the walk some number of queries is open, and the
search finds the other columns from there if it goes on with that number. -/
theorem columns_eq_ownColumns (e : Expr) :
    e.columns = e.ownColumns.filterMap lastWord? ∧
      (∀ depth, columnsIn (depth + 1) (.expr e :: e.inside .full) = []) ∧
      openBehind 0 (.expr e :: e.inside .full) = some 0 ∧
      ∀ before behind, .expr e :: e.inside .full = before ++ behind →
        ∃ depth, openBehind 0 before = some depth ∧
          e.columns = columnsIn 0 before ++ columnsIn depth behind := by
  have hbracketed : Bracketed .full (.expr e :: e.inside .full) := (Finds.expr e).bracketed
  refine ⟨columns_eq_filterMap e, hbracketed.columnsIn_succ, hbracketed.openBehind_eq 0, ?_⟩
  intro before behind hsplit
  have hopen : openBehind 0 (before ++ behind) ≠ none := by
    rw [← hsplit, hbracketed.openBehind_eq]
    nofun
  obtain ⟨depth, hdepth⟩ := exists_openBehind_of_append hopen
  refine ⟨depth, hdepth, ?_⟩
  rw [Expr.columns, hsplit, columnsIn_append_of_open hdepth]

end EmbeddedSql.Sql
