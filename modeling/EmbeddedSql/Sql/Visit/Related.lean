import EmbeddedSql.Sql.Visit

/-! What two walks through the same tree have in common.

All walks go the same way, except through a query, where each has an order of its own. So what
relates the events of two walks through a query relates those through every tree: it is enough
that the relation holds of each single event and passes from parts to the whole (`Related`).
Bodies of queries may have a relation of their own, because only they meet a `SELECT`. A walk
compared with itself gives what holds of all its events. -/
namespace EmbeddedSql.Sql

/-- The relations hold of what two walks meet in the parts of a query. -/
structure Query.PartsRelated (v w : Walk) (ofPart ofBody : List Event → List Event → Prop)
    (q : Query) : Prop where
  ctes : ofPart (eventsOfCtes v q.ctes) (eventsOfCtes w q.ctes)
  body : ofBody (q.body.events v) (q.body.events w)
  order : ofPart (eventsOfPieces v q.order) (eventsOfPieces w q.order)
  limit : ofPart (eventsOfPieces v q.limit) (eventsOfPieces w q.limit)
  settings : ofPart (eventsOfPieces v q.settings) (eventsOfPieces w q.settings)
  fetch : ofPart (eventsOfPieces v q.fetch) (eventsOfPieces w q.fetch)
  rest : ofPart (eventsOfPieces v q.rest) (eventsOfPieces w q.rest)

/-- Relations between the events of two walks that pass from parts to the whole. -/
structure Related (v w : Walk) (ofPart ofBody : List Event → List Event → Prop) : Prop where
  nil : ofPart [] []
  append {a b c d : List Event} : ofPart a b → ofPart c d → ofPart (a ++ c) (b ++ d)
  expr (e : Expr) : ofPart [.expr e] [.expr e]
  query (q : Query) : q.PartsRelated v w ofPart ofBody →
    ofPart (.enter q :: q.inside v ++ [.leave]) (.enter q :: q.inside w ++ [.leave])
  select (s : Select) : ofPart (s.events v) (s.events w) →
    ofBody (.select s :: s.events v) (.select s :: s.events w)
  combined {a b c d : List Event} : ofBody a b → ofBody c d → ofBody (a ++ c) (b ++ d)
  other {a b : List Event} : ofPart a b → ofBody a b

namespace Related
variable {v w : Walk} {ofPart ofBody : List Event → List Event → Prop}

theorem cons (h : Related v w ofPart ofBody) (e : Expr) {a b : List Event} (hab : ofPart a b) :
    ofPart (.expr e :: a) (.expr e :: b) := h.append (h.expr e) hab

mutual

theorem piece (h : Related v w ofPart ofBody) : ∀ p : Piece, ofPart (p.events v) (p.events w)
  | .text _ => h.nil
  | .gap => h.nil
  | .fold => h.nil
  | .nest inner => h.pieces inner
  | .flat inner => h.pieces inner
  | .expr e => h.cons e (h.inside e)
  | .query q => h.query q (h.parts q)
  | .source s => h.source s
  | .statement s => h.statement s

theorem pieces (h : Related v w ofPart ofBody) :
    ∀ ps : List Piece, ofPart (eventsOfPieces v ps) (eventsOfPieces w ps)
  | [] => h.nil
  | p :: ps => h.append (h.piece p) (h.pieces ps)

theorem inside (h : Related v w ofPart ofBody) : ∀ e : Expr, ofPart (e.inside v) (e.inside w)
  | .column _ => h.nil
  | .literal wording => h.pieces wording
  | .call c => h.call c
  | .access root way => h.append (h.cons root (h.inside root)) (h.pieces way)
  | .binary l _ r => h.append (h.cons l (h.inside l)) (h.cons r (h.inside r))
  | .trim _ what subject => h.append (h.cons subject (h.inside subject)) (h.pieces what)
  | .phrase wording => h.pieces wording
  | .block wording => h.pieces wording

theorem namePart (h : Related v w ofPart ofBody) : ∀ n : NamePart, ofPart (n.events v) (n.events w)
  | .ident _ => h.nil
  | .made _ arguments => h.pieces arguments

theorem name (h : Related v w ofPart ofBody) :
    ∀ n : List NamePart, ofPart (eventsOfName v n) (eventsOfName w n)
  | [] => h.nil
  | n :: rest => h.append (h.namePart n) (h.name rest)

theorem names (h : Related v w ofPart ofBody) :
    ∀ ns : List (List NamePart), ofPart (eventsOfNames v ns) (eventsOfNames w ns)
  | [] => h.nil
  | n :: ns => h.append (h.name n) (h.names ns)

theorem call (h : Related v w ofPart ofBody) : ∀ c : Call, ofPart (c.inside v) (c.inside w)
  | ⟨name, parameters, arguments, within, filter, _, windowed, _⟩ =>
    h.append (h.append (h.append (h.append (h.append (h.name name) (h.pieces parameters))
      (h.pieces arguments)) (h.pieces filter)) (h.pieces windowed)) (h.pieces within)

theorem ctes (h : Related v w ofPart ofBody) :
    ∀ cs : List Cte, ofPart (eventsOfCtes v cs) (eventsOfCtes w cs)
  | [] => h.nil
  | ⟨_, _, query, _⟩ :: cs => h.append (h.query query (h.parts query)) (h.ctes cs)

theorem parts (h : Related v w ofPart ofBody) : ∀ q : Query, q.PartsRelated v w ofPart ofBody
  | ⟨_, ctes, body, order, limit, settings, fetch, rest⟩ =>
    ⟨h.ctes ctes, h.body body, h.pieces order, h.pieces limit, h.pieces settings,
      h.pieces fetch, h.pieces rest⟩

theorem body (h : Related v w ofPart ofBody) : ∀ b : Body, ofBody (b.events v) (b.events w)
  | .select s => h.select s (h.selected s)
  | .combined l _ r => h.combined (h.body l) (h.body r)
  | .parenthesized q => h.other (h.query q (h.parts q))
  | .change s => h.other (h.statement s)
  | .other wording => h.other (h.pieces wording)

theorem selected (h : Related v w ofPart ofBody) : ∀ s : Select, ofPart (s.events v) (s.events w)
  | ⟨head, items, into, sources, _, clauses, windows, qualify, _, connect⟩ =>
    h.append (h.append (h.append (h.append (h.append (h.append (h.append (h.pieces head)
      (h.items items)) (h.pieces into)) (h.sources sources)) (h.pieces clauses))
      (h.pieces windows)) (h.pieces qualify)) (h.pieces connect)

theorem items (h : Related v w ofPart ofBody) :
    ∀ is : List Item, ofPart (eventsOfItems v is) (eventsOfItems w is)
  | [] => h.nil
  | .expr e _ :: is => h.append (h.cons e (h.inside e)) (h.items is)
  | .star qualifier options :: is =>
    h.append (h.append (h.pieces qualifier) (h.pieces options)) (h.items is)

theorem relation (h : Related v w ofPart ofBody) : ∀ r : Relation, ofPart (r.events v) (r.events w)
  | ⟨table, wording, _, options⟩ =>
    h.append (h.append (h.name table) (h.pieces wording)) (h.pieces options)

theorem joins (h : Related v w ofPart ofBody) :
    ∀ js : List Join, ofPart (eventsOfJoins v js) (eventsOfJoins w js)
  | [] => h.nil
  | ⟨operator, relation, condition⟩ :: js =>
    h.append (h.append (h.append (h.relation relation) (h.pieces operator)) (h.pieces condition))
      (h.joins js)

theorem source (h : Related v w ofPart ofBody) : ∀ s : Source, ofPart (s.events v) (s.events w)
  | ⟨relation, joins⟩ => h.append (h.relation relation) (h.joins joins)

theorem sources (h : Related v w ofPart ofBody) :
    ∀ ss : List Source, ofPart (eventsOfSources v ss) (eventsOfSources w ss)
  | [] => h.nil
  | s :: ss => h.append (h.source s) (h.sources ss)

theorem assignments (h : Related v w ofPart ofBody) :
    ∀ as : List Assignment, ofPart (eventsOfAssignments v as) (eventsOfAssignments w as)
  | [] => h.nil
  | ⟨targets, _, value⟩ :: as =>
    h.append (h.append (h.names targets) (h.cons value (h.inside value))) (h.assignments as)

theorem statement (h : Related v w ofPart ofBody) :
    ∀ s : Statement, ofPart (s.events v) (s.events w)
  | .query q => h.query q (h.parts q)
  | .insert head partition source rest =>
    h.append (h.append (h.append (h.pieces head) (h.pieces source)) (h.pieces partition))
      (h.pieces rest)
  | .update _ target before assignments after rest =>
    h.append (h.append (h.append (h.append (h.source target) (h.assignments assignments))
      (h.sources before)) (h.sources after)) (h.pieces rest)
  | .delete tables _ sources rest =>
    h.append (h.append (h.names tables) (h.sources sources)) (h.pieces rest)
  | .other wording => h.pieces wording

end

end Related

end EmbeddedSql.Sql
