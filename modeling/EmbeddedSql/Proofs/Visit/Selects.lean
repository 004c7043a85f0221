import EmbeddedSql.Sql.Visit.Nesting
import Mathlib.Algebra.Order.Group.Multiset
import Mathlib.Tactic.Abel

/-! The `SELECT`s that the walk in a reader's order meets.

In a part of a tree they are those of the outermost queries there, one query after the other,
in the order in which the full walk enters them (`selects_related`). Compared with the full walk,
the other one changes the order and passes over what stands behind the keys of the order of a
query; `selects_perm` says that nothing else is lost and nothing is met twice. -/
namespace EmbeddedSql.Sql

@[simp] theorem selectsIn_nil : selectsIn [] = [] := rfl

@[simp] theorem selectsIn_append (es fs : List Event) :
    selectsIn (es ++ fs) = selectsIn es ++ selectsIn fs := List.filterMap_append

@[simp] theorem selectsIn_expr (e : Expr) (es : List Event) :
    selectsIn (.expr e :: es) = selectsIn es := rfl

@[simp] theorem selectsIn_select (s : Select) (es : List Event) :
    selectsIn (.select s :: es) = s :: selectsIn es := rfl

@[simp] theorem selectsIn_enter (q : Query) (es : List Event) :
    selectsIn (.enter q :: es) = selectsIn es := rfl

@[simp] theorem selectsIn_leave (es : List Event) : selectsIn (.leave :: es) = selectsIn es := rfl

/-! ### Outermost queries -/

/-- What the walk in a reader's order meets in a part of a tree are the `SELECT`s of the outermost
queries there, which the full walk enters in the same order. -/
theorem selects_related :
    Related .bodyFirst .full
      (fun a b => Bracketed .full b ∧ selectsIn a = (queriesIn 0 b).flatMap Query.selects)
      fun _ _ => True where
  nil := ⟨.nil, rfl⟩
  append := by
    intro a b c d hab hcd
    refine ⟨hab.1.append hcd.1, ?_⟩
    rw [selectsIn_append, hab.1.queriesIn_append, List.flatMap_append, hab.2, hcd.2]
  expr e := ⟨.expr e .nil, rfl⟩
  query q _ := by
    refine ⟨.query q (Bracketed.inside .full q) .nil, ?_⟩
    rw [Bracketed.queriesIn_query, List.flatMap_singleton]
    simp [Query.selects]
  select _ _ := trivial
  combined _ _ := trivial
  other _ := trivial

theorem selects_pieces (ps : List Piece) : selectsIn (eventsOfPieces .bodyFirst ps) =
    (queriesIn 0 (eventsOfPieces .full ps)).flatMap Query.selects := (selects_related.pieces ps).2

theorem selects_statement (s : Statement) : selectsIn (s.events .bodyFirst) =
    (queriesIn 0 (s.events .full)).flatMap Query.selects := (selects_related.statement s).2

theorem selects_select (s : Select) : selectsIn (s.events .bodyFirst) =
    (queriesIn 0 (s.events .full)).flatMap Query.selects := (selects_related.selected s).2

theorem selects_ctes (cs : List Cte) : selectsIn (eventsOfCtes .bodyFirst cs) =
    (cs.map Cte.query).flatMap Query.selects := by
  rw [(selects_related.ctes cs).2, queriesIn_ctes]

/-- The `SELECT`s of a query: those of its body, then of the queries that it names, then of
those in the keys of its order. -/
theorem selects_query (q : Query) : q.selects =
    selectsIn (q.body.events .bodyFirst) ++ (q.ctes.map Cte.query).flatMap Query.selects ++
      (queriesIn 0 (eventsOfPieces .full q.order)).flatMap Query.selects := by
  obtain ⟨recursive, ctes, body, order, limit, settings, fetch, rest⟩ := q
  rw [Query.selects, Query.inside, if_pos rfl, selectsIn_append, selectsIn_append, selects_ctes,
    selects_pieces]

/-! ### What is passed over -/

/-- The queries that are entered. -/
def enteredIn (events : List Event) : List Query :=
  events.filterMap fun
    | .enter q => some q
    | _ => none

@[simp] theorem enteredIn_append (es fs : List Event) :
    enteredIn (es ++ fs) = enteredIn es ++ enteredIn fs := List.filterMap_append

@[simp] theorem enteredIn_enter (q : Query) (es : List Event) :
    enteredIn (.enter q :: es) = q :: enteredIn es := rfl

@[simp] theorem enteredIn_select (s : Select) (es : List Event) :
    enteredIn (.select s :: es) = enteredIn es := rfl

/-- What a query holds behind the keys of its order: how many rows there are, and the clauses
behind that. -/
def Query.behindOrder (q : Query) : List Event :=
  eventsOfPieces .full q.limit ++ eventsOfPieces .full q.fetch ++ eventsOfPieces .full q.settings
    ++ eventsOfPieces .full q.rest

/-- The `SELECT`s behind the keys of the order of some queries. -/
def selectsBehind (qs : List Query) : List Select := qs.flatMap fun q => selectsIn q.behindOrder

/-- The `SELECT`s that the walk in a reader's order passes over: those behind the keys of the
order of the query itself, and of each query that it enters. -/
def Query.passedOver (q : Query) : List Select :=
  selectsBehind (q :: enteredIn (q.inside .bodyFirst))

@[simp] theorem selectsBehind_append (ps qs : List Query) :
    selectsBehind (ps ++ qs) = selectsBehind ps ++ selectsBehind qs := List.flatMap_append

theorem selectsBehind_cons (q : Query) (qs : List Query) :
    selectsBehind (q :: qs) = selectsIn q.behindOrder ++ selectsBehind qs := List.flatMap_cons

/-- The full walk meets the same `SELECT`s and those that are passed over. -/
def Covers (a b : List Event) : Prop :=
  (selectsIn b : Multiset Select) = selectsIn a + selectsBehind (enteredIn a)

namespace Covers

theorem append {a b c d : List Event} (hab : Covers a b) (hcd : Covers c d) :
    Covers (a ++ c) (b ++ d) := by
  unfold Covers at hab hcd ⊢
  simp only [selectsIn_append, enteredIn_append, selectsBehind_append, ← Multiset.coe_add]
  rw [hab, hcd]
  abel

/-- What holds of the parts of a query is enough to go through it. -/
theorem inside_of_parts {q : Query} (h : q.PartsRelated .bodyFirst .full Covers Covers) :
    (selectsIn (q.inside .full) : Multiset Select) = q.selects + q.passedOver := by
  have hctes := h.ctes
  have hbody := h.body
  have horder := h.order
  unfold Covers at hctes hbody horder
  obtain ⟨recursive, ctes, body, order, limit, settings, fetch, rest⟩ := q
  simp only [Query.passedOver, selectsBehind_cons, selectsBehind_append, Query.selects,
    Query.inside, Query.behindOrder, if_true, reduceCtorEq, if_false, selectsIn_append,
    enteredIn_append, ← Multiset.coe_add] at hctes hbody horder ⊢
  rw [hctes, hbody, horder]
  abel

theorem related : Related .bodyFirst .full Covers Covers where
  nil := rfl
  append := append
  expr _ := rfl
  query q h := by
    have := inside_of_parts h
    unfold Covers
    simpa [enteredIn, Query.selects, Query.passedOver] using this
  select s h := by
    unfold Covers at h ⊢
    simp [← Multiset.cons_coe, h]
  combined := append
  other h := h

end Covers

/-- **Nothing is lost but what is passed over, and nothing is met twice.** -/
theorem selects_perm (q : Query) :
    (selectsIn (q.inside .full)).Perm (q.selects ++ q.passedOver) := by
  rw [← Multiset.coe_eq_coe, ← Multiset.coe_add]
  exact Covers.inside_of_parts (Covers.related.parts q)

end EmbeddedSql.Sql
