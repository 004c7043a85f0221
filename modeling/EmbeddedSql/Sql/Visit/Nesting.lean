import EmbeddedSql.Sql.Visit.Related

/-! Queries inside each other, as a walk meets them.

A walk that enters a query goes through all of it before it leaves it, and it leaves each query
that it enters (`Bracketed`). So the depth that a search counts is back at its old value behind
every part of a tree, and the outermost queries of two parts are those of the first and then
those of the second (`queriesIn_append`). The main result is `selects_eq`: what the walk in a
reader's order meets outside of the body at hand are the `SELECT`s of the outermost queries, one
query after the other. -/
namespace EmbeddedSql.Sql

/-- Events among which each query that is entered is gone through and left. -/
inductive Bracketed (w : Walk) : List Event → Prop
  | nil : Bracketed w []
  | expr (e : Expr) {es : List Event} : Bracketed w es → Bracketed w (.expr e :: es)
  | select (s : Select) {es : List Event} : Bracketed w es → Bracketed w (.select s :: es)
  | query (q : Query) {es : List Event} : Bracketed w (q.inside w) → Bracketed w es →
    Bracketed w (.enter q :: (q.inside w ++ .leave :: es))

namespace Bracketed
variable {w : Walk} {es fs : List Event}

theorem append (h : Bracketed w es) (k : Bracketed w fs) : Bracketed w (es ++ fs) := by
  induction h with
  | nil => exact k
  | expr e _ ih => exact .expr e ih
  | select s _ ih => exact .select s ih
  | @query q es hq _ _ ih =>
    have := query q hq ih
    simpa using this

/-- What holds of the parts of a query is enough to go through it. -/
theorem inside_of_parts {q : Query}
    (h : q.PartsRelated v w (fun _ b => Bracketed w b) fun _ b => Bracketed w b) :
    Bracketed w (q.inside w) := by
  obtain ⟨recursive, ctes, body, order, limit, settings, fetch, rest⟩ := q
  rw [Query.inside]
  split
  · exact (h.body.append h.ctes).append h.order
  · exact (((((h.ctes.append h.body).append h.order).append h.limit).append h.fetch).append
      h.settings).append h.rest

theorem related (v w : Walk) :
    Related v w (fun _ b => Bracketed w b) fun _ b => Bracketed w b where
  nil := .nil
  append := append
  expr e := .expr e .nil
  query q h := .query q (inside_of_parts h) .nil
  select s h := .select s h
  combined := append
  other h := h

theorem inside (w : Walk) (q : Query) : Bracketed w (q.inside w) :=
  inside_of_parts ((related w w).parts q)

/-- Behind the entering of a query stands all that it holds, and then its leaving. -/
theorem exists_leave (h : Bracketed w es) {before behind : List Event} {q : Query}
    (hes : es = before ++ .enter q :: behind) :
    ∃ after, behind = q.inside w ++ .leave :: after := by
  induction h generalizing before behind with
  | nil => simp at hes
  | expr e _ ih =>
    cases before with
    | nil => cases hes
    | cons b before => exact ih (List.cons.inj hes).2
  | select s _ ih =>
    cases before with
    | nil => cases hes
    | cons b before => exact ih (List.cons.inj hes).2
  | @query p es hp _ ihp ih =>
    cases before with
    | nil =>
      cases hes
      exact ⟨es, rfl⟩
    | cons b before =>
      -- The entering stands inside the query in front or behind it.
      have hrest := (List.cons.inj hes).2
      rcases List.append_eq_append_iff.mp hrest with ⟨gap, hbefore, hbehind⟩ | ⟨gap, hin, hout⟩
      · cases gap with
        | nil => cases hbehind
        | cons g gap => exact ih (List.cons.inj hbehind).2
      · cases gap with
        | nil => cases hout
        | cons g gap =>
          obtain ⟨rfl, rfl⟩ := List.cons.inj hout
          obtain ⟨after, rfl⟩ := ihp hin
          exact ⟨after ++ .leave :: es, by simp⟩

/-! ### Searches -/

/-- Below a query that is open, none is an outermost one. -/
theorem queriesIn_succ (h : Bracketed w es) (depth : Nat) (rest : List Event) :
    queriesIn (depth + 1) (es ++ rest) = queriesIn (depth + 1) rest := by
  induction h generalizing depth rest with
  | nil => rfl
  | expr e _ ih => exact ih depth rest
  | select s _ ih => exact ih depth rest
  | query q _ _ ihq ih =>
    rw [List.cons_append, queriesIn, if_neg (Nat.succ_ne_zero depth), List.append_assoc, ihq]
    exact ih depth rest

theorem queriesIn_append (h : Bracketed w es) (rest : List Event) :
    queriesIn 0 (es ++ rest) = queriesIn 0 es ++ queriesIn 0 rest := by
  induction h with
  | nil => rfl
  | expr e _ ih => exact ih
  | select s _ ih => exact ih
  | @query q es hq _ _ ih =>
    have hpass (fs : List Event) :
        queriesIn 0 (.enter q :: (q.inside w ++ .leave :: fs)) = q :: queriesIn 0 fs := by
      rw [queriesIn, if_pos rfl, hq.queriesIn_succ 0]
      rfl
    rw [List.cons_append, List.append_assoc, List.cons_append, hpass, hpass, ih,
      List.cons_append]

theorem queriesIn_query (q : Query) (w : Walk) :
    queriesIn 0 (.enter q :: q.inside w ++ [.leave]) = [q] := by
  rw [List.cons_append, queriesIn, if_pos rfl, (inside w q).queriesIn_succ 0]
  rfl

/-- An outermost query is entered. -/
theorem enter_mem_of_mem_queriesIn {depth : Nat} {es : List Event} {q : Query}
    (h : q ∈ queriesIn depth es) : .enter q ∈ es := by
  induction es generalizing depth with
  | nil => cases h
  | cons e es ih =>
    cases e with
    | expr e => exact .tail _ (ih h)
    | select s => exact .tail _ (ih h)
    | leave => exact .tail _ (ih h)
    | enter p =>
      rw [queriesIn] at h
      split at h
      · rcases List.mem_cons.mp h with rfl | h
        · exact .head _
        · exact .tail _ (ih h)
      · exact .tail _ (ih h)

/-- A query is met in fewer steps than what it stands in. -/
theorem length_inside_lt (h : Bracketed w es) {q : Query} (hq : q ∈ queriesIn 0 es) :
    (q.inside w).length < es.length := by
  obtain ⟨before, behind, hes⟩ := List.append_of_mem (enter_mem_of_mem_queriesIn hq)
  obtain ⟨after, rfl⟩ := h.exists_leave hes
  rw [hes]
  simp only [List.length_append, List.length_cons]
  omega

end Bracketed

/-! ### Measures -/

theorem bracketed_pieces (w : Walk) (ps : List Piece) : Bracketed w (eventsOfPieces w ps) :=
  (Bracketed.related w w).pieces ps

theorem bracketed_select (w : Walk) (s : Select) : Bracketed w (s.events w) :=
  (Bracketed.related w w).selected s

theorem bracketed_statement (w : Walk) (s : Statement) : Bracketed w (s.events w) :=
  (Bracketed.related w w).statement s

theorem Query.length_body_le (q : Query) :
    (q.body.events .full).length ≤ (q.inside .full).length := by
  obtain ⟨recursive, ctes, body, order, limit, settings, fetch, rest⟩ := q
  simp only [Query.inside, reduceCtorEq, if_false, List.length_append]
  omega

theorem queriesIn_ctes (w : Walk) (cs : List Cte) :
    queriesIn 0 (eventsOfCtes w cs) = cs.map Cte.query := by
  induction cs with
  | nil => rfl
  | cons c cs ih =>
    obtain ⟨label, mode, query, origin⟩ := c
    have hfirst : Bracketed w (.enter query :: query.inside w ++ [.leave]) :=
      .query query (Bracketed.inside w query) .nil
    rw [eventsOfCtes, Cte.events, hfirst.queriesIn_append, Bracketed.queriesIn_query, ih]
    rfl

/-- A query that is named is met in fewer steps than the query that names it. -/
theorem Query.length_inside_lt_of_mem_ctes {q inner : Query} (h : inner ∈ q.ctes.map Cte.query) :
    (inner.inside .full).length < (q.inside .full).length := by
  obtain ⟨recursive, ctes, body, order, limit, settings, fetch, rest⟩ := q
  have hlt := ((Bracketed.related .full .full).ctes ctes).length_inside_lt
    ((queriesIn_ctes .full ctes).symm ▸ h)
  simp only [Query.inside, reduceCtorEq, if_false, List.length_append]
  omega

/-- So is a query in the keys of its order. -/
theorem Query.length_inside_lt_of_mem_order {q inner : Query}
    (h : inner ∈ queriesIn 0 (eventsOfPieces .full q.order)) :
    (inner.inside .full).length < (q.inside .full).length := by
  obtain ⟨recursive, ctes, body, order, limit, settings, fetch, rest⟩ := q
  have hlt := (bracketed_pieces .full order).length_inside_lt h
  simp only [Query.inside, reduceCtorEq, if_false, List.length_append]
  omega

end EmbeddedSql.Sql
