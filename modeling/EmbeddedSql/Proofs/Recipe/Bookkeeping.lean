import EmbeddedSql.Proofs.Recipe.FirstStatement

/-! What recipes note over many visits.

A recipe is visited again and again, with any parts of any documents, those that an earlier visit
gave back among them. Of each recipe one fact is needed: what one visit adds to a table, and what
it makes of the visited part (`Notes`). What it adds does not depend on the table, so the table of a
whole run is what the visits have noted, one behind the other, and no visit touches the rows of
those before it (`Notes.run`). `visits_keep_books` says so of the three recipes that have tables. -/
namespace EmbeddedSql.Recipe

open Sql Text Call Engine

/-! ### Many visits -/

/-- A part of a document and where it was found. -/
structure Visit where
  host : Host
  location : Location

variable {R Row : Type}

/-- What the visits of a recipe give back, one after the other, and the recipe behind them. -/
def visitAll (visit : R → Host → Location → Host × R) (r : R) : List Visit → List Host × R
  | [] => ([], r)
  | v :: vs =>
    let (n, r) := visit r v.host v.location
    let (ns, r) := visitAll visit r vs
    (n :: ns, r)

/-- What one visit does: `noted` is added to the rows, and does not depend on the rows that are
there; what is given back is to the visited part as `Back` says. -/
structure Notes (visit : R → Host → Location → Host × R) (rows : R → List Row)
    (noted : R → Host → Location → List Row) (Back : List Row → Host → Host → Prop) : Prop where
  rows_visit : ∀ r h l, rows (visit r h l).2 = rows r ++ noted r h l
  noted_visit : ∀ r h l, noted (visit r h l).2 = noted r
  back : ∀ r h l, Back (noted r h l) h (visit r h l).1

/-- What a run of visits does. -/
theorem Notes.run {visit : R → Host → Location → Host × R} {rows : R → List Row}
    {noted : R → Host → Location → List Row} {Back : List Row → Host → Host → Prop}
    (h : Notes visit rows noted Back) (r : R) (vs : List Visit) :
    rows (visitAll visit r vs).2 = rows r ++ vs.flatMap (fun v => noted r v.host v.location) ∧
      List.Forall₂ (fun v n => Back (noted r v.host v.location) v.host n) vs
        (visitAll visit r vs).1 := by
  induction vs generalizing r with
  | nil => exact ⟨(List.append_nil _).symm, .nil⟩
  | cons v vs ih =>
    obtain ⟨hrows, hback⟩ := ih (visit r v.host v.location).2
    rw [h.noted_visit] at hrows hback
    rw [h.rows_visit, List.append_assoc] at hrows
    exact ⟨hrows, .cons (h.back r v.host v.location) hback⟩

/-! ### Markers -/

/-- A search gives a part of a document back with its marker if it has `found` something there,
and as it was if it has not. A marker that is there already is not set again. -/
structure Marked (found : Prop) (h n : Host) : Prop where
  kind : n.kind = h.kind
  markers : n.found = h.found ∨ none ∉ h.found ∧ n.found = h.found ++ [none]
  marked_iff : none ∈ n.found ↔ found ∨ none ∈ h.found
  unmoved : ¬found → n = h

theorem Marked.same {found : Prop} (h : Host) (hnot : ¬found) : Marked found h h where
  kind := rfl
  markers := .inl rfl
  marked_iff := by simp [hnot]
  unmoved _ := rfl

theorem Marked.markFound {found : Prop} (h : Host) (hfound : found) :
    Marked found h (h.markFound none) := by
  rw [Host.markFound]
  split
  next hin =>
    rw [List.contains_iff_mem] at hin
    exact ⟨rfl, .inl rfl, by simp [hfound, hin], fun hnot => absurd hfound hnot⟩
  next hout =>
    rw [List.contains_iff_mem] at hout
    exact ⟨rfl, .inr ⟨hout, rfl⟩, by simp [hfound], fun hnot => absurd hfound hnot⟩

/-- A visit of a search marks the part if there is something to note. -/
theorem Marked.ite (notes : List Row) (h : Host) :
    Marked (notes ≠ []) h (if notes.isEmpty then h else h.markFound none) := by
  split
  next hempty => exact .same h (not_not.mpr (List.isEmpty_iff.mp hempty))
  next hne => exact .markFound h fun hnil => hne (List.isEmpty_iff.mpr hnil)

/-! ### What a visit notes -/

/-- The uses of the statement that a part is viewed as, if it is looked at. -/
def usesNoted (e : Engine) (h : Host) (l : Location) : List Usage.Row :=
  if FindSql.admits h l then (e.view? h).elim [] fun v => Usage.rows v.statement l else []

/-- The calls in that statement that match. -/
def callsNoted (e : Engine) (p : Pattern) (h : Host) (l : Location) : List Match :=
  (e.view? h).elim [] fun v => Call.find p v.statement l

/-- The text of the part, once for each call that matches. -/
def queriesNoted (e : Engine) (p : Pattern) (h : Host) (l : Location) : List QueryRow :=
  (e.view? h).elim [] fun v => List.replicate (Call.count p v.statement) ⟨l.slashed, h.text⟩

theorem find_map_query (p : Pattern) (s : Statement) (l : Location) (text : String) :
    (Call.find p s l).map (fun c => (⟨c.path, text⟩ : QueryRow)) =
      List.replicate (Call.count p s) ⟨l.slashed, text⟩ := by
  rw [Call.find, List.map_map, Call.count, List.countP_eq_length_filter, ← List.map_const']
  rfl

theorem callsNoted_map_query (e : Engine) (p : Pattern) (h : Host) (l : Location) :
    (callsNoted e p h l).map (fun c => (⟨c.path, h.text⟩ : QueryRow)) = queriesNoted e p h l := by
  rw [callsNoted, queriesNoted]
  cases e.view? h with
  | none => rfl
  | some v => exact find_map_query p v.statement l h.text

/-! ### What a visit does -/

theorem FindSql.notes :
    Notes FindSql.visit (·.used.rows) (fun r => usesNoted r.engine)
      fun noted => Marked (noted ≠ []) where
  rows_visit r h l := by
    rw [FindSql.used_visit, Table.insertAll]
    rfl
  noted_visit r h l := by
    rw [FindSql.visit]
    split <;> rfl
  back r h l := by
    have hnode : (r.visit h l).1 = if (r.found h l).isEmpty then h else h.markFound none := by
      rw [FindSql.visit]
      split <;> rfl
    rw [hnode]
    exact .ite _ h

theorem FindFunction.settings_visit (r : FindFunction) (h : Host) (l : Location) :
    (r.visit h l).2.engine = r.engine ∧ (r.visit h l).2.pattern = r.pattern := by
  rw [visit]
  split <;> exact ⟨rfl, rfl⟩

theorem FindFunction.notes :
    Notes FindFunction.visit (·.functions.rows) (fun r => callsNoted r.engine r.pattern)
      fun noted => Marked (noted ≠ []) where
  rows_visit r h l := by
    rw [FindFunction.functions_visit, Table.insertAll]
    rfl
  noted_visit r h l := by
    obtain ⟨hengine, hpattern⟩ := r.settings_visit h l
    rw [hengine, hpattern]
  back r h l := by
    have hnode : (r.visit h l).1 = if (r.found h l).isEmpty then h else h.markFound none := by
      rw [FindFunction.visit]
      split <;> rfl
    rw [hnode]
    exact .ite _ h

theorem FindFunction.notes_queries :
    Notes FindFunction.visit (·.queries.rows) (fun r => queriesNoted r.engine r.pattern)
      fun _ _ _ => True where
  rows_visit r h l := by
    rw [← callsNoted_map_query, FindFunction.visit]
    split
    next hempty =>
      have hnone : callsNoted r.engine r.pattern h l = [] := List.isEmpty_iff.mp hempty
      rw [hnone, List.map_nil, List.append_nil]
    next => rfl
  noted_visit r h l := by
    obtain ⟨hengine, hpattern⟩ := r.settings_visit h l
    rw [hengine, hpattern]
  back _ _ _ := trivial

/-- A revision leaves the markers as they are. -/
theorem found_revise (e : Engine) (v : View) (r : Revision) :
    (e.revise v r).found = v.host.found := by
  rw [revise]
  split
  next n hn =>
    obtain ⟨sql, -, -, rfl⟩ := tryRevise_eq_ok_iff.mp hn
    split
    · rfl
    · exact (v.host.withSql_carries e.style sql).found
  next => rfl

theorem ChangeFunctionName.notes :
    Notes ChangeFunctionName.visit (·.queries.rows)
      (fun r => queriesNoted r.engine r.change.pattern)
      fun noted h n => n.found = h.found ∧ (noted = [] → n = h) where
  rows_visit r h l := by
    rw [ChangeFunctionName.visit, queriesNoted]
    cases r.engine.view? h with
    | none => exact (List.append_nil _).symm
    | some v =>
      simp only [Option.elim_some]
      split
      next hnone => rw [hnone, List.replicate_zero, List.append_nil]
      next => rfl
  noted_visit r h l := by
    rw [ChangeFunctionName.visit]
    split
    · rfl
    · simp only []
      split <;> rfl
  back r h l := by
    rw [ChangeFunctionName.visit, queriesNoted]
    cases hview : r.engine.view? h with
    | none => exact ⟨rfl, fun _ => rfl⟩
    | some v =>
      simp only [Option.elim_some]
      split
      next => exact ⟨rfl, fun _ => rfl⟩
      next hcalls =>
        refine ⟨?_, fun hnil => absurd (by simpa using hnil) hcalls⟩
        rw [found_revise, host_of_view? hview]

/-! ### What many visits do -/

/-- What becomes of a table over many visits: its rows are what each visit has noted, one behind
the other, and what has been noted stays where it is. -/
structure Ledger (rowsAfter : List Visit → List Row) (noted : Host → Location → List Row) :
    Prop where
  rows_eq : ∀ vs, rowsAfter vs = vs.flatMap fun v => noted v.host v.location
  prefix_append : ∀ vs ws, rowsAfter vs <+: rowsAfter (vs ++ ws)

theorem Notes.ledger {visit : R → Host → Location → Host × R} {rows : R → List Row}
    {noted : R → Host → Location → List Row} {Back : List Row → Host → Host → Prop}
    (h : Notes visit rows noted Back) {r : R} (hempty : rows r = []) :
    Ledger (fun vs => rows (visitAll visit r vs).2) (noted r) := by
  have hrows (vs : List Visit) :
      rows (visitAll visit r vs).2 = vs.flatMap fun v => noted r v.host v.location := by
    rw [(h.run r vs).1, hempty, List.nil_append]
  refine ⟨hrows, fun vs ws => ?_⟩
  rw [hrows, hrows, List.flatMap_append]
  exact List.prefix_append ..

/-- The search for uses notes the uses of every part that it admits and that has a view, and marks
the parts in which there are any. -/
structure FindSql.Books (e : Engine) : Prop where
  used : Ledger (fun vs => (visitAll visit (new e) vs).2.used.rows) (usesNoted e)
  marked : ∀ vs, List.Forall₂ (fun v n => Marked (usesNoted e v.host v.location ≠ []) v.host n)
    vs (visitAll visit (new e) vs).1

/-- The search for calls notes the calls of every part that has a view, and for each of them the
query under the same path, and marks the parts in which there are any. -/
structure FindFunction.Books (e : Engine) (r : FindFunction) : Prop where
  functions : Ledger (fun vs => (visitAll visit r vs).2.functions.rows) (callsNoted e r.pattern)
  queries : Ledger (fun vs => (visitAll visit r vs).2.queries.rows) (queriesNoted e r.pattern)
  paths : ∀ vs, (visitAll visit r vs).2.queries.rows.map QueryRow.path =
    (visitAll visit r vs).2.functions.rows.map Match.path
  marked : ∀ vs, List.Forall₂
    (fun v n => Marked (callsNoted e r.pattern v.host v.location ≠ []) v.host n) vs
    (visitAll visit r vs).1

/-- Renaming notes the query as it was once for each call that matches, whether or not the calls
can be renamed, and leaves the markers alone, and the part too if there is no such call. -/
structure ChangeFunctionName.Books (e : Engine) (r : ChangeFunctionName) : Prop where
  queries : Ledger (fun vs => (visitAll visit r vs).2.queries.rows)
    (queriesNoted e r.change.pattern)
  back : ∀ vs, List.Forall₂
    (fun v n => n.found = v.host.found ∧
      (queriesNoted e r.change.pattern v.host v.location = [] → n = v.host)) vs
    (visitAll visit r vs).1

theorem FindFunction.books {e : Engine} {pattern : String} {r : FindFunction}
    (h : FindFunction.new e pattern = .ok r) : FindFunction.Books e r := by
  obtain ⟨rfl, hfunctions, hqueries⟩ :
      r.engine = e ∧ r.functions.rows = [] ∧ r.queries.rows = [] := by
    rw [FindFunction.new] at h
    split at h
    · cases h
      exact ⟨rfl, rfl, rfl⟩
    · cases h
  have hcalls := FindFunction.notes.ledger hfunctions
  have htexts := FindFunction.notes_queries.ledger hqueries
  refine ⟨hcalls, htexts, fun vs => ?_, fun vs => (FindFunction.notes.run r vs).2⟩
  rw [hcalls.rows_eq, htexts.rows_eq, List.map_flatMap, List.map_flatMap]
  simp only [← callsNoted_map_query, List.map_map, Function.comp_def]

theorem ChangeFunctionName.books {e : Engine} {pattern newName : String} {r : ChangeFunctionName}
    (h : ChangeFunctionName.new e pattern newName = .ok r) : ChangeFunctionName.Books e r := by
  obtain ⟨rfl, hqueries⟩ : r.engine = e ∧ r.queries.rows = [] := by
    rw [ChangeFunctionName.new] at h
    split at h
    · cases h
      exact ⟨rfl, rfl⟩
    · cases h
  exact ⟨ChangeFunctionName.notes.ledger hqueries,
    fun vs => (ChangeFunctionName.notes.run r vs).2⟩

/-- **Over any visits, recipes keep their books.** -/
theorem visits_keep_books {e : Engine} {pattern old newName : String} {finder : FindFunction}
    {changer : ChangeFunctionName} (hfinder : FindFunction.new e pattern = .ok finder)
    (hchanger : ChangeFunctionName.new e old newName = .ok changer) :
    FindSql.Books e ∧ FindFunction.Books e finder ∧ ChangeFunctionName.Books e changer :=
  ⟨⟨FindSql.notes.ledger rfl, fun vs => (FindSql.notes.run (.new e) vs).2⟩,
    FindFunction.books hfinder, ChangeFunctionName.books hchanger⟩

/-- Visited twice, a query is noted twice, also by a renaming that gives no query. -/
theorem visits_keep_books_twice :
    ∃ finder changer, FindFunction.new defaultEngine "nvl" = .ok finder ∧
      ChangeFunctionName.new defaultEngine "nvl" "my func" = .ok changer ∧
      FindSql.Books defaultEngine ∧ FindFunction.Books defaultEngine finder ∧
      ChangeFunctionName.Books defaultEngine changer ∧
      (changer.visit twoQueries queryFile).1 = twoQueries ∧
      (visitAll ChangeFunctionName.visit changer
        [⟨twoQueries, queryFile⟩, ⟨twoQueries, queryFile⟩]).2.queries.rows =
          [⟨"q.sql", twoQueries.text⟩, ⟨"q.sql", twoQueries.text⟩] := by
  have hread : Pattern.read "nvl" = .ok nvl := by cbv
  have hfinder : FindFunction.new defaultEngine "nvl" = .ok ⟨defaultEngine, nvl, queryTable,
      .empty "Database functions" "Functions called by queries found in the source."⟩ := by
    simp only [FindFunction.new, hread]
  have hchanger : ChangeFunctionName.new defaultEngine "nvl" "my func" =
      .ok (ChangeFunctionName.fromNvl "my func") := by
    simp only [ChangeFunctionName.new, hread, ChangeFunctionName.fromNvl]
  have hnoted : queriesNoted defaultEngine nvl twoQueries queryFile =
      [⟨"q.sql", twoQueries.text⟩] := by decide +kernel
  have hfails : ((ChangeFunctionName.fromNvl "my func").visit twoQueries queryFile).1 =
      twoQueries := by decide +kernel
  obtain ⟨huses, hcalls, hnames⟩ := visits_keep_books hfinder hchanger
  refine ⟨_, _, hfinder, hchanger, huses, hcalls, hnames, hfails, ?_⟩
  rw [hnames.queries.rows_eq, List.flatMap_cons, List.flatMap_singleton]
  exact congr (congrArg _ hnoted) hnoted

end EmbeddedSql.Recipe
