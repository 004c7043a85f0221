import EmbeddedSql.Proofs.Call.Spelling

/-! Finding, counting and renaming agree.

All three look at the calls whose names match. A search finds each of them, in the order of the
walk (`find_agrees`). A renaming fails at the first one that it cannot replace
(`apply_eq_error_iff_firstFault`), and else it changes one place for each, but for those that overlap
others (`changes_agree`). -/
namespace EmbeddedSql.Call

open Sql Text

/-! ### Why a call is not replaced -/

/-- Where the words of a call's name stand in a text. -/
def nameSpan? (sql : String) (c : Sql.Call) : Option Span :=
  match (Name.idents c.name).head?, (Name.idents c.name).getLast? with
  | some first, some last => spanOf? sql first last
  | _, _ => none

/-- A call that cannot be replaced, and the error that this gives. -/
inductive Fault (sql : String) (c : Sql.Call) : RenamingError → Prop
  | noName : Name.idents c.name = [] → Fault sql c (.noName c.text)
  | noPlace : Name.idents c.name ≠ [] → nameSpan? sql c = none →
      Fault sql c (.noPlace (Name.text c.name))
  /-- The last word is not spelled out where the name should stand. -/
  | wrongPlace {last : Ident} {span : Span} : (Name.idents c.name).getLast? = some last →
      nameSpan? sql c = some span →
      ¬(lower last.value).toList <:+: (lower (String.ofList (span.slice sql.toList))).toList →
      Fault sql c (.wrongPlace (Name.text c.name) (String.ofList (span.slice sql.toList)))

/-- The first of some calls that cannot be replaced gives this error. -/
def FirstFault (sql : String) (calls : List Sql.Call) (f : RenamingError) : Prop :=
  ∃ before c after, calls = before ++ c :: after ∧ (∀ b ∈ before, ∀ g, ¬Fault sql b g) ∧
    Fault sql c f

theorem exists_ends {words : List Ident} (h : words ≠ []) :
    ∃ first last, words.head? = some first ∧ words.getLast? = some last :=
  ⟨words.head h, words.getLast h, List.head?_eq_some_head h, List.getLast?_eq_some_getLast h⟩

namespace Renaming

variable {r : Renaming} {sql : String} {s : Statement}

theorem replacement_eq_error_iff {c : Sql.Call} {f : RenamingError} :
    r.replacement sql c = .error f ↔ Fault sql c f := by
  constructor
  · intro h
    rw [replacement] at h
    split at h
    next first last hfirst hlast =>
      have hwords : Name.idents c.name ≠ [] := fun hnil => by simp [hnil] at hfirst
      have hspan : nameSpan? sql c = spanOf? sql first last := by rw [nameSpan?, hfirst, hlast]
      split at h
      next hnone =>
        cases h
        exact .noPlace hwords (hspan.trans hnone)
      next span hsome =>
        dsimp only at h
        split at h
        · cases h
        next hlost =>
          cases h
          exact .wrongPlace hlast (hspan.trans hsome) (occursIn_iff.not.mp hlost)
    next hends =>
      cases h
      refine .noName (by_contra fun hwords => ?_)
      obtain ⟨first, last, hfirst, hlast⟩ := exists_ends hwords
      exact hends first last hfirst hlast
  · intro h
    cases h with
    | noName hwords => simp [replacement, hwords]
    | noPlace hwords hspan =>
      obtain ⟨first, last, hfirst, hlast⟩ := exists_ends hwords
      simp only [nameSpan?, hfirst, hlast] at hspan
      simp only [replacement, hfirst, hlast, hspan]
    | wrongPlace hlast hspan hlost =>
      simp only [nameSpan?, hlast] at hspan
      split at hspan
      next first last hfirst heq =>
        cases heq
        simp only [replacement, hfirst, hlast, hspan]
        exact if_neg (occursIn_iff.not.mpr hlost)
      next => cases hspan

theorem replacement_eq_ok_iff {c : Sql.Call} :
    (∃ x, r.replacement sql c = .ok x) ↔ ∀ f, ¬Fault sql c f := by
  simp only [← replacement_eq_error_iff (r := r)]
  cases r.replacement sql c <;> simp

theorem apply_eq_error_iff_firstFault {f : RenamingError} :
    r.apply sql s = .error f ↔ FirstFault sql (r.matching s) f := by
  rw [apply_eq_error_iff, mapM_eq_error_iff]
  simp only [replacement_eq_error_iff, replacement_eq_ok_iff, FirstFault]

/-- It fails if there is a call that cannot be replaced. -/
theorem exists_apply_eq_error_iff :
    (∃ f, r.apply sql s = .error f) ↔ ∃ c ∈ r.matching s, ∃ f, Fault sql c f := by
  constructor
  · rintro ⟨f, h⟩
    obtain ⟨before, c, after, hcalls, -, hfault⟩ := apply_eq_error_iff_firstFault.mp h
    exact ⟨c, by simp [hcalls], f, hfault⟩
  · rintro ⟨c, hc, f, hfault⟩
    exact exists_error_of_replacement hc (replacement_eq_error_iff.mpr hfault)

end Renaming

/-! ### Which changes are made -/

/-- No byte stands in both. -/
def Apart (a b : Span) : Prop := ∀ o, a.contains o = true → b.contains o = false

theorem contains_iff {a : Span} {o : Nat} : a.contains o = true ↔ a.start ≤ o ∧ o < a.stop := by
  simp [Span.contains]

theorem Apart.symm {a b : Span} (h : Apart a b) : Apart b a := fun o hb =>
  Bool.eq_false_iff.mpr fun ha => Bool.false_ne_true ((h o ha).symm.trans hb)

theorem apart_of_le {a b : Span} (h : a.stop ≤ b.start) : Apart a b := by
  intro o ha
  rw [contains_iff] at ha
  rw [Bool.eq_false_iff, Ne, contains_iff]
  omega

/-- The one that starts first stops before the other. -/
theorem Apart.stop_le {a b : Span} (h : Apart a b) (hb : b.start < b.stop)
    (hle : a.start ≤ b.start) : a.stop ≤ b.start := by
  by_contra hlt
  have hmem := h b.start (contains_iff.mpr ⟨hle, Nat.lt_of_not_le hlt⟩)
  exact Bool.false_ne_true (hmem.symm.trans (contains_iff.mpr ⟨Nat.le_refl _, hb⟩))

namespace Kept

variable {all kept : List Replacement}

theorem length_le (h : Kept all kept) : kept.length ≤ all.length := by
  simpa using h.chosen.length_le

theorem eq_nil_iff (h : Kept all kept) : kept = [] ↔ all = [] := by
  constructor
  · rintro rfl
    refine List.eq_nil_iff_forall_not_mem.mpr fun x hx => ?_
    obtain ⟨k, hk, -⟩ := h.skipped x hx List.not_mem_nil
    cases hk
  · rintro rfl
    simpa using h.chosen

/-- All are kept if and only if no two of them overlap. -/
theorem length_eq_iff (h : Kept all kept) (hlong : ∀ x ∈ all, x.span.start < x.span.stop) :
    kept.length = all.length ↔ (all.map Replacement.span).Pairwise Apart := by
  rw [List.pairwise_map]
  constructor
  · intro hlength
    have hsorted := h.chosen.eq_of_length (by simpa using hlength)
    have hapart : kept.Pairwise fun a b => Apart a.span b.span := h.apart.imp apart_of_le
    rw [hsorted] at hapart
    exact ((List.mergeSort_perm ..).pairwise_iff fun hab => hab.symm).mp hapart
  · intro hapart
    have : Std.Symm fun a b : Replacement => Apart a.span b.span := ⟨fun _ _ => Apart.symm⟩
    -- A replacement that is left out would overlap one that is kept.
    have hkept : all ⊆ kept := by
      intro x hx
      by_contra hleft
      obtain ⟨k, hk, hbefore, hlt⟩ := h.skipped x hx hleft
      have hkx : Apart k.span x.span :=
        hapart.forall (List.mem_mergeSort.mp (h.chosen.subset hk)) hx fun heq => hleft (heq ▸ hk)
      exact Nat.not_lt.mpr (hkx.stop_le (hlong x hx) (le_start_of_before hbefore)) hlt
    have hnodup : all.Nodup := hapart.imp_of_mem fun hx _ hxy heq => by
      subst heq
      exact Nat.not_lt.mpr (hxy.stop_le (hlong _ hx) (Nat.le_refl _)) (hlong _ hx)
    exact Nat.le_antisymm h.length_le (hnodup.length_le_of_subset hkept)

end Kept

theorem nameSpan?_of_renames {r : Renaming} {sql : String} {c : Sql.Call} {x : Replacement}
    (h : Renames r sql c x) : nameSpan? sql c = some x.span := by
  obtain ⟨first, last, hfirst, hlast, hspan, -⟩ := h
  rw [nameSpan?, hfirst, hlast, ← hspan]

/-- Nothing changes in a text if nothing is put there. -/
theorem Parallel.eq_of_nil {read written : Nat} {old new : List Char} {back : List Replacement}
    (h : Parallel read written old new [] back) : new = old := by
  cases h
  rfl

namespace Renaming

variable {r : Renaming} {sql : String} {s : Statement}

theorem map_dotted_matching :
    (r.matching s).map (fun c => Name.dotted c.name) = (names s).filter r.pattern.matches := by
  rw [matching, names, List.filter_map]
  rfl

theorem length_matching : (r.matching s).length = count r.pattern s := by
  rw [count, List.countP_eq_length_filter, ← map_dotted_matching, List.length_map]

/-- A renaming that does not fail changes one place for each call, if no two names overlap, and
fewer if some do; but it makes no change only if there is no call. -/
theorem changes_agree {t : Renamed} (h : r.apply sql s = .ok t) :
    ∃ spans : List Span, (r.matching s).map (nameSpan? sql) = spans.map some ∧
      t.changes.length ≤ count r.pattern s ∧
      (t.changes.length = count r.pattern s ↔ spans.Pairwise Apart) ∧
      (t.changes = [] ↔ count r.pattern s = 0) ∧ (t.changes = [] → t.text = sql) := by
  obtain ⟨all, kept, back, hrenames, hkept, hparallel, hchanges⟩ := exists_parallel_of_apply h
  have hspans : (r.matching s).map (nameSpan? sql) = (all.map Replacement.span).map some := by
    rw [← List.forall₂_eq_eq_eq, List.map_map, List.forall₂_map_left_iff, List.forall₂_map_right_iff]
    exact hrenames.imp fun _ _ => nameSpan?_of_renames
  have hcount : count r.pattern s = all.length := by rw [← length_matching, hrenames.length_eq]
  have hlength : t.changes.length = kept.length := by
    rw [hchanges, List.length_map, hparallel.length_add.1]
  have hnil : t.changes = [] ↔ kept = [] := by
    rw [← List.length_eq_zero_iff, hlength, List.length_eq_zero_iff]
  refine ⟨all.map Replacement.span, hspans, ?_, ?_, ?_, fun hnone => ?_⟩
  · rw [hlength, hcount]
    exact hkept.length_le
  · rw [hlength, hcount]
    exact hkept.length_eq_iff fun x hx => (parts_of_forall₂ hrenames x hx).2
  · rw [hnil, hcount, List.length_eq_zero_iff]
    exact hkept.eq_nil_iff
  · obtain rfl := hnil.mp hnone
    exact String.toList_injective hparallel.eq_of_nil

/-- A search finds each call that matches, in the order of the walk. -/
theorem find_agrees (p : Pattern) (s : Statement) (l : Location) :
    (find p s l).length = count p s ∧
      (find p s l).map Match.function = ((names s).filter p.matches).map lower := by
  rw [find, count, List.countP_eq_length_filter]
  exact ⟨List.length_map _, List.map_map⟩

/-- **Searching, counting and renaming agree** on the calls that match. A search finds as many as are
counted, and in the order of the walk. A renaming looks at the same calls. It fails at the first of
them that it cannot replace, and else changes one place for each, or fewer if names overlap; but it
makes no change only if there is none. -/
theorem search_count_rename_agree (r : Renaming) (sql : String) (s : Statement) (l : Location) :
    ((find r.pattern s l).length = count r.pattern s ∧
      (find r.pattern s l).map Match.function = ((names s).filter r.pattern.matches).map lower) ∧
    (r.matching s).map (fun c => Name.dotted c.name) = (names s).filter r.pattern.matches ∧
    ((∃ f, r.apply sql s = .error f) ↔ ∃ c ∈ r.matching s, ∃ f, Fault sql c f) ∧
    (∀ f, r.apply sql s = .error f ↔ FirstFault sql (r.matching s) f) ∧
    ∀ t, r.apply sql s = .ok t →
      ∃ spans : List Span, (r.matching s).map (nameSpan? sql) = spans.map some ∧
        t.changes.length ≤ count r.pattern s ∧
        (t.changes.length = count r.pattern s ↔ spans.Pairwise Apart) ∧
        (t.changes = [] ↔ count r.pattern s = 0) ∧ (t.changes = [] → t.text = sql) :=
  ⟨find_agrees r.pattern s l, map_dotted_matching, exists_apply_eq_error_iff,
    fun _ => apply_eq_error_iff_firstFault, fun _ => changes_agree⟩

/-- A call that is there twice is replaced once. -/
example :
    let c : Sql.Call :=
      ⟨[.ident ⟨"nvl", none, some (⟨1, 1⟩, ⟨1, 4⟩)⟩], [], [], [], [], "", [], false⟩
    apply ⟨Engine.nvl, "coalesce"⟩ "nvl()" (.other [.expr (.call c), .expr (.call c)]) =
      .ok ⟨"coalesce()", [⟨0, 8⟩]⟩ := by cbv

end Renaming

end EmbeddedSql.Call
