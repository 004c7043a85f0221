import EmbeddedSql.Proofs.Usage.Coverage
import EmbeddedSql.Proofs.Visit.Columns
import EmbeddedSql.Text.Casing
import Mathlib.Data.List.Flatten

/-! To which table the columns of a `SELECT` count.

They all count to its first source, if that is a table. A column may have another source written
in front of it, though, and only its last word is looked at. `rows_attributed_iff` says when each
column stands under a table that it may be one of: if nothing in the items is a column of another
source by its words. Where sources are joined, the others are lost that way. -/
namespace EmbeddedSql.Usage

open Sql Text

/-! ### Sources by name -/

/-- What a source is called in front of its columns: by its second name, if it has one, or else by
the last word of its name. -/
def calledBy? (source : Source) : Option String :=
  match source.relation.label with
  | some label => some label.name.value
  | none => tableOf? source

/-- Whether some words name a source. The last one counts, in capitals or not. -/
def isNamedBy (source : Source) (words : List Ident) : Bool :=
  match words.getLast?, calledBy? source with
  | some word, some name => lower word.value = lower name
  | _, _ => false

/-- Whether a column may be one of a source: what stands in front of it names the source, or
nothing stands there. -/
def mayBeOf (source : Source) (column : List Ident) : Bool :=
  column.dropLast.isEmpty || isNamedBy source column.dropLast

/-! ### Columns and their rows -/

/-- The columns in an item, those inside queries left out. -/
def ownColumnsOf : Item → List (List Ident)
  | .expr e _ => e.ownColumns
  | .star .. => []

/-- The name under which a row tells of a column, if one does. -/
def told? (column : List Ident) : Option String := (lastWord? column).filter (· ≠ "")

/-- What an item speaks of, with only those columns of which `keep` holds. -/
def columnsKeeping (keep : List Ident → Bool) (i : Item) : List String :=
  match i with
  | .expr e _ => (e.ownColumns.filter keep).filterMap told?
  | .star .. => (columnsOf i).filter (· ≠ "")

/-- The rows of a `SELECT`, with only those columns of which `keep` holds beside its first
source. -/
def rowsKeeping (keep : Source → List Ident → Bool) (l : Location) (s : Select) : List Row :=
  match s.sources.head? with
  | none => []
  | some source =>
    match tableOf? source with
    | none => []
    | some table =>
      (s.items.flatMap (columnsKeeping (keep source))).map fun column =>
        ⟨l.slashed, l.line, l.revision, ⟨.select, table, some column⟩⟩

/-- The rows of a `SELECT` if no column counts to a source that it cannot be one of. -/
def attributed : Location → Select → List Row := rowsKeeping mayBeOf

theorem filter_columnsOf (i : Item) :
    (columnsOf i).filter (· ≠ "") = columnsKeeping (fun _ => true) i := by
  cases i with
  | star qualifier options => rfl
  | expr e label =>
    rw [columnsOf, columnsKeeping, columns_eq_filterMap, List.filter_true, List.filter_filterMap]
    rfl

/-- A `SELECT` keeps all columns, whatever stands in front of them. -/
theorem ofSelect_eq_rowsKeeping (l : Location) (s : Select) :
    ofSelect (.new l .select) s = rowsKeeping (fun _ _ => true) l s := by
  cases htable : s.sources.head?.bind tableOf? with
  | some table =>
    obtain ⟨source, hsource, hname⟩ := Option.bind_eq_some_iff.mp htable
    simp only [ofSelect_of_table l htable, List.filter_flatMap, filter_columnsOf, rowsKeeping,
      hsource, hname]
  | none =>
    have hnone : ofSelect (.new l .select) s = [] := by
      obtain ⟨_, items, _, sources, _, _, _, _, _, _⟩ := s
      simp only at htable
      simp only [ofSelect, htable]
    rw [hnone, rowsKeeping]
    cases hsource : s.sources.head? with
    | none => rfl
    | some source =>
      rw [hsource] at htable
      have hname : tableOf? source = none := htable
      simp only [hname]

/-! ### What is left out -/

/-- Choosing from fewer members gives the same exactly if those left out give nothing. -/
theorem filterMap_filter_eq_iff {α β : Type} (f : α → Option β) (keep : α → Bool) (xs : List α) :
    (xs.filter keep).filterMap f = xs.filterMap f ↔
      ∀ x ∈ xs, f x ≠ none → keep x = true := by
  induction xs with
  | nil => simp
  | cons x xs ih =>
    rw [List.forall_mem_cons, ← ih]
    cases hkeep : keep x with
    | true =>
      rw [List.filter_cons_of_pos hkeep, List.filterMap_cons, List.filterMap_cons]
      cases f x <;> simp
    | false =>
      rw [List.filter_cons_of_neg (by simp [hkeep]), List.filterMap_cons]
      cases hx : f x with
      | none => simp
      | some y =>
        have hle := ((List.filter_sublist (p := keep) (l := xs)).filterMap f).length_le
        refine iff_of_false (fun heq => ?_) (by simp)
        rw [heq, List.length_cons] at hle
        omega

/-- Two lists put together from parts of each other are the same exactly if the parts are. -/
theorem flatMap_eq_iff_of_sublist {α β : Type} {f g : α → List β} {xs : List α}
    (h : ∀ x ∈ xs, (g x).Sublist (f x)) :
    xs.flatMap g = xs.flatMap f ↔ ∀ x ∈ xs, g x = f x := by
  induction xs with
  | nil => simp
  | cons x xs ih =>
    rw [List.forall_mem_cons] at h ⊢
    rw [List.flatMap_cons, List.flatMap_cons, ← ih h.2]
    refine ⟨fun heq => ?_, fun ⟨hx, hxs⟩ => by rw [hx, hxs]⟩
    have hlength := congrArg List.length heq
    rw [List.length_append, List.length_append] at hlength
    have hrest := (List.Sublist.flatMap_right xs h.2).length_le
    have hfirst := h.1.length_le
    exact List.append_inj heq (by omega)

theorem columnsKeeping_sublist (keep : List Ident → Bool) (i : Item) :
    (columnsKeeping keep i).Sublist (columnsKeeping (fun _ => true) i) := by
  cases i with
  | star qualifier options => exact .refl _
  | expr e label =>
    rw [columnsKeeping, columnsKeeping, List.filter_true]
    exact List.filter_sublist.filterMap told?

theorem columnsKeeping_eq_iff (keep : List Ident → Bool) (items : List Item) :
    (∀ i ∈ items, columnsKeeping keep i = columnsKeeping (fun _ => true) i) ↔
      ∀ column ∈ items.flatMap ownColumnsOf, told? column ≠ none → keep column = true := by
  rw [List.forall_mem_flatMap]
  refine forall₂_congr fun i hi => ?_
  cases i with
  | star qualifier options => exact iff_of_true rfl nofun
  | expr e label =>
    rw [columnsKeeping, columnsKeeping, List.filter_true]
    exact filterMap_filter_eq_iff told? keep e.ownColumns

theorem rowsKeeping_sublist (keep : Source → List Ident → Bool) (l : Location) (s : Select) :
    (rowsKeeping keep l s).Sublist (ofSelect (.new l .select) s) := by
  rw [ofSelect_eq_rowsKeeping, rowsKeeping, rowsKeeping]
  split
  · exact .refl _
  · split
    · exact .refl _
    · exact (List.Sublist.flatMap_right _ fun i _ => columnsKeeping_sublist _ i).map _

theorem rowsKeeping_eq_iff (keep : Source → List Ident → Bool) (l : Location) (s : Select) :
    rowsKeeping keep l s = ofSelect (.new l .select) s ↔
      ∀ source ∈ s.sources.head?, tableOf? source ≠ none →
        ∀ column ∈ s.items.flatMap ownColumnsOf, told? column ≠ none →
          keep source column = true := by
  rw [ofSelect_eq_rowsKeeping, rowsKeeping, rowsKeeping]
  cases s.sources.head? with
  | none => exact iff_of_true rfl nofun
  | some source =>
    simp only [Option.mem_def, Option.some.injEq, forall_eq']
    cases tableOf? source with
    | none => exact iff_of_true rfl fun h => absurd rfl h
    | some table =>
      have hsub := columnsKeeping_sublist (keep source)
      rw [List.map_inj_right (by simp), flatMap_eq_iff_of_sublist fun i _ => hsub i,
        columnsKeeping_eq_iff]
      simp

/-! ### All rows -/

/-- Nothing that a `SELECT` from a table has a row for is a column of another source by its
words. -/
def WellAttributed (s : Select) : Prop :=
  ∀ source ∈ s.sources.head?, tableOf? source ≠ none →
    ∀ column ∈ s.items.flatMap ownColumnsOf, told? column ≠ none → mayBeOf source column = true

/-- A column has a row for the first source, whatever stands in front of it. -/
theorem mem_ofSelect_of_mem {s : Select} {table name : String} {column : List Ident} (l : Location)
    (htable : s.sources.head?.bind tableOf? = some table)
    (hcolumn : column ∈ s.items.flatMap ownColumnsOf) (hname : told? column = some name) :
    ⟨l.slashed, l.line, l.revision, ⟨.select, table, some name⟩⟩ ∈ ofSelect (.new l .select) s := by
  obtain ⟨i, hi, hown⟩ := List.mem_flatMap.mp hcolumn
  rw [ofSelect_of_table l htable, List.filter_flatMap]
  refine List.mem_map_of_mem (List.mem_flatMap.mpr ⟨i, hi, ?_⟩)
  rw [filter_columnsOf]
  cases i with
  | star qualifier options => cases hown
  | expr e label =>
    rw [columnsKeeping, List.filter_true]
    exact List.mem_filterMap.mpr ⟨column, hown, hname⟩

/-- **Each column stands under a table that it may be one of exactly if no item of a `SELECT` from
a table speaks of a column of another source.** Whatever is written in front of a column, there is
a row that counts it to the first source. -/
theorem rows_attributed_iff (q : Query) (l : Location) :
    (rows (.query q) l = q.selects.flatMap (attributed l) ↔ ∀ s ∈ q.selects, WellAttributed s) ∧
      ∀ s ∈ q.selects, ∀ table, s.sources.head?.bind tableOf? = some table →
        ∀ column ∈ s.items.flatMap ownColumnsOf, ∀ name, told? column = some name →
          ⟨l.slashed, l.line, l.revision, ⟨.select, table, some name⟩⟩ ∈ rows (.query q) l := by
  rw [rows_query, rowsOfSelects]
  constructor
  · rw [eq_comm, attributed, flatMap_eq_iff_of_sublist fun s _ => rowsKeeping_sublist mayBeOf l s]
    exact forall₂_congr fun s _ => rowsKeeping_eq_iff mayBeOf l s
  · intro s hs table htable column hcolumn name hname
    exact List.mem_flatMap.mpr ⟨s, hs, mem_ofSelect_of_mem l htable hcolumn hname⟩

/-- A column of the second of two joined tables counts to the first one. -/
theorem joined_column_misplaced :
    ∃ q s source column,
      readStatements .generic "SELECT u.b FROM t JOIN u ON t.id = u.id" = .ok [.query q] ∧
      s ∈ q.selects ∧ s.sources.head? = some source ∧ column ∈ s.items.flatMap ownColumnsOf ∧
      calledBy? source = some "t" ∧ column.map Ident.value = ["u", "b"] ∧
      mayBeOf source column = false ∧
      rows (.query q) ⟨"q.sql", 1, none⟩ = [⟨"q.sql", 1, none, ⟨.select, "t", some "b"⟩⟩] := by
  have hread : readsQuery .generic "SELECT u.b FROM t JOIN u ON t.id = u.id" (fun q =>
      (q.selects.any fun s => s.sources.head?.any fun source =>
        (s.items.flatMap ownColumnsOf).any fun column =>
          decide (calledBy? source = some "t" ∧ column.map Ident.value = ["u", "b"] ∧
            mayBeOf source column = false)) &&
      decide (rowsOfSelects ⟨"q.sql", 1, none⟩ q.selects =
        [⟨"q.sql", 1, none, ⟨.select, "t", some "b"⟩⟩])) = true := by decide +kernel
  obtain ⟨q, hq, hread⟩ := exists_of_readsQuery hread
  rw [Bool.and_eq_true, decide_eq_true_eq] at hread
  obtain ⟨hcolumn, hrows⟩ := hread
  obtain ⟨s, hs, hcolumn⟩ := List.any_eq_true.mp hcolumn
  obtain ⟨source, hsource, hcolumn⟩ := (Option.any_eq_true _ _).mp hcolumn
  obtain ⟨column, hmem, hcolumn⟩ := List.any_eq_true.mp hcolumn
  obtain ⟨hcalled, hwords, hother⟩ := of_decide_eq_true hcolumn
  exact ⟨q, s, source, column, hq, hs, hsource, hmem, hcalled, hwords, hother,
    (rows_query _ q).trans hrows⟩

end EmbeddedSql.Usage
