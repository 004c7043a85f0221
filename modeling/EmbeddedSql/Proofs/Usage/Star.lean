import EmbeddedSql.Proofs.Grammar.Star
import EmbeddedSql.Proofs.Usage.Coverage
import Mathlib.Data.List.TakeWhile

/-! What the row of a star says.

The column of a star is meant to be the star with what stands in front of it: `*` or `t.*`. It is
found by cutting the text of the item at the first white space, which leaves out all clauses
behind the star, as each of them starts with a blank. The cut is right exactly if nothing in front
of the star has white space in it (`star_selected_iff`); a name in quotes may have some. -/
namespace EmbeddedSql.Text

/-! ### First words -/

variable {cs behind : List Char}

theorem exists_trimStartChars (h : ∃ c ∈ cs, isBlank c = false) :
    ∃ d ds, trimStartChars cs = d :: ds ∧ isBlank d = false := by
  obtain ⟨c, hc, hblank⟩ := h
  cases htrim : trimStartChars cs with
  | nil =>
    have hall := List.dropWhile_eq_nil_iff.mp htrim c hc
    rw [hblank] at hall
    cases hall
  | cons d ds =>
    have hfirst := List.head?_dropWhile_not isBlank cs
    rw [show cs.dropWhile isBlank = d :: ds from htrim] at hfirst
    exact ⟨d, ds, rfl, by simpa using hfirst⟩

/-- What starts with white space adds nothing to a word in front of it. -/
theorem firstWord?_append (h : ∃ c ∈ cs, isBlank c = false)
    (hbehind : ∀ c ∈ behind.head?, isBlank c = true) :
    firstWord? (String.ofList (cs ++ behind)) = firstWord? (String.ofList cs) := by
  obtain ⟨d, ds, htrim, -⟩ := exists_trimStartChars h
  have hcut : behind.takeWhile (fun c => !isBlank c) = [] := by
    cases behind with
    | nil => rfl
    | cons c behind => simp [hbehind c rfl]
  have hdrop : trimStartChars (cs ++ behind) = trimStartChars cs ++ behind := by
    have hne : ¬(cs.dropWhile isBlank).isEmpty = true := by
      rw [show cs.dropWhile isBlank = d :: ds from htrim]
      exact Bool.false_ne_true
    rw [trimStartChars, List.dropWhile_append, if_neg hne, trimStartChars]
  have hword : (d :: ds ++ behind).takeWhile (fun c => !isBlank c) =
      (d :: ds).takeWhile fun c => !isBlank c := by
    rw [List.takeWhile_append, hcut, List.append_nil]
    split
    · next hlength => rw [(List.takeWhile_sublist _).eq_of_length hlength]
    · rfl
  simp only [firstWord?, String.toList_ofList, hdrop, htrim, List.cons_append]
  rw [← List.cons_append, hword]

/-- What is not all white space has a first word, which is the whole text exactly if it has no
white space. -/
theorem exists_firstWord? (h : ∃ c ∈ cs, isBlank c = false) :
    ∃ word, firstWord? (String.ofList cs) = some word ∧ word ≠ "" ∧
      (word = String.ofList cs ↔ ∀ c ∈ cs, isBlank c = false) := by
  obtain ⟨d, ds, htrim, hd⟩ := exists_trimStartChars h
  refine ⟨String.ofList ((d :: ds).takeWhile fun c => !isBlank c), ?_, ?_, ?_⟩
  · simp only [firstWord?, String.toList_ofList, htrim]
  · rw [List.takeWhile_cons_of_pos (by simp [hd])]
    simp
  · rw [String.ofList_inj, ← htrim]
    constructor
    · intro hword c hc
      rw [← hword] at hc
      simpa using List.mem_takeWhile_imp hc
    · intro hall
      have hwhole : trimStartChars cs = cs := by
        rw [trimStartChars, List.dropWhile_eq_self_iff]
        intro hlength
        rw [hall _ (List.getElem_mem hlength)]
        exact Bool.false_ne_true
      rw [hwhole, List.takeWhile_eq_self_iff]
      simpa using hall

end EmbeddedSql.Text

namespace EmbeddedSql.Usage

open Sql Text

/-! ### Stars -/

/-- A star and what stands in front of it, without the clauses behind it. -/
def starToken (qualifier : Wording) : String :=
  String.ofList (writePieces false 0 qualifier ++ ['*'])

theorem star_text (qualifier options : Wording) :
    (Item.star qualifier options).text =
      String.ofList (writePieces false 0 qualifier ++ ['*'] ++ writePieces false 0 options) := by
  rw [Item.text, Item.write, List.append_assoc]
  rfl

theorem starToken_say (w : Wording) :
    starToken (w ++ say ".") = String.ofList (writePieces false 0 w) ++ ".*" := by
  rw [starToken, Grammar.writePieces_append, List.append_assoc, String.ofList_append]
  rfl

/-- The clauses behind a star do not show. -/
theorem columnsOf_star {qualifier options : Wording} (h : Grammar.OpensBlank options) :
    columnsOf (.star qualifier options) = (firstWord? (starToken qualifier)).toList := by
  rw [columnsOf, star_text, starToken, firstWord?_append]
  · exact ⟨'*', by simp, rfl⟩
  · intro c hc
    rw [h c hc]
    rfl

/-- The first word of a star is the whole of it exactly if nothing in front of it has white
space in it. -/
theorem exists_firstWord?_starToken (qualifier : Wording) :
    ∃ word, firstWord? (starToken qualifier) = some word ∧ word ≠ "" ∧
      (word = starToken qualifier ↔ ∀ c ∈ writePieces false 0 qualifier, isBlank c = false) := by
  have hstar : ∃ c ∈ writePieces false 0 qualifier ++ ['*'], isBlank c = false :=
    ⟨'*', by simp, rfl⟩
  obtain ⟨word, hword, hne, hwhole⟩ := exists_firstWord? hstar
  refine ⟨word, hword, hne, hwhole.trans ?_⟩
  have hlast : isBlank '*' = false := rfl
  rw [List.forall_mem_append, List.forall_mem_singleton]
  exact and_iff_left hlast

/-! ### Rows -/

/-- The row of a `SELECT` that tells of a column. -/
def selected (l : Location) (table column : String) : Row :=
  ⟨l.slashed, l.line, l.revision, ⟨.select, table, some column⟩⟩

/-- What some items have rows for. -/
def told (items : List Item) : List String := (items.flatMap columnsOf).filter (· ≠ "")

theorem selected_injective (l : Location) (table : String) :
    Function.Injective (selected l table) := by
  intro a b h
  cases h
  rfl

/-- **In a `SELECT` from a table, the row of a star is the right one exactly if nothing in front of
the star has white space in it.** The clauses behind the star never show. -/
theorem star_selected_iff {n : Grammar.Nested} {setting : Grammar.Setting}
    {left rest : List Lexeme} {s : Select} {table : String} {before after : List Item}
    {qualifier options : Wording} (hread : Grammar.select n setting left = .ok (s, rest))
    (htable : s.sources.head?.bind tableOf? = some table)
    (hitems : s.items = before ++ .star qualifier options :: after) (l : Location) :
    (qualifier = [] ∧ starToken qualifier = "*" ∨ ∃ w, qualifier = w ++ say "." ∧
        starToken qualifier = String.ofList (writePieces false 0 w) ++ ".*") ∧
      (∃ word, firstWord? (starToken qualifier) = some word ∧
        ofSelect (.new l .select) s =
          (told before ++ word :: told after).map (selected l table)) ∧
      (ofSelect (.new l .select) s =
          (told before ++ starToken qualifier :: told after).map (selected l table) ↔
        ∀ c ∈ writePieces false 0 qualifier, isBlank c = false) := by
  have hmem : .star qualifier options ∈ s.items := by
    rw [hitems]
    exact List.mem_append_right before List.mem_cons_self
  obtain ⟨hqualifier, hoptions⟩ := Grammar.yields_select n _ _ _ _ hread _ hmem
  obtain ⟨word, hword, hne, hwhole⟩ := exists_firstWord?_starToken qualifier
  have hrows : ofSelect (.new l .select) s =
      (told before ++ word :: told after).map (selected l table) := by
    have htold : told s.items = told before ++ word :: told after := by
      rw [hitems, told, List.flatMap_append, List.flatMap_cons, columnsOf_star hoptions, hword,
        List.filter_append, List.filter_append]
      simp [told, hne]
    rw [ofSelect_of_table l htable, ← htold]
    rfl
  refine ⟨?_, ⟨word, hword, hrows⟩, ?_⟩
  · obtain rfl | ⟨w, rfl⟩ := hqualifier
    · exact .inl ⟨rfl, rfl⟩
    · exact .inr ⟨w, rfl, starToken_say w⟩
  · rw [hrows, (selected_injective l table).list_map.eq_iff, List.append_right_inj,
      List.cons.injEq, and_iff_left rfl]
    exact hwhole

/-- Whether a text starts with a `SELECT` of which `p` holds. -/
def readsSelect (d : Dialect) (sql : String) (p : Select → Bool) : Bool :=
  match lex d sql with
  | .ok left =>
    match Grammar.select (.within 2) ⟨d, false, false⟩ left with
    | .ok (s, _) => p s
    | .error _ => false
  | .error _ => false

theorem exists_of_readsSelect {d : Dialect} {sql : String} {p : Select → Bool}
    (h : readsSelect d sql p = true) :
    ∃ left rest s, lex d sql = .ok left ∧
      Grammar.select (.within 2) ⟨d, false, false⟩ left = .ok (s, rest) ∧ p s = true := by
  rw [readsSelect] at h
  split at h
  · next left hleft =>
    split at h
    · next s rest hs => exact ⟨left, rest, s, hleft, hs, h⟩
    · cases h
  · cases h

/-- Whether an item is a star, with what stands in front of it and behind it as `p` wants it. -/
def isStar (p : Wording → Wording → Bool) : Item → Bool
  | .star qualifier options => p qualifier options
  | .expr .. => false

theorem exists_of_isStar {p : Wording → Wording → Bool} {i : Item} (h : isStar p i = true) :
    ∃ qualifier options, i = .star qualifier options ∧ p qualifier options = true := by
  cases i with
  | star qualifier options => exact ⟨qualifier, options, rfl, h⟩
  | expr e label => cases h

/-- Behind a column, `u.* EXCLUDE (b)` has the row of `u.*`. -/
theorem star_selected_without_clause :
    ∃ left rest s before qualifier options,
      lex .generic "SELECT a, u.* EXCLUDE (b) FROM t AS u" = .ok left ∧
      Grammar.select (.within 2) ⟨.generic, false, false⟩ left = .ok (s, rest) ∧
      s.items = before ++ [.star qualifier options] ∧ options ≠ [] ∧
      ofSelect (.new ⟨"q.sql", 1, none⟩ .select) s =
        ["a", starToken qualifier].map (selected ⟨"q.sql", 1, none⟩ "t") ∧
      starToken qualifier = "u.*" := by
  have hread : readsSelect .generic "SELECT a, u.* EXCLUDE (b) FROM t AS u" (fun s =>
      decide (s.sources.head?.bind tableOf? = some "t" ∧ told s.items.dropLast = ["a"]) &&
      s.items.getLast?.any (isStar fun qualifier options =>
        decide (options.isEmpty = false ∧ starToken qualifier = "u.*") &&
        (writePieces false 0 qualifier).all (!isBlank ·))) = true := by decide +kernel
  obtain ⟨left, rest, s, hleft, hs, hread⟩ := exists_of_readsSelect hread
  rw [Bool.and_eq_true, decide_eq_true_eq] at hread
  obtain ⟨⟨htable, hbefore⟩, hlast⟩ := hread
  obtain ⟨i, hlast, hstar⟩ := (Option.any_eq_true _ _).mp hlast
  obtain ⟨qualifier, options, rfl, hparts⟩ := exists_of_isStar hstar
  rw [Bool.and_eq_true, decide_eq_true_eq, List.all_eq_true] at hparts
  obtain ⟨⟨hoptions, htoken⟩, hblank⟩ := hparts
  have hitems : s.items = s.items.dropLast ++ [.star qualifier options] :=
    (List.dropLast_append_getLast? _ hlast).symm
  obtain ⟨-, -, hrows⟩ := star_selected_iff hs htable hitems ⟨"q.sql", 1, none⟩
  refine ⟨left, rest, s, s.items.dropLast, qualifier, options, hleft, hs, hitems,
    by simpa using hoptions, ?_, htoken⟩
  rw [hbefore] at hrows
  exact hrows.mpr (by simpa using hblank)

/-- Of the quoted name in front of a star, only the first word is in the row. -/
theorem quoted_qualifier_cut :
    ∃ q s qualifier options,
      readStatements .generic "SELECT \"my t\".* FROM \"my t\"" = .ok [.query q] ∧
      s ∈ q.selects ∧ .star qualifier options ∈ s.items ∧
      starToken qualifier = "\"my t\".*" ∧
      rows (.query q) ⟨"q.sql", 1, none⟩ = [selected ⟨"q.sql", 1, none⟩ "my t" "\"my"] := by
  have hread : readsQuery .generic "SELECT \"my t\".* FROM \"my t\"" (fun q =>
      (q.selects.any fun s => s.items.any (isStar fun qualifier _ =>
        decide (starToken qualifier = "\"my t\".*"))) &&
      decide (rowsOfSelects ⟨"q.sql", 1, none⟩ q.selects =
        [selected ⟨"q.sql", 1, none⟩ "my t" "\"my"])) = true := by decide +kernel
  obtain ⟨q, hq, hread⟩ := exists_of_readsQuery hread
  rw [Bool.and_eq_true, decide_eq_true_eq] at hread
  obtain ⟨hstar, hrows⟩ := hread
  obtain ⟨s, hs, hstar⟩ := List.any_eq_true.mp hstar
  obtain ⟨i, hi, hstar⟩ := List.any_eq_true.mp hstar
  obtain ⟨qualifier, options, rfl, htoken⟩ := exists_of_isStar hstar
  exact ⟨q, s, qualifier, options, hq, hs, hi, of_decide_eq_true htoken,
    (rows_query _ q).trans hrows⟩

end EmbeddedSql.Usage
