import EmbeddedSql.Proofs.Lexer
import EmbeddedSql.Sql.Grammar.Statement

/-! How a text opens.

A token is read before what stands behind it is looked at, so a word and a blank at the start of a
text make the first token whatever comes then (`exists_of_lex_with`). The grammar goes by that
token: behind `WITH` it reads a query in every dialect, and a change of rows that the named queries
stand in front of is the body of that query (`exists_query_of_with`). -/
namespace EmbeddedSql.Sql

open Text Grammar

/-! ### The first token -/

/-- Tokens that have been read stay in front of those that are read later. -/
theorem exists_of_lexFrom {d : Dialect} {fuel : Nat} {previous : Option Token}
    {read out : List Lexeme} {cursor : Cursor}
    (h : lexFrom d fuel previous read cursor = .ok out) :
    ∃ more, out.map Lexeme.token = more ++ read.map Lexeme.token := by
  induction fuel generalizing previous read cursor with
  | zero =>
    cases h
    exact ⟨[], rfl⟩
  | succ fuel ih =>
    rw [lexFrom] at h
    split at h
    · cases h
      exact ⟨[], rfl⟩
    · obtain ⟨⟨chunk, behind⟩, -, h⟩ := exists_of_bind_eq_ok h
      cases chunk with
      | blank shown =>
        obtain ⟨more, hmore⟩ := ih h
        exact ⟨more, by rw [hmore, tokens_noteBlank]⟩
      | token t =>
        obtain ⟨more, hmore⟩ := ih h
        exact ⟨more ++ [t], by rw [hmore, List.map_cons, List.append_assoc]; rfl⟩

section
variable (d : Dialect)

theorem word_letter {c : Char} (h : c ∈ "WITH".toList) :
    d.startsWord c = true ∧ d.continuesWord c = true := by
  have hall : "WITH".toList.all (fun c => d.startsWord c && d.continuesWord c) = true := by
    cases d <;> decide +kernel
  exact Bool.and_eq_true_iff.mp (List.all_eq_true.mp hall c h)

theorem word_blank : d.continuesWord ' ' = false := by
  cases d <;> decide +kernel

theorem wordAt_with (rest : List Char) (p : Position) :
    (wordAt d 1 ⟨"WITH".toList ++ ' ' :: rest, p⟩).1 = .word "WITH" none "WITH" := by
  have hi := (word_letter d (c := 'I') (by decide)).2
  have ht := (word_letter d (c := 'T') (by decide)).2
  have hh := (word_letter d (c := 'H') (by decide)).2
  have hword : makeWord "WITH" none = .word "WITH" none "WITH" := by decide +kernel
  simpa [wordAt, wordFrom, Cursor.skip, Cursor.takeWhile, Cursor.takeChars, hi, ht, hh,
    word_blank d] using hword

/-- No reading but that of a word starts with `W`. -/
theorem chunkAt_with (rest : List Char) (p : Position) :
    chunkAt d none ⟨"WITH".toList ++ ' ' :: rest, p⟩ =
      .ok (.token (.word "WITH" none "WITH"),
        (wordAt d 1 ⟨"WITH".toList ++ ' ' :: rest, p⟩).2) := by
  have hmark : marksText d 'W' = false := by cases d <;> rfl
  have hname : d.opensName 'W' = false := by cases d <;> rfl
  have hbracket : ∀ cs, bracketName? d ('W' :: cs) = none := by
    intro cs
    cases d <;> rfl
  have hsign : ∀ cs, signShape? d ('W' :: cs) = none := fun _ => rfl
  have hdigit : Char.isDigit 'W' = false := rfl
  rw [← wordAt_with d rest p]
  simp [chunkAt, hmark, hname, hbracket, hsign, hdigit, (word_letter d (c := 'W') (by decide)).1]

end

/-- **A text that starts with `WITH` and a blank has that word as its first token**, whatever
stands behind it. -/
theorem exists_of_lex_with {d : Dialect} {rest : String} {tokens : List Lexeme}
    (h : lex d ("WITH " ++ rest) = .ok tokens) :
    ∃ first left, tokens = first :: left ∧ first.token = .word "WITH" none "WITH" := by
  have htext : ("WITH " ++ rest).toList = "WITH".toList ++ ' ' :: rest.toList :=
    String.toList_append ..
  rw [lex, htext] at h
  obtain ⟨out, hout, rfl⟩ := exists_of_map_eq_ok h
  rw [lexFrom] at hout
  obtain ⟨⟨chunk, behind⟩, hchunk, hout⟩ := exists_of_bind_eq_ok hout
  rw [chunkAt_with] at hchunk
  cases hchunk
  obtain ⟨more, hmore⟩ := exists_of_lexFrom hout
  have hreversed : out.reverse.map Lexeme.token = .word "WITH" none "WITH" :: more.reverse := by
    rw [List.map_reverse, hmore]
    simp
  obtain ⟨first, left, hcons, hfirst, -⟩ := List.map_eq_cons_iff.mp hreversed
  exact ⟨first, left, hcons, hfirst⟩

/-! ### The first statement -/

/-- In every dialect, `WITH` is left to the reading of queries. -/
theorem statement_with (n : Nested) (setting : Setting) {value : String} {quote : Option Char}
    {first : Lexeme} (hfirst : first.token = .word value quote "WITH") (left : List Lexeme) :
    Grammar.statement n setting (first :: left) =
      (n.query setting (first :: left)).map fun (q, left) => (.query q, left) := by
  obtain ⟨token, start, stop, blanks⟩ := first
  obtain ⟨d, connecting, definingColumn⟩ := setting
  obtain rfl : token = .word value quote "WITH" := hfirst
  cases d <;> rfl

/-- A reading that goes on with what another one gives. -/
theorem exists_of_reading_bind {α β : Type} {p : Parser α} {f : α → Parser β} {setting : Setting}
    {left rest : List Lexeme} {b : β} (h : (p >>= f) setting left = .ok (b, rest)) :
    ∃ a behind, p setting left = .ok (a, behind) ∧ f a setting behind = .ok (b, rest) := by
  have hbind : (p setting left >>= fun (a, behind) => f a setting behind) = .ok (b, rest) := h
  obtain ⟨⟨a, behind⟩, ha, hb⟩ := exists_of_bind_eq_ok hbind
  exact ⟨a, behind, ha, hb⟩

/-- What is read behind a statement `s`: the end of the text, or more statements. -/
def statementsBehind (fuel : Nat) (s : Statement) : Parser (List Statement) := do
  if (← peekSign ";") || (← peek) = .endOfInput then return s :: (← Grammar.statements fuel)
  else if ← peekIs "END" then return [s]
  else expected "end of statement"

theorem eq_of_statementsBehind {fuel : Nat} {s t : Statement} {ts : List Statement}
    {setting : Setting} {left rest : List Lexeme}
    (h : statementsBehind fuel s setting left = .ok (t :: ts, rest)) : t = s := by
  obtain ⟨_, _, -, h⟩ := exists_of_reading_bind h
  obtain ⟨_, _, -, h⟩ := exists_of_reading_bind h
  split at h
  · obtain ⟨_, _, -, h⟩ := exists_of_reading_bind h
    cases h
    rfl
  · obtain ⟨_, _, -, h⟩ := exists_of_reading_bind h
    split at h
    · cases h
      rfl
    · cases h

theorem statements_with {setting : Setting} {value : String} {quote : Option Char}
    {first : Lexeme} (hfirst : first.token = .word value quote "WITH") {fuel : Nat}
    {left rest : List Lexeme} {s : Statement} {ss : List Statement}
    (h : Grammar.statements (fuel + 1) setting (first :: left) = .ok (s :: ss, rest)) :
    ∃ q, s = .query q := by
  have hread : Grammar.statements (fuel + 1) setting (first :: left) =
      Grammar.statement (Nested.within 49) setting (first :: left) >>= fun (s, left) =>
        statementsBehind fuel s setting left := by
    obtain ⟨token, start, stop, blanks⟩ := first
    obtain rfl : token = .word value quote "WITH" := hfirst
    rfl
  rw [hread, statement_with _ _ hfirst] at h
  obtain ⟨⟨t, behind⟩, ht, h⟩ := exists_of_bind_eq_ok h
  obtain ⟨⟨q, _⟩, -, hq⟩ := exists_of_map_eq_ok ht
  cases hq
  exact ⟨q, eq_of_statementsBehind h⟩

/-- **The first statement of a text that starts with `WITH` is a query.** -/
theorem exists_query_of_with {d : Dialect} {rest : String} {s : Statement} {ss : List Statement}
    (h : Statement.parseAll d ("WITH " ++ rest) = .ok (s :: ss)) : ∃ q, s = .query q := by
  rw [Statement.parseAll] at h
  split at h
  · cases h
  · next tokens hlex =>
    obtain ⟨first, left, rfl, hfirst⟩ := exists_of_lex_with hlex
    split at h
    · next statements behind hread =>
      cases h
      exact statements_with hfirst hread
    · cases h

end EmbeddedSql.Sql
