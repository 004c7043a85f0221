import EmbeddedSql.Proofs.TextBlock.Embedding

/-! Where a text block ends.

A reader goes through a body from left to right and stops at the first three double quotes in
a row, where a backslash takes the character behind it with it. Escaping puts a backslash in
front of every three quotes of a run. That hides the run if no quotes are left over, and else
the rest of it closes the block together with the two quotes before it
(`isSome_delimiterAt?_escape`). -/
namespace EmbeddedSql.TextBlock

open Text

/-- How many characters stand in front of the first delimiter that a reader finds. -/
def delimiterAt? : List Char → Option Nat
  | [] => none
  | '\\' :: _ :: cs => (delimiterAt? cs).map (· + 2)
  | '"' :: '"' :: '"' :: _ => some 0
  | _ :: cs => (delimiterAt? cs).map (· + 1)

/-- The lengths of the runs of double quotes between the other characters of a text, in front
of which stand `n` more quotes. -/
def quoteRuns (n : Nat) : List Char → List Nat
  | [] => [n]
  | c :: cs => if c = '"' then quoteRuns (n + 1) cs else n :: quoteRuns 0 cs

/-- Runs of which escaping leaves one or two quotes over. -/
def leavesOver (n : Nat) : Bool := 3 < n && n % 3 ≠ 0

/-! ### Finding the delimiter -/

theorem delimiterAt?_cons {c : Char} {cs : List Char} (hb : c ≠ '\\')
    (hq : ∀ rest, ¬(c = '"' ∧ cs = '"' :: '"' :: rest)) :
    delimiterAt? (c :: cs) = (delimiterAt? cs).map (· + 1) := by
  rw [delimiterAt?.eq_4]
  · exact fun d ds h _ => hb h
  · exact fun rest hc hcs => hq rest ⟨hc, hcs⟩

theorem delimiterAt?_cons_plain {c : Char} (hb : c ≠ '\\') (hq : c ≠ '"') (cs : List Char) :
    delimiterAt? (c :: cs) = (delimiterAt? cs).map (· + 1) :=
  delimiterAt?_cons hb fun _ h => hq h.1

/-- A delimiter that is found lies in the text. -/
theorem delimiterAt?_lt {cs : List Char} {k : Nat} (h : delimiterAt? cs = some k) :
    k < cs.length := by
  induction cs using delimiterAt?.induct generalizing k with
  | case1 => cases h
  | case2 c cs ih =>
    obtain ⟨j, hj, rfl⟩ := Option.map_eq_some_iff.mp h
    have := ih hj
    simp only [List.length_cons]
    omega
  | case3 cs =>
    cases h
    simp
  | case4 c cs hb hq ih =>
    rw [delimiterAt?.eq_4 _ _ hb hq] at h
    obtain ⟨j, hj, rfl⟩ := Option.map_eq_some_iff.mp h
    have := ih hj
    simp only [List.length_cons]
    omega

/-- Characters that are neither quotes nor backslashes are passed over. -/
theorem delimiterAt?_append_plain {a : List Char} (h : ∀ c ∈ a, c ≠ '\\' ∧ c ≠ '"')
    (b : List Char) : delimiterAt? (a ++ b) = (delimiterAt? b).map (· + a.length) := by
  induction a with
  | nil => simp
  | cons c cs ih =>
    rw [List.forall_mem_cons] at h
    rw [List.cons_append, delimiterAt?_cons_plain h.1.1 h.1.2, ih h.2, Option.map_map]
    rfl

/-- Behind a text that can be read, a text that starts with no quote is looked at by itself. -/
theorem delimiterAt?_append {a meant : List Char} (ha : unescape? a = some meant) {b : List Char}
    (hb : b.head? ≠ some '"') :
    delimiterAt? (a ++ b) = (delimiterAt? a).or ((delimiterAt? b).map (· + a.length)) := by
  induction a using unescaping generalizing meant with
  | nil => simp [delimiterAt?]
  | last => cases ha
  | backslash c cs ih =>
    simp only [unescape?_backslash, Option.bind_eq_some_iff, Option.map_eq_some_iff] at ha
    obtain ⟨x, hx, y, hy, rfl⟩ := ha
    simp only [List.cons_append, delimiterAt?, ih hy, Option.map_or, Option.map_map]
    rfl
  | plain c cs hc ih =>
    rw [unescape?_cons_of_ne hc] at ha
    obtain ⟨x, hx, rfl⟩ := Option.map_eq_some_iff.mp ha
    by_cases hq : ∃ rest, c = '"' ∧ cs = '"' :: '"' :: rest
    · obtain ⟨rest, rfl, rfl⟩ := hq
      simp [delimiterAt?]
    · rw [not_exists] at hq
      rw [List.cons_append, delimiterAt?_cons hc (not_quotes_append hb hq),
        delimiterAt?_cons hc hq, ih hx, Option.map_or, Option.map_map]
      rfl

/-! ### Runs of quotes -/

theorem quoteRuns_append (n : Nat) (a b : List Char) :
    quoteRuns n (a ++ '\n' :: b) = quoteRuns n a ++ quoteRuns 0 b := by
  induction a generalizing n with
  | nil => simp [quoteRuns]
  | cons c cs ih =>
    simp only [List.cons_append, quoteRuns]
    split
    · exact ih (n + 1)
    · rw [ih 0, List.cons_append]

/-- The runs of a text are those of its lines. -/
theorem quoteRuns_lines (inner : List (List Char)) (last : List Char) :
    quoteRuns 0 (inner.flatMap (· ++ ['\n']) ++ last) =
      (inner ++ [last]).flatMap (quoteRuns 0) := by
  induction inner with
  | nil => simp
  | cons line inner ih =>
    simp only [List.flatMap_cons, List.cons_append, List.append_assoc, List.nil_append]
    rw [quoteRuns_append, ih]

/-- The first three quotes of a run are hidden by one backslash. Two of them are left to the
rest of the run. -/
theorem isSome_delimiterAt?_run : (n : Nat) →
    (delimiterAt? (escape (List.replicate n '"'))).isSome = leavesOver n
  | 0 | 1 | 2 | 3 | 4 | 5 => rfl
  | n + 6 => by
    have hrun : delimiterAt? (escape (List.replicate (n + 6) '"')) =
        (delimiterAt? (escape (List.replicate (n + 3) '"'))).map (· + 4) := by
      simp only [List.replicate_succ, escape, delimiterAt?]
      rw [delimiterAt?_cons (by decide) (by simp), delimiterAt?_cons (by decide) (by simp)]
      simp [delimiterAt?, Function.comp_def]
    rw [hrun, Option.isSome_map, isSome_delimiterAt?_run (n + 3), leavesOver, leavesOver,
      Bool.eq_iff_iff]
    simp only [Bool.and_eq_true, decide_eq_true_eq]
    omega

theorem head?_escape_ne {cs : List Char} (h : cs.head? ≠ some '"') :
    (escape cs).head? ≠ some '"' := by
  induction cs using escaping with
  | nil => exact h
  | backslash cs => simp [escape_backslash]
  | quotes cs => simp [escape_quotes]
  | plain c cs hb hq =>
    rw [escape_cons hb hq]
    simpa using h

/-- **An escaped text holds a delimiter exactly if one of its runs of quotes leaves some
over.** -/
theorem isSome_delimiterAt?_escape (n : Nat) (cs : List Char) :
    (delimiterAt? (escape (List.replicate n '"' ++ cs))).isSome =
      (quoteRuns n cs).any leavesOver := by
  induction cs generalizing n with
  | nil => simp [quoteRuns, isSome_delimiterAt?_run]
  | cons c cs ih =>
    by_cases hc : c = '"'
    · subst hc
      have hmore : List.replicate n '"' ++ '"' :: cs = List.replicate (n + 1) '"' ++ cs := by
        simp [List.replicate_succ']
      rw [hmore, ih, quoteRuns, if_pos rfl]
    · have hhead : (c :: cs).head? ≠ some '"' := by simpa using hc
      have hrest : (delimiterAt? (escape (c :: cs))).isSome = (delimiterAt? (escape cs)).isSome := by
        by_cases hb : c = '\\'
        · subst hb
          simp [escape, delimiterAt?]
        · rw [escape_cons hb fun _ h => hc h.1, delimiterAt?_cons_plain hb hc, Option.isSome_map]
      rw [escape_append _ hhead, delimiterAt?_append (unescape?_escape _) (head?_escape_ne hhead),
        Option.isSome_or, Option.isSome_map, isSome_delimiterAt?_run, hrest, quoteRuns, if_neg hc,
        List.any_cons, ← ih 0]
      rfl

/-! ### Lines of a body -/

theorem isSome_delimiterAt?_innerLine (line : List Char) :
    (delimiterAt? (innerLine line)).isSome = (quoteRuns 0 line).any leavesOver := by
  have hesc : (delimiterAt? (escape line)).isSome = (quoteRuns 0 line).any leavesOver :=
    isSome_delimiterAt?_escape 0 line
  by_cases hs : [' '] <:+ line
  · obtain ⟨front, rfl⟩ := hs
    have hread := unescape?_escape front
    rw [← hesc, innerLine_of_suffix, escape_append front (by simp),
      delimiterAt?_append hread (by simp), delimiterAt?_append hread (by simp [escape])]
    rfl
  · rw [innerLine_of_not_suffix hs, hesc]

theorem unescape?_innerLine_untrimmed (line : List Char) :
    unescape? (innerLine line) = some line := by
  by_cases hs : [' '] <:+ line
  · obtain ⟨front, rfl⟩ := hs
    have hread : unescape? ['\\', 's'] = some [' '] := rfl
    rw [innerLine_of_suffix, unescape?_append (unescape?_escape front), hread, Option.map_some]
  · rw [innerLine_of_not_suffix hs, unescape?_escape]

section
variable {indentation : List Char} (hi : ∀ c ∈ indentation, isIndent c = true)
include hi

theorem plain_break_indentation : ∀ c ∈ '\n' :: indentation, c ≠ '\\' ∧ c ≠ '"' := by
  rw [List.forall_mem_cons]
  refine ⟨by decide, fun c hc => ?_⟩
  constructor <;> rintro rfl <;> simpa [isIndent] using hi _ hc

theorem unescape?_lines {lines : List (List Char)} (hl : ∀ line ∈ lines, (unescape? line).isSome) :
    (unescape? (lines.flatMap ('\n' :: indentation ++ ·))).isSome := by
  have hplain : unescape? ('\n' :: indentation) = some ('\n' :: indentation) :=
    unescape?_of_notMem fun h => (plain_break_indentation hi _ h).1 rfl
  have hread : ∀ line ∈ lines, unescape? ('\n' :: indentation ++ line) =
      some ('\n' :: indentation ++ (unescape? line).getD []) := by
    intro line hm
    obtain ⟨meant, hmeant⟩ := Option.isSome_iff_exists.mp (hl line hm)
    rw [unescape?_append hplain, hmeant, Option.map_some, Option.getD_some]
  rw [unescape?_flatMap hread]
  rfl

/-- Each line behind its line break and the indentation is looked at by itself. -/
theorem isSome_delimiterAt?_lines {lines : List (List Char)}
    (hl : ∀ line ∈ lines, (unescape? line).isSome) :
    (delimiterAt? (lines.flatMap ('\n' :: indentation ++ ·))).isSome =
      lines.any fun line => (delimiterAt? line).isSome := by
  induction lines with
  | nil => rfl
  | cons line lines ih =>
    rw [List.forall_mem_cons] at hl
    have hone : ∀ l ∈ [line], (unescape? l).isSome := by simpa using hl.1
    obtain ⟨meant, hmeant⟩ := Option.isSome_iff_exists.mp (unescape?_lines hi hone)
    rw [List.flatMap_singleton] at hmeant
    have hhead : (lines.flatMap ('\n' :: indentation ++ ·)).head? ≠ some '"' := by
      cases lines <;> simp
    rw [List.flatMap_cons, delimiterAt?_append hmeant hhead, Option.isSome_or, Option.isSome_map,
      ih hl.2, delimiterAt?_append_plain (plain_break_indentation hi), Option.isSome_map,
      List.any_cons]

/-- The end of a body holds no delimiter. -/
theorem delimiterAt?_end (ended : Bool) (rest : List Char) :
    delimiterAt? ((if ended then [] else ['\\']) ++ '\n' :: indentation ++ rest) =
      (delimiterAt? rest).map
        (· + ((if ended then [] else ['\\']) ++ '\n' :: indentation).length) := by
  have hplain := plain_break_indentation hi
  cases ended with
  | true => exact delimiterAt?_append_plain hplain rest
  | false =>
    rw [List.forall_mem_cons] at hplain
    simp only [Bool.false_eq_true, if_false, List.cons_append, List.nil_append, delimiterAt?,
      delimiterAt?_append_plain hplain.2, Option.map_map]
    rfl

end

/-! ### The whole body -/

theorem unescape?_writtenLines {text line : List Char} (h : line ∈ writtenLines text) :
    (unescape? line).isSome := by
  obtain ⟨inner, last, hcut, -⟩ := exists_cut_eq '\n' text
  rw [writtenLines_eq hcut] at h
  rcases List.mem_append.mp h with h | h
  · obtain ⟨l, -, rfl⟩ := List.mem_map.mp h
    rw [unescape?_innerLine_untrimmed, Option.isSome_some]
  · rw [List.mem_singleton.mp h, unescape?_escape, Option.isSome_some]

theorem any_delimiter_writtenLines (text : List Char) :
    ((writtenLines text).any fun line => (delimiterAt? line).isSome) =
      (quoteRuns 0 text).any leavesOver := by
  obtain ⟨inner, last, hcut, htext⟩ := exists_cut_eq '\n' text
  have hlast : (delimiterAt? (escape last)).isSome = (quoteRuns 0 last).any leavesOver :=
    isSome_delimiterAt?_escape 0 last
  rw [writtenLines_eq hcut, htext, quoteRuns_lines]
  simp [List.any_flatMap, Function.comp_def, isSome_delimiterAt?_innerLine, hlast]

/-- The lines of a body hold a delimiter exactly if a run leaves quotes over. -/
theorem isSome_delimiterAt?_body (style : Style) (body text : List Char) :
    (delimiterAt? ((writtenLines text).flatMap ('\n' :: indentation style body ++ ·))).isSome =
      (quoteRuns 0 text).any leavesOver := by
  have hi : ∀ c ∈ indentation style body, isIndent c = true := fun _ => isIndent_of_mem_indentation
  rw [isSome_delimiterAt?_lines hi fun _ => unescape?_writtenLines, any_delimiter_writtenLines]

/-- A body and what is behind it are looked at one after the other. -/
theorem delimiterAt?_reindent (style : Style) (body text rest : List Char) :
    delimiterAt? (reindent style body text ++ rest) =
      (delimiterAt? ((writtenLines text).flatMap ('\n' :: indentation style body ++ ·))).or
        ((delimiterAt? rest).map (· + (reindent style body text).length)) := by
  have hi : ∀ c ∈ indentation style body, isIndent c = true := fun _ => isIndent_of_mem_indentation
  obtain ⟨meant, hmeant⟩ := Option.isSome_iff_exists.mp
    (unescape?_lines hi fun _ => unescape?_writtenLines)
  rw [reindent_eq_flatMap, List.append_assoc, delimiterAt?_append hmeant, delimiterAt?_end hi,
    Option.map_map]
  · congr 2
    funext n
    simp only [Function.comp_apply, List.length_append]
    omega
  · split <;> simp

/-- If a run leaves quotes over, the delimiter is found inside the body. -/
theorem delimiterAt?_reindent_of_any {text : List Char} (h : (quoteRuns 0 text).any leavesOver)
    (style : Style) (body rest : List Char) :
    ∃ k < (reindent style body text).length,
      delimiterAt? (reindent style body text ++ rest) = some k := by
  have hlines := isSome_delimiterAt?_body style body text
  rw [h, Option.isSome_iff_exists] at hlines
  obtain ⟨k, hk⟩ := hlines
  have hlt := delimiterAt?_lt hk
  refine ⟨k, ?_, ?_⟩
  · rw [reindent_eq_flatMap, List.length_append]
    omega
  · rw [delimiterAt?_reindent, hk, Option.some_or]

/-- If no run does, the delimiter is looked for behind the body. -/
theorem delimiterAt?_reindent_of_not_any {text : List Char}
    (h : ¬(quoteRuns 0 text).any leavesOver) (style : Style) (body rest : List Char) :
    delimiterAt? (reindent style body text ++ rest) =
      (delimiterAt? rest).map (· + (reindent style body text).length) := by
  have hlines := isSome_delimiterAt?_body style body text
  rw [Bool.eq_false_iff.mpr h, Option.isSome_eq_false_iff,
    Option.isNone_iff_eq_none] at hlines
  rw [delimiterAt?_reindent, hlines, Option.none_or]

/-! ### Hosts -/

/-- The line break that is left to the delimiter's line ends no run. -/
theorem any_quoteRuns_written (h : Host) (sql : String) :
    (quoteRuns 0 (h.written sql)).any leavesOver = (quoteRuns 0 sql.toList).any leavesOver := by
  rw [Host.written]
  split
  · cases hd : dropLast? '\n' sql.toList with
    | none => rfl
    | some front =>
      rw [dropLast?_eq_some_iff.mp hd, Option.getD_some, quoteRuns_append, List.any_append]
      simp [quoteRuns, leavesOver]
  · rfl

theorem not_any_leavesOver_iff {runs : List Nat} :
    ¬runs.any leavesOver ↔ ∀ n ∈ runs, n ≤ 3 ∨ n % 3 = 0 := by
  simp only [List.any_eq_true, not_exists, not_and, leavesOver, Bool.and_eq_true, decide_eq_true_eq]
  refine forall₂_congr fun n _ => ?_
  omega

/-- **A text block is closed early exactly if its text has a run of more than three double
quotes whose length is no multiple of three.** Else it ends at its own delimiter, whatever the
program goes on with. -/
theorem withTextBlock_closed_iff (h : Host) (style : Style) (sql : String) :
    ∃ body, (h.withTextBlock style sql).body? = some body ∧
      (delimiterAt? body = none ↔ ∀ n ∈ quoteRuns 0 sql.toList, n ≤ 3 ∨ n % 3 = 0) ∧
      ∀ rest, delimiterAt? (body ++ blockDelimiter ++ rest) = some body.length ↔
        ∀ n ∈ quoteRuns 0 sql.toList, n ≤ 3 ∨ n % 3 = 0 := by
  refine ⟨_, h.withTextBlock_body? style sql, ?_⟩
  rw [← not_any_leavesOver_iff, ← any_quoteRuns_written h]
  by_cases hany : (quoteRuns 0 (h.written sql)).any leavesOver = true
  · have hfound := delimiterAt?_reindent_of_any hany style (h.body?.getD [])
    refine ⟨iff_of_false ?_ (not_not_intro hany), fun rest => iff_of_false ?_ (not_not_intro hany)⟩
    · obtain ⟨k, -, hk⟩ := hfound []
      rw [List.append_nil] at hk
      simp [hk]
    · obtain ⟨k, hlt, hk⟩ := hfound (blockDelimiter ++ rest)
      rw [List.append_assoc, hk]
      simpa using hlt.ne
  · have hpassed := delimiterAt?_reindent_of_not_any hany style (h.body?.getD [])
    refine ⟨iff_of_true ?_ hany, fun rest => iff_of_true ?_ hany⟩
    · simpa [delimiterAt?] using hpassed []
    · simpa [delimiterAt?, blockDelimiter] using hpassed (blockDelimiter ++ rest)

/-- Four quotes are written as a backslash and four quotes, the last three of which close the
block. -/
theorem four_quotes_close_early :
    (Host.withTextBlock ⟨.literal "SELECT 1\n" "\"\"\"\n  SELECT 1\n  \"\"\"", []⟩ {}
        "SELECT \"\"\"\"").body? = some "\n  SELECT \\\"\"\"\"\n  ".toList ∧
      delimiterAt? "\n  SELECT \\\"\"\"\"\n  ".toList = some 12 := by
  decide

end EmbeddedSql.TextBlock
