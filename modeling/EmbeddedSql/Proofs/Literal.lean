import EmbeddedSql.Proofs.Host
import EmbeddedSql.Proofs.TextBlock.Ending

/-! Literals between two quotes.

A program reads what stands between the quotes from left to right. A backslash takes the
character behind it with it, a quote without one is the end of the literal, and a literal stays
on one line. What a text is escaped to is read as that text (`readQuoted?_escapeIn`), so the
literal ends at its own quote and nowhere before it. `withSql_reads_back` says this of the source
that a literal gets with a new text. -/
namespace EmbeddedSql

open Text

/-! ### Reading -/

/-- What a character behind a backslash stands for in a literal between two `quote`s. -/
def meantIn? (quote : Char) : Char → Option Char
  | '\\' => some '\\'
  | 'n' => some '\n'
  | 'r' => some '\r'
  | 't' => some '\t'
  | c => if c = quote then some c else none

/-- Reads what stands between two `quote`s from left to right. -/
def readQuoted? (quote : Char) : List Char → Option (List Char)
  | [] => some []
  | ['\\'] => none
  | '\\' :: c :: cs => (meantIn? quote c).bind fun d => (readQuoted? quote cs).map (d :: ·)
  | c :: cs => if c = quote then none else (readQuoted? quote cs).map (c :: ·)

theorem readQuoted?_cons {quote c : Char} (hb : c ≠ '\\') (hq : c ≠ quote) (cs : List Char) :
    readQuoted? quote (c :: cs) = (readQuoted? quote cs).map (c :: ·) := by
  rw [readQuoted?.eq_4, if_neg hq] <;> simp_all

/-- A quote by itself cannot be read. -/
theorem readQuoted?_quote {quote : Char} (hquote : quote ≠ '\\') (cs : List Char) :
    readQuoted? quote (quote :: cs) = none := by
  rw [readQuoted?.eq_4, if_pos rfl]
  · exact fun hb _ => hquote hb
  · exact fun _ _ hb _ => hquote hb

/-- A quote that can be read stands behind an open backslash. -/
theorem leavesOpen_of_readQuoted? {quote : Char} (hquote : quote ≠ '\\')
    {before behind text : List Char}
    (h : readQuoted? quote (before ++ quote :: behind) = some text) :
    TextBlock.leavesOpen before = true := by
  induction before using TextBlock.unescaping generalizing text with
  | nil =>
    rw [List.nil_append, readQuoted?_quote hquote] at h
    cases h
  | last => rfl
  | backslash c cs ih =>
    simp only [List.cons_append, readQuoted?, Option.bind_eq_some_iff,
      Option.map_eq_some_iff] at h
    obtain ⟨_, -, rest, hrest, -⟩ := h
    exact ih hrest
  | plain c cs hc ih =>
    by_cases hq : c = quote
    · rw [List.cons_append, hq, readQuoted?_quote hquote] at h
      cases h
    · rw [List.cons_append, readQuoted?_cons hc hq] at h
      obtain ⟨rest, hrest, -⟩ := Option.map_eq_some_iff.mp h
      rw [TextBlock.leavesOpen_cons_of_ne hc, ih hrest]

/-! ### Escaping -/

/-- The two quotes that a literal may stand between. -/
def IsQuote (c : Char) : Prop := c = '"' ∨ c = '\''

theorem IsQuote.ne_backslash {quote : Char} (h : IsQuote quote) : quote ≠ '\\' := by
  rcases h with rfl | rfl <;> decide

theorem escapeIn_cons (quote c : Char) (cs : List Char) :
    escapeIn quote (c :: cs) = escapeIn quote [c] ++ escapeIn quote cs := by
  rw [escapeIn, List.flatMap_cons, escapeIn, List.flatMap_singleton, escapeIn]

/-- What one character is escaped to is read as that character. -/
theorem readQuoted?_escaped {quote : Char} (hquote : IsQuote quote) (c : Char) (cs : List Char) :
    readQuoted? quote (escapeIn quote [c] ++ cs) = (readQuoted? quote cs).map (c :: ·) := by
  rw [escapeIn, List.flatMap_singleton]
  split
  · rfl
  · rfl
  · rfl
  · rfl
  · next hb _ _ _ =>
    split
    · next hc =>
      subst hc
      rcases hquote with rfl | rfl <;> rfl
    · next hq => exact readQuoted?_cons hb hq cs

/-- **An escaped text is read as the text.** -/
theorem readQuoted?_escapeIn {quote : Char} (hquote : IsQuote quote) (text : List Char) :
    readQuoted? quote (escapeIn quote text) = some text := by
  induction text with
  | nil => rfl
  | cons c cs ih => rw [escapeIn_cons, readQuoted?_escaped hquote, ih, Option.map_some]

/-- An escaped text has no line breaks and no tabs. -/
theorem plain_of_mem_escapeIn {quote : Char} {text : List Char} {d : Char}
    (h : d ∈ escapeIn quote text) : d ≠ '\n' ∧ d ≠ '\r' ∧ d ≠ '\t' := by
  obtain ⟨c, -, hd⟩ := List.mem_flatMap.mp h
  split at hd
  · simp_all
  · rcases List.mem_pair.mp hd with rfl | rfl <;> decide
  · rcases List.mem_pair.mp hd with rfl | rfl <;> decide
  · rcases List.mem_pair.mp hd with rfl | rfl <;> decide
  · next hn hr ht =>
    split at hd
    · next hc =>
      rcases List.mem_pair.mp hd with rfl | rfl
      · decide
      · exact ⟨hn, hr, ht⟩
    · rw [List.mem_singleton.mp hd]
      exact ⟨hn, hr, ht⟩

/-! ### Literals -/

/-- The quote that a text is put between. -/
def Host.quote (h : Host) : Char := if h.literalStyle? = some .singleQuoted then '\'' else '"'

/-- The style of a literal between two `quote`s. -/
def styleOf (quote : Char) : LiteralStyle :=
  if quote = '\'' then .singleQuoted else .doubleQuoted

/-- A literal that holds `sql`, with `inside` between two `quote`s. -/
structure SpelledAs (quote : Char) (sql : String) (inside : List Char) (h : Host) : Prop where
  kind : h.kind = .literal sql (String.ofList (quote :: inside ++ [quote]))
  oneLine : '\n' ∉ inside ∧ '\r' ∉ inside ∧ '\t' ∉ inside
  /-- Each quote inside is taken by the backslashes in front of it. -/
  guarded : ∀ before behind, inside = before ++ quote :: behind →
    TextBlock.finalBackslashes before % 2 = 1
  reads : readQuoted? quote inside = some sql.toList
  literalStyle : h.literalStyle? = some (styleOf quote)

theorem spelledAs_quotedSource {quote : Char} (hquote : IsQuote quote) (sql : String)
    (found : List (Option String)) :
    SpelledAs quote sql (escapeIn quote sql.toList)
      ⟨.literal sql (quotedSource quote sql), found⟩ where
  kind := rfl
  oneLine := by
    refine ⟨fun h => ?_, fun h => ?_, fun h => ?_⟩
    · exact (plain_of_mem_escapeIn h).1 rfl
    · exact (plain_of_mem_escapeIn h).2.1 rfl
    · exact (plain_of_mem_escapeIn h).2.2 rfl
  guarded before behind h := by
    have hread := readQuoted?_escapeIn hquote sql.toList
    rw [h] at hread
    have hopen := leavesOpen_of_readQuoted? hquote.ne_backslash hread
    rw [TextBlock.leavesOpen_eq] at hopen
    exact of_decide_eq_true hopen
  reads := readQuoted?_escapeIn hquote sql.toList
  literalStyle := by
    rw [Host.literalStyle?, Host.source?, Option.bind_some]
    rcases hquote with rfl | rfl
    · rw [of?_quotedSource_double, styleOf, if_neg (by decide)]
    · rw [of?_quotedSource_single, styleOf, if_pos rfl]

theorem Host.isQuote_quote (h : Host) : IsQuote h.quote := by
  rw [quote]
  split
  · exact .inr rfl
  · exact .inl rfl

/-- A literal that is no text block keeps its quotes, and one without any gets double ones. -/
theorem Host.withSql_of_not_textBlock {h : Host} {value source : String}
    (hk : h.kind = .literal value source) (hb : h.isTextBlock = false) (style : TextBlock.Style)
    (sql : String) : h.withSql style sql = ⟨.literal sql (quotedSource h.quote sql), h.found⟩ := by
  have hstyle : h.literalStyle? = LiteralStyle.of? source.toList := by
    rw [literalStyle?, source?, hk, Option.bind_some]
  rw [isTextBlock, hstyle, decide_eq_false_iff_not] at hb
  cases hs : LiteralStyle.of? source.toList with
  | none =>
    simp only [withSql, hk, quote, hstyle, hs]
    rfl
  | some literalStyle =>
    cases literalStyle with
    | textBlock => exact absurd hs hb
    | doubleQuoted =>
      simp only [withSql, hk, quote, hstyle, hs]
      rfl
    | singleQuoted =>
      simp only [withSql, hk, quote, hstyle, hs]
      rfl

/-- **A literal between quotes is read as the text that it got.** It keeps its quotes, with double
ones for a source that starts with none, and its source is never that of a text block. -/
theorem Host.withSql_reads_back {h : Host} {value source : String}
    (hk : h.kind = .literal value source) (hb : h.isTextBlock = false) (style : TextBlock.Style)
    (sql : String) :
    (∃ inside, SpelledAs h.quote sql inside (h.withSql style sql)) ∧
      (h.withSql style sql).found = h.found ∧ ∃ inside, SpelledAs '"' sql inside (.quoted sql) := by
  rw [withSql_of_not_textBlock hk hb]
  exact ⟨⟨_, spelledAs_quotedSource h.isQuote_quote sql h.found⟩, rfl,
    _, spelledAs_quotedSource (.inl rfl) sql []⟩

/-- Quotes and backslashes at both ends of the text, in single quotes. -/
theorem Host.withSql_reads_back_single :
    ∃ inside, SpelledAs '\'' "'a\\\"\n\\'" inside
      (withSql ⟨.literal "SELECT 1" "'SELECT 1'", []⟩ {} "'a\\\"\n\\'") := by
  have hquote : Host.quote ⟨.literal "SELECT 1" "'SELECT 1'", []⟩ = '\'' := by decide
  have hspelled := withSql_reads_back (h := ⟨.literal "SELECT 1" "'SELECT 1'", []⟩) rfl (by decide) {}
    "'a\\\"\n\\'"
  rw [hquote] at hspelled
  exact hspelled.1

end EmbeddedSql
