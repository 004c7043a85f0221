import EmbeddedSql.Host
import EmbeddedSql.Proofs.Text.Bytes
import EmbeddedSql.Proofs.Text.Lines

/-! Laws of the parts of a document that hold a text.

A source between two delimiters of a text block is a text block with what stands between them
as its body (`body?_between`), and a text block that gets a new text is such a source again
(`withTextBlock_body?`). -/
namespace EmbeddedSql

open Text

/-! ### Styles -/

/-- A source with a text block's delimiters around it. -/
theorem of?_between (body : List Char) :
    LiteralStyle.of? (blockDelimiter ++ body ++ blockDelimiter) = some .textBlock := by
  have hroom : 3 ≤ byteCount (body ++ blockDelimiter) := by
    rw [byteCount_append]
    exact Nat.le_add_left 3 (byteCount body)
  show (if 3 ≤ byteCount (body ++ blockDelimiter) then _ else _) = _
  rw [if_pos hroom]

/-- What is escaped inside double quotes does not start with one. -/
theorem escapeIn_head_ne (quote : Char) (hq : quote ≠ '\\') (cs : List Char) :
    (escapeIn quote cs).head? ≠ some quote := by
  cases cs with
  | nil => simp [escapeIn]
  | cons c cs =>
    rw [escapeIn, List.flatMap_cons]
    split
    · simpa using hq.symm
    · simpa using hq.symm
    · simpa using hq.symm
    · simpa using hq.symm
    · split
      · simpa using hq.symm
      · next h => simpa using h

theorem of?_quotedSource_double (text : String) :
    LiteralStyle.of? (quotedSource '"' text).toList = some .doubleQuoted := by
  have hhead := escapeIn_head_ne '"' (by decide) text.toList
  rw [quotedSource, String.toList_ofList]
  rcases hesc : escapeIn '"' text.toList with - | ⟨c, cs⟩
  · rfl
  · rw [hesc] at hhead
    simp only [List.head?_cons, ne_eq, Option.some.injEq] at hhead
    unfold LiteralStyle.of?
    split
    · next h => exact absurd (List.cons.inj (List.cons.inj h).2).1 hhead
    · rfl
    · next h => cases (List.cons.inj h).1
    · next h _ => exact absurd rfl (h _)

theorem of?_quotedSource_single (text : String) :
    LiteralStyle.of? (quotedSource '\'' text).toList = some .singleQuoted := by
  rw [quotedSource, String.toList_ofList]
  rfl

/-! ### Bodies -/

namespace Host

theorem body?_between (value : String) (body : List Char) (found : List (Option String)) :
    body? ⟨.literal value (String.ofList (blockDelimiter ++ body ++ blockDelimiter)), found⟩ =
      some body := by
  have hdrop : (blockDelimiter ++ body ++ blockDelimiter).drop 3 = body ++ blockDelimiter := rfl
  have hsuffix : blockDelimiter.isSuffixOf (body ++ blockDelimiter) = true := by
    rw [List.isSuffixOf_iff_suffix]
    exact List.suffix_append ..
  have htake : (body ++ blockDelimiter).take ((body ++ blockDelimiter).length - 3) = body := by
    simp [blockDelimiter]
  simp only [body?, source?, String.toList_ofList, of?_between, if_true, hdrop, hsuffix, htake]

/-- Only a text block has a body. -/
theorem of?_of_body? {h : Host} {body : List Char} (hb : h.body? = some body) :
    ∃ value source, h.kind = .literal value source ∧
      LiteralStyle.of? source.toList = some .textBlock := by
  obtain ⟨kind, found⟩ := h
  cases kind with
  | literal value source =>
    simp only [body?, source?] at hb
    split at hb
    · next hs => exact ⟨value, source, rfl, hs⟩
    · cases hb
  | scalar value style => cases hb
  | plainText text => cases hb

/-! ### A new text in a text block -/

/-- Whether the body ends in a line break. -/
def endsInLineBreak (h : Host) : Bool := TextBlock.endsInLineBreak (h.body?.getD [])

/-- What a text block writes between its first line break and its last line for `sql`: the
line break at the end is left to the line of the delimiter, if the body ended in one. -/
def written (h : Host) (sql : String) : List Char :=
  if h.endsInLineBreak then (dropLast? '\n' sql.toList).getD sql.toList else sql.toList

theorem withTextBlock_body? (h : Host) (style : TextBlock.Style) (sql : String) :
    (h.withTextBlock style sql).body? =
      some (TextBlock.reindent style (h.body?.getD []) (h.written sql)) :=
  body?_between ..

theorem withTextBlock_text (h : Host) (style : TextBlock.Style) (sql : String) :
    (h.withTextBlock style sql).text.toList =
      h.written sql ++ if h.endsInLineBreak then ['\n'] else [] := by
  show (String.ofList _).toList = _
  rw [String.toList_ofList, written, endsInLineBreak]
  split <;> simp

theorem withSql_of_body? {h : Host} {body : List Char} (hb : h.body? = some body)
    (style : TextBlock.Style) (sql : String) : h.withSql style sql = h.withTextBlock style sql := by
  obtain ⟨value, source, hk, hs⟩ := of?_of_body? hb
  simp only [withSql, hk, hs]

end Host

/-! ### The same part of a document with another text -/

/-- Two parts of one kind. The texts may differ, the style of a scalar may not. -/
def HostKind.Same : HostKind → HostKind → Prop
  | .literal _ _, .literal _ _ => True
  | .scalar _ style, .scalar _ style' => style' = style
  | .plainText _, .plainText _ => True
  | _, _ => False

namespace Host

/-- What `n` keeps of `h` when it holds `sql` in its place. A literal that starts with no
delimiter gets double quotes, and a text block whose body ended in a line break gets one. -/
structure Carries (h : Host) (sql : String) (n : Host) : Prop where
  found : n.found = h.found
  kind : h.kind.Same n.kind
  literalStyle : ∀ source, h.source? = some source →
    n.literalStyle? = some ((LiteralStyle.of? source.toList).getD .doubleQuoted)
  text : n.text =
    if h.endsInLineBreak ∧ sql.toList.getLast? ≠ some '\n' then sql ++ "\n" else sql

/-- A source in quotes has no body, so it takes the new text as it is. -/
theorem carries_quoted {value source spelled : String} {style : Option LiteralStyle}
    (found : List (Option String)) (sql : String) (hs : LiteralStyle.of? source.toList = style)
    (hquoted : style ≠ some .textBlock)
    (hspelled : LiteralStyle.of? spelled.toList = some (style.getD .doubleQuoted)) :
    Carries ⟨.literal value source, found⟩ sql ⟨.literal sql spelled, found⟩ where
  found := rfl
  kind := trivial
  literalStyle := by
    rintro _ ⟨⟩
    rw [hs]
    exact hspelled
  text := by
    have hbody : body? ⟨.literal value source, found⟩ = none := by
      simp only [body?, source?, hs, if_neg hquoted]
    rw [endsInLineBreak, hbody]
    rfl

theorem withTextBlock_text_eq (h : Host) (style : TextBlock.Style) (sql : String) :
    (h.withTextBlock style sql).text =
      if h.endsInLineBreak ∧ sql.toList.getLast? ≠ some '\n' then sql ++ "\n" else sql := by
  apply String.toList_injective
  rw [withTextBlock_text, written]
  cases hended : h.endsInLineBreak with
  | false => simp
  | true =>
    cases hlast : dropLast? '\n' sql.toList with
    | some front =>
      rw [dropLast?_eq_some_iff] at hlast
      simp [hlast]
    | none =>
      rw [dropLast?_eq_none_iff, List.singleton_suffix_iff_getLast?_eq_some] at hlast
      simp [hlast]

theorem withTextBlock_carries {value source : String} (found : List (Option String))
    (hs : LiteralStyle.of? source.toList = some .textBlock) (style : TextBlock.Style)
    (sql : String) :
    Carries ⟨.literal value source, found⟩ sql
      (withTextBlock ⟨.literal value source, found⟩ style sql) where
  found := rfl
  kind := trivial
  literalStyle := by
    rintro _ ⟨⟩
    rw [hs]
    show LiteralStyle.of? (String.ofList _).toList = _
    rw [String.toList_ofList, of?_between]
    rfl
  text := withTextBlock_text_eq ..

/-- A new text changes neither the kind of the part nor how it is spelled. -/
theorem withSql_carries (h : Host) (style : TextBlock.Style) (sql : String) :
    h.Carries sql (h.withSql style sql) := by
  obtain ⟨kind, found⟩ := h
  cases kind with
  | literal value source =>
    cases hs : LiteralStyle.of? source.toList with
    | none =>
      simp only [withSql, hs]
      exact carries_quoted found sql hs (by decide) (of?_quotedSource_double sql)
    | some literalStyle =>
      cases literalStyle with
      | textBlock =>
        simp only [withSql, hs]
        exact withTextBlock_carries found hs style sql
      | doubleQuoted =>
        simp only [withSql, hs]
        exact carries_quoted found sql hs (by decide) (of?_quotedSource_double sql)
      | singleQuoted =>
        simp only [withSql, hs]
        exact carries_quoted found sql hs (by decide) (of?_quotedSource_single sql)
  | scalar value scalarStyle => exact ⟨rfl, rfl, nofun, rfl⟩
  | plainText text => exact ⟨rfl, trivial, nofun, rfl⟩

end Host

end EmbeddedSql
