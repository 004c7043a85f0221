import EmbeddedSql.Proofs.Host
import EmbeddedSql.Proofs.TextBlock.Reading

/-! What a program reads from a text block that a new text has been put into.

Each line stands behind the same indentation, which is what the closing delimiter's line
consists of, so a reader takes away just that (`reindent_eq_join`). Of the lines it keeps all
but the blanks at their ends, a space in front of a line break excepted (`read?_reindent`).
`withSql_reads_back_iff` says when the text comes back whole. -/
namespace EmbeddedSql.TextBlock

open Text

/-! ### Indentation -/

/-- What stands in front of each line of the body that replaces `body`. -/
def indentation (style : Style) (body : List Char) : List Char :=
  (shortestIndent style.tabSize body).render style

theorem isIndent_of_mem_render {style : Style} {i : Indent} {c : Char} (h : c ∈ i.render style) :
    isIndent c = true := by
  rw [Indent.render] at h
  split at h
  · rcases List.mem_append.mp h with h | h <;> rw [List.eq_of_mem_replicate h] <;> rfl
  · rw [List.eq_of_mem_replicate h]
    rfl

theorem isIndent_of_mem_indentation {style : Style} {body : List Char} {c : Char}
    (h : c ∈ indentation style body) : isIndent c = true :=
  isIndent_of_mem_render h

/-- The lines that are put into a body in the place of `inner` and `last`, the last of which
has no line break behind it. -/
def bodyLines (ended : Bool) (inner : List (List Char)) (last : List Char) : List (List Char) :=
  inner.map innerLine ++ [escape last ++ if ended then [] else ['\\']]

theorem writtenLines_eq {text : List Char} {inner : List (List Char)} {last : List Char}
    (h : cut '\n' text = inner ++ [last]) :
    writtenLines text = inner.map innerLine ++ [escape last] := by
  simp [writtenLines, h]

theorem writtenLines_ne_nil (text : List Char) : writtenLines text ≠ [] := by
  obtain ⟨inner, last, h, -⟩ := exists_cut_eq '\n' text
  simp [writtenLines_eq h]

/-- A new body is a line break and then lines behind one indentation, with the indentation
alone as the last line. -/
theorem reindent_eq_join {style : Style} {body text : List Char} {inner : List (List Char)}
    {last : List Char} (h : cut '\n' text = inner ++ [last]) :
    reindent style body text =
      join ['\n'] ([] :: ((bodyLines (endsInLineBreak body) inner last).map
        (indentation style body ++ ·) ++ [indentation style body])) := by
  let lines := bodyLines (endsInLineBreak body) inner last
  calc reindent style body text
      = '\n' :: (indentation style body ++ join (['\n'] ++ indentation style body)
          (lines ++ [[]])) := by
        rw [join_concat, reindent, writtenLines_eq h, join_concat, indentation]
        simp [lines, bodyLines]
    _ = '\n' :: join ['\n'] ((lines ++ [[]]).map (indentation style body ++ ·)) := by
        rw [append_join _ _ (by simp)]
    _ = join ['\n'] ([] :: (lines.map (indentation style body ++ ·) ++
          [indentation style body])) := by
        rw [join_cons _ (by simp)]
        simp

/-- A new body is its lines, each behind a line break and the indentation, and a line break of
its own for the delimiter. -/
theorem reindent_eq_flatMap (style : Style) (body text : List Char) :
    reindent style body text =
      (writtenLines text).flatMap ('\n' :: indentation style body ++ ·) ++
        ((if endsInLineBreak body then [] else ['\\']) ++ '\n' :: indentation style body) := by
  rw [← join_eq_flatMap _ (writtenLines_ne_nil text), reindent, indentation, List.append_assoc]

/-! ### One line -/

/-- What is read of a line in front of a line break. -/
def heldLine (line : List Char) : List Char :=
  if [' '] <:+ line then line else trimEnd line

theorem innerLine_of_suffix (front : List Char) :
    innerLine (front ++ [' ']) = escape front ++ ['\\', 's'] := by
  have hesc : escape (front ++ [' ']) = escape front ++ [' '] := escape_append front (by simp)
  rw [innerLine, hesc, dropLast?_eq_some_iff.mpr rfl]

theorem innerLine_of_not_suffix {line : List Char} (h : ¬[' '] <:+ line) :
    innerLine line = escape line := by
  have hesc : ¬[' '] <:+ escape line := by
    rwa [List.singleton_suffix_iff_getLast?_eq_some, getLast?_escape,
      ← List.singleton_suffix_iff_getLast?_eq_some]
  rw [innerLine, dropLast?_eq_none_iff.mpr hesc]

theorem notMem_innerLine {line : List Char} (h : '\n' ∉ line) : '\n' ∉ innerLine line := by
  by_cases hs : [' '] <:+ line
  · obtain ⟨front, rfl⟩ := hs
    rw [innerLine_of_suffix]
    simpa using notMem_escape (by decide) fun hm => h (List.mem_append_left _ hm)
  · rw [innerLine_of_not_suffix hs]
    exact notMem_escape (by decide) h

theorem notMem_writtenLines {text line : List Char} (hline : line ∈ writtenLines text) :
    '\n' ∉ line := by
  obtain ⟨inner, last, h, -⟩ := exists_cut_eq '\n' text
  have hfree : ∀ line ∈ inner ++ [last], '\n' ∉ line := fun line hm => notMem_of_mem_cut (h ▸ hm)
  rw [writtenLines_eq h] at hline
  rcases List.mem_append.mp hline with hline | hline
  · obtain ⟨l, hl, rfl⟩ := List.mem_map.mp hline
    exact notMem_innerLine (hfree l (List.mem_append_left _ hl))
  · rw [List.mem_singleton.mp hline]
    exact notMem_escape (by decide) (hfree last (by simp))

theorem notMem_bodyLines {text : List Char} {inner : List (List Char)} {last : List Char}
    (h : cut '\n' text = inner ++ [last]) (ended : Bool) :
    ∀ line ∈ bodyLines ended inner last, '\n' ∉ line := by
  have hwritten : ∀ line ∈ inner.map innerLine ++ [escape last], '\n' ∉ line := fun line hline =>
    notMem_writtenLines (writtenLines_eq h ▸ hline)
  rw [List.forall_mem_append, List.forall_mem_singleton] at hwritten
  rw [bodyLines, List.forall_mem_append, List.forall_mem_singleton]
  refine ⟨hwritten.1, ?_⟩
  cases ended <;> simpa using hwritten.2

theorem unescape?_innerLine (line : List Char) :
    unescape? (trimEnd (innerLine line)) = some (heldLine line) := by
  by_cases hs : [' '] <:+ line
  · obtain ⟨front, rfl⟩ := hs
    have hread : unescape? ['\\', 's'] = some [' '] := rfl
    have htrim : trimEnd (escape front ++ ['\\', 's']) = escape front ++ ['\\', 's'] :=
      trimEnd_eq_self_iff.mpr (by simp [isIndent])
    rw [innerLine_of_suffix, htrim, unescape?_append (unescape?_escape front), hread,
      heldLine, if_pos (List.suffix_append ..), Option.map_some]
  · rw [innerLine_of_not_suffix hs, trimEnd_escape, unescape?_escape, heldLine, if_neg hs]

/-- A line in front of a line break is read whole exactly if no tab is at its end. -/
theorem heldLine_eq_self_iff {line : List Char} : heldLine line = line ↔ ¬['\t'] <:+ line := by
  simp only [heldLine, List.singleton_suffix_iff_getLast?_eq_some]
  split
  · next h => simp [h]
  · next h =>
    rw [trimEnd_eq_self_iff]
    constructor
    · intro hk ht
      simpa [isIndent] using hk _ ht
    · intro ht c hc
      have h1 : c ≠ ' ' := fun e => h (e ▸ hc)
      have h2 : c ≠ '\t' := fun e => ht (e ▸ hc)
      simp [isIndent, h1, h2]

theorem prefix_heldLine (line : List Char) : heldLine line <+: line := by
  rw [heldLine]
  split
  · exact List.prefix_rfl
  · exact List.rdropWhile_prefix isIndent line

/-! ### The whole body -/

/-- What is read of the last line and the line break behind it. -/
theorem unescape?_last (ended : Bool) (last : List Char) :
    unescape? (trimEnd (escape last ++ if ended then [] else ['\\']) ++ ['\n']) =
      some (if ended then trimEnd last ++ ['\n'] else last) := by
  cases ended with
  | true =>
    have hread : unescape? ['\n'] = some ['\n'] := rfl
    simp only [if_true, List.append_nil]
    rw [trimEnd_escape, unescape?_append (unescape?_escape _), hread, Option.map_some]
  | false =>
    have hread : unescape? ['\\', '\n'] = some [] := rfl
    have hkept : trimEnd (escape last ++ ['\\']) = escape last ++ ['\\'] := trimEnd_append rfl
    simp only [Bool.false_eq_true, if_false]
    rw [hkept, List.append_assoc, unescape?_append (unescape?_escape _)]
    simp [hread]

/-- **What is read from a new body**: the lines of the text, without the tabs and the mixed
blanks at their ends, and if the line break behind the last line is read, without any blanks
in front of it. -/
theorem read?_reindent {style : Style} {body text : List Char} {inner : List (List Char)}
    {last : List Char} (h : cut '\n' text = inner ++ [last]) :
    read? (reindent style body text) =
      some (inner.flatMap (heldLine · ++ ['\n']) ++
        if endsInLineBreak body then trimEnd last ++ ['\n'] else last) := by
  have hinner : unescape? (inner.flatMap fun line => trimEnd (innerLine line) ++ ['\n']) =
      some (inner.flatMap (heldLine · ++ ['\n'])) :=
    unescape?_flatMap fun line _ => unescape?_append (unescape?_innerLine line) ['\n']
  rw [reindent_eq_join h, read?_indented (fun _ => isIndent_of_mem_indentation)
    (notMem_bodyLines h _), bodyLines, List.flatMap_append, List.flatMap_map, unescape?_append hinner,
    List.flatMap_singleton, unescape?_last, Option.map_some]

/-- When the lines of a text are read as they were written. -/
theorem read?_reindent_eq_iff {style : Style} {body text : List Char} :
    read? (reindent style body text) =
        some (text ++ if endsInLineBreak body then ['\n'] else []) ↔
      ¬['\t', '\n'] <:+: text ++ (if endsInLineBreak body then ['\n'] else []) ∧
        (endsInLineBreak body = true → ¬[' '] <:+ text) := by
  obtain ⟨inner, last, h, htext⟩ := exists_cut_eq '\n' text
  have hfree : ∀ line ∈ inner ++ [last], '\n' ∉ line := fun line hm =>
    notMem_of_mem_cut (h ▸ hm)
  have hinner : ∀ line ∈ inner, '\n' ∉ line := fun line hm =>
    hfree line (List.mem_append_left _ hm)
  have hlast : '\n' ∉ last := hfree last (by simp)
  have hheld : ∀ line ∈ inner, '\n' ∉ heldLine line := fun line hm hn =>
    hinner line hm ((prefix_heldLine line).mem hn)
  rw [read?_reindent h, Option.some.injEq]
  subst htext
  cases endsInLineBreak body with
  | false =>
    simp only [Bool.false_eq_true, if_false, List.append_nil, false_implies, and_true]
    rw [ended_map_eq_iff hheld hinner, infix_separator_iff (by decide) hinner hlast]
    simp only [heldLine_eq_self_iff, not_exists, not_and, and_true]
  | true =>
    have hall : inner.flatMap (· ++ ['\n']) ++ last ++ ['\n'] =
        (inner ++ [last]).flatMap (· ++ ['\n']) ++ [] := by simp
    have hends : trimEnd last = last ↔ ¬['\t'] <:+ last ∧ ¬[' '] <:+ last := by
      by_cases hs : [' '] <:+ last
      · obtain ⟨front, rfl⟩ := hs
        simp [trimEnd_eq_self_iff, isIndent]
      · rw [← heldLine_eq_self_iff, heldLine, if_neg hs, and_iff_left hs]
    simp only [if_true, true_implies]
    rw [suffix_ended_iff (by decide), hall, infix_separator_iff (by decide) hfree (by simp),
      ← hall, List.append_assoc, ended_map_eq_iff hheld hinner, List.append_left_inj, hends]
    simp only [heldLine_eq_self_iff, not_exists, not_and, List.forall_mem_append,
      List.forall_mem_singleton, and_assoc]

/-! ### Hosts -/

/-- **A text block holds what is read from it, unless a line of it ends in blanks that a
reader drops**: a tab in front of a line break, or a space in front of the line break at the
end. -/
theorem withSql_reads_back_iff {h : Host} {body : List Char} (hb : h.body? = some body)
    (style : Style) (sql : String) :
    ∃ newBody, (h.withSql style sql).body? = some newBody ∧
      (read? newBody = some (h.withSql style sql).text.toList ↔
        ¬['\t', '\n'] <:+: (h.withSql style sql).text.toList ∧
          (endsInLineBreak body = true → ¬[' ', '\n'] <:+ (h.withSql style sql).text.toList)) := by
  have hended : h.endsInLineBreak = endsInLineBreak body := by
    rw [Host.endsInLineBreak, hb, Option.getD_some]
  refine ⟨reindent style body (h.written sql), ?_, ?_⟩
  · rw [Host.withSql_of_body? hb, Host.withTextBlock_body?, hb, Option.getD_some]
  · rw [Host.withSql_of_body? hb, Host.withTextBlock_text, hended, read?_reindent_eq_iff]
    refine and_congr_right fun _ => imp_congr_right fun ended => not_congr ?_
    rw [if_pos ended]
    constructor
    · rintro ⟨front, hf⟩
      exact ⟨front, by rw [← hf]; simp⟩
    · rintro ⟨front, hf⟩
      have : front ++ [' '] ++ ['\n'] = h.written sql ++ ['\n'] := by simpa using hf
      exact ⟨front, List.append_cancel_right this⟩

/-- Spaces inside the text and tabs in front of a word come back. -/
theorem withSql_reads_back_spaces :
    ∃ newBody, (Host.withSql ⟨.literal "SELECT 1\n" "\"\"\"\n  SELECT 1\n  \"\"\"", []⟩ {}
        "SELECT  \n\t1").body? = some newBody ∧
      read? newBody = some "SELECT  \n\t1\n".toList := by
  have hbody : Host.body? ⟨.literal "SELECT 1\n" "\"\"\"\n  SELECT 1\n  \"\"\"", []⟩ =
      some "\n  SELECT 1\n  ".toList := by decide
  have htext : (Host.withSql ⟨.literal "SELECT 1\n" "\"\"\"\n  SELECT 1\n  \"\"\"", []⟩ {}
      "SELECT  \n\t1").text.toList = "SELECT  \n\t1\n".toList := by decide
  obtain ⟨newBody, hnew, hread⟩ := withSql_reads_back_iff hbody {} "SELECT  \n\t1"
  rw [htext] at hread
  exact ⟨newBody, hnew, hread.mpr ⟨by simp [List.infix_cons_iff], by decide⟩⟩

/-- The space at the end of the last line does not. -/
theorem withSql_loses_last_space :
    ∃ newBody, (Host.withSql ⟨.literal "SELECT 1\n" "\"\"\"\n  SELECT 1\n  \"\"\"", []⟩ {}
        "SELECT 1 ").body? = some newBody ∧
      read? newBody = some "SELECT 1\n".toList ∧
      (Host.withSql ⟨.literal "SELECT 1\n" "\"\"\"\n  SELECT 1\n  \"\"\"", []⟩ {}
        "SELECT 1 ").text = "SELECT 1 \n" :=
  ⟨"\n  SELECT 1 \n  ".toList, by decide, by decide, by decide⟩

end EmbeddedSql.TextBlock
