import EmbeddedSql.Proofs.TextBlock.Embedding
import EmbeddedSql.Proofs.TextBlock.Ending
import EmbeddedSql.Proofs.TextBlock.Measuring

/-! A text block that is written again around its own text.

The text that is read from a body is put back line by line behind one indentation. Where the body
has no escapes, is indented with spaces and does not close in front of its text, this is the
indentation that its lines have, so they come back at their place (`tidy_eq_framed`). What is lost
is what a reader does not see, the blanks at the ends of lines, and the delimiter gets a line of
its own. -/
namespace EmbeddedSql.TextBlock

open Text

/-! ### Frames -/

/-- How a text writes a character in front of whose next line an indentation stands. -/
def indentedChar (indentation : List Char) (c : Char) : List Char :=
  if c = '\n' then '\n' :: indentation else [c]

/-- A body around a text: the lines stand behind one indentation, and so does the delimiter. If the
text does not end in a line break, the one behind it is escaped. -/
def framed (indentation : List Char) (ended : Bool) (text : List Char) : List Char :=
  '\n' :: indentation ++ text.flatMap (indentedChar indentation) ++
    (if ended then [] else ['\\']) ++ '\n' :: indentation

section
variable (indentation : List Char)

theorem flatMap_indentedChar_of_notMem {line : List Char} (h : '\n' ∉ line) :
    line.flatMap (indentedChar indentation) = line := by
  induction line with
  | nil => rfl
  | cons c cs ih =>
    rw [List.mem_cons, not_or] at h
    rw [List.flatMap_cons, ih h.2, indentedChar, if_neg (Ne.symm h.1), List.singleton_append]

/-- The lines of a text, each behind the indentation. -/
theorem indentation_append_flatMap {lines : List (List Char)} (hne : lines ≠ [])
    (h : ∀ line ∈ lines, '\n' ∉ line) :
    indentation ++ (join ['\n'] lines).flatMap (indentedChar indentation) =
      join ['\n'] (lines.map (indentation ++ ·)) := by
  induction lines with
  | nil => exact absurd rfl hne
  | cons line lines ih =>
    rw [List.forall_mem_cons] at h
    have hline := flatMap_indentedChar_of_notMem indentation h.1
    by_cases hlines : lines = []
    · subst hlines
      simp [join, hline]
    · have hbreak : ['\n'].flatMap (indentedChar indentation) = '\n' :: indentation := by
        simp [indentedChar]
      rw [join_cons line hlines, List.map_cons, join_cons _ (by simpa using hlines),
        ← ih hlines h.2, List.flatMap_append, List.flatMap_append, hline, hbreak]
      simp

end

/-- A text with its escapes. -/
def spelled (text : List Char) : List Char := join ['\n'] (writtenLines text)

/-- A new body is a frame around the text with its escapes. -/
theorem reindent_eq_framed (style : Style) (body text : List Char) :
    reindent style body text =
      framed (indentation style body) (endsInLineBreak body) (spelled text) := by
  have hne := writtenLines_ne_nil text
  have hfront := append_join (indentation style body) ['\n'] hne
  rw [← indentation_append_flatMap _ hne fun _ => notMem_writtenLines,
    List.append_right_inj] at hfront
  rw [reindent, framed, spelled, ← hfront]
  rfl

/-- What has to be escaped: a backslash, three quotes in a row, and a space in front of a line
break. -/
structure Escapeless (text : List Char) : Prop where
  backslash : '\\' ∉ text
  quotes : ¬['"', '"', '"'] <:+: text
  space : ¬[' ', '\n'] <:+: text

theorem escape_eq_self {line : List Char} (hb : '\\' ∉ line) (hq : ¬['"', '"', '"'] <:+: line) :
    escape line = line := by
  induction line using escaping with
  | nil => rfl
  | backslash cs => exact absurd (.head _) hb
  | quotes cs => exact absurd ⟨[], cs, rfl⟩ hq
  | plain c cs hback hquote ih =>
    rw [List.mem_cons, not_or] at hb
    rw [escape_cons hback hquote, ih hb.2 fun hin => hq (List.infix_cons hin)]

/-- Where nothing has to be escaped, nothing is. -/
theorem spelled_eq_self {text : List Char} (h : Escapeless text) : spelled text = text := by
  obtain ⟨inner, last, hcut, htext⟩ := exists_cut_eq '\n' text
  have hfree : ∀ line ∈ inner ++ [last], '\n' ∉ line := fun line hm => notMem_of_mem_cut (hcut ▸ hm)
  have hescape : ∀ line ∈ inner ++ [last], escape line = line := fun line hline =>
    have hpart := infix_of_mem_cut (hcut ▸ hline)
    escape_eq_self (fun hm => h.backslash (hpart.subset hm)) fun hq => h.quotes (hq.trans hpart)
  have hspace : ∀ line ∈ inner, ¬[' '] <:+ line := fun line hline hs => by
    refine h.space ?_
    rw [htext, infix_separator_iff (by decide) (fun l hl => hfree l (List.mem_append_left _ hl))
      (hfree last (by simp))]
    exact ⟨line, hline, hs⟩
  have hinner : inner.map innerLine = inner := by
    refine (List.map_congr_left fun line hline => ?_).trans (List.map_id inner)
    rw [innerLine_of_not_suffix (hspace line hline),
      hescape line (List.mem_append_left _ hline), id]
  rw [spelled, writtenLines_eq hcut, hinner, hescape last (by simp), ← hcut, join_cut]

/-! ### The lines of a body -/

/-- The number of blanks in front of a line. -/
def depth (line : List Char) : Nat := (line.takeWhile isIndent).length

theorem trimEnd_append_of_hasContent (front : List Char) {line : List Char}
    (h : hasContent line = true) : trimEnd (front ++ line) = front ++ trimEnd line := by
  induction line using List.reverseRecOn with
  | nil => cases h
  | append_singleton line c ih =>
    rw [← List.append_assoc]
    by_cases hc : isIndent c = true
    · have hline : hasContent line = true := by simpa [hasContent, hc] using h
      rw [trimEnd, trimEnd, List.rdropWhile_concat_pos _ _ _ hc,
        List.rdropWhile_concat_pos _ _ _ hc]
      exact ih hline
    · rw [Bool.not_eq_true] at hc
      rw [trimEnd_append hc, trimEnd_append hc, List.append_assoc]

theorem trimEnd_eq_nil_iff {line : List Char} : trimEnd line = [] ↔ hasContent line = false := by
  simp [trimEnd, hasContent]

/-- A reader drops a line of blanks. -/
theorem trimEnd_drop_of_blank {line : List Char} (h : hasContent line = false) (n : Nat) :
    trimEnd (line.drop n) = [] := by
  rw [trimEnd_eq_nil_iff]
  rw [hasContent_eq_false_iff] at h ⊢
  exact fun c hc => h c (List.mem_of_mem_drop hc)

section
variable {body : List Char}

theorem exists_before_last {last : List Char} (hlast : last ∈ (textLines body).getLast?) :
    ∃ before, body = before ++ '\n' :: last := by
  obtain ⟨inner, hinner⟩ := List.getLast?_eq_some_iff.mp hlast
  obtain ⟨first, rest, hcut⟩ := List.exists_cons_of_ne_nil (cut_ne_nil '\n' body)
  rw [textLines, hcut, List.tail_cons] at hinner
  have hbody := join_cut '\n' body
  rw [hcut, hinner, ← List.cons_append, join_concat] at hbody
  obtain ⟨front, line, hfront⟩ := (List.eq_nil_or_concat' (first :: inner)).resolve_left (by simp)
  rw [hfront] at hbody
  exact ⟨front.flatMap (· ++ ['\n']) ++ line, by rw [← hbody]; simp⟩

theorem endsInLineBreak_of_hasContent (before : List Char) {last : List Char} (hbreak : '\n' ∉ last)
    (hcontent : hasContent last = true) : endsInLineBreak (before ++ '\n' :: last) = false := by
  rw [← Bool.not_eq_true]
  intro hended
  obtain ⟨front, blanks, hbody, hblanks⟩ := exists_of_endsInLineBreak hended
  have hfree : '\n' ∉ blanks := fun hm => by simpa [isIndent] using hblanks _ hm
  have hcut := congrArg (fun cs => (cut '\n' cs).getLast?) hbody
  simp only [cut_append_cons, cut_of_notMem hbreak, cut_of_notMem hfree, List.getLast?_concat,
    Option.some_inj] at hcut
  rw [hcut, hasContent_eq_false_iff.mpr hblanks] at hcontent
  cases hcontent

/-- What a reader keeps of each line. -/
def heldLines (body : List Char) : List (List Char) :=
  (textLines body).map fun line => trimEnd (line.drop (margin (textLines body)))

theorem subset_of_mem_heldLines {line : List Char} (hline : line ∈ heldLines body) :
    line ⊆ body ∧ '\n' ∉ line := by
  obtain ⟨whole, hwhole, rfl⟩ := List.mem_map.mp hline
  have hpart : trimEnd (whole.drop (margin (textLines body))) <:+: whole :=
    (List.rdropWhile_prefix isIndent _).isInfix.trans (List.drop_suffix ..).isInfix
  have hcut := List.mem_of_mem_tail hwhole
  exact ⟨(hpart.trans (infix_of_mem_cut hcut)).subset,
    fun hn => notMem_of_mem_cut hcut (hpart.subset hn)⟩

end

/-! ### Writing a body again -/

/-- A line that is written again. Blanks at its end are lost, and a line of blanks becomes the
indentation. -/
def tidyLine (indentation line : List Char) : List Char :=
  if hasContent line then trimEnd line else indentation

/-- A body that is written again for the text that is read from it. -/
def tidy (style : Style) (body : List Char) : List Char :=
  let lines := (textLines body).map (tidyLine (indentation style body))
  '\n' :: join ['\n'] lines ++
    if endsInLineBreak body then [] else '\\' :: '\n' :: indentation style body

/-- A body that opens with a line break and ends in one, and whose lines are the indentation or hold
something up to their end. The closing line is one of them. -/
structure LaidOut (style : Style) (body : List Char) : Prop where
  opening : body.head? = some '\n'
  ended : endsInLineBreak body = true
  lines : ∀ line ∈ textLines body,
    if hasContent line then trimEnd line = line else line = indentation style body

theorem tidyLine_eq_self_iff {indentation line : List Char} :
    tidyLine indentation line = line ↔
      if hasContent line then trimEnd line = line else line = indentation := by
  rw [tidyLine]
  split
  · exact Iff.rfl
  · exact eq_comm

theorem notMem_tidyLine {style : Style} {body line : List Char} (hline : line ∈ textLines body) :
    '\n' ∉ tidyLine (indentation style body) line := by
  rw [tidyLine]
  split
  · exact fun hm => notMem_of_mem_cut (List.mem_of_mem_tail hline)
      ((List.rdropWhile_prefix isIndent line).subset hm)
  · exact fun hm => by simpa [isIndent] using isIndent_of_mem_indentation hm

/-! ### Depths -/

/-- A body without escapes that is indented with spaces, and whose delimiter does not stand in
front of its text. -/
structure Even (body : List Char) : Prop where
  unescaped : '\\' ∉ body
  spaces : ∀ line ∈ textLines body, '\t' ∉ line.takeWhile isIndent
  /-- The closing line counts with the blanks in front of the delimiter. -/
  closing : ∃ line ∈ textLines body, hasContent line = true ∧
    ∀ last ∈ (textLines body).getLast?, depth line ≤ depth last
  /-- Widths are numbers of 64 bits. -/
  short : body.length < UInt64.size

section
variable {body : List Char} (h : Even body)
include h

theorem Even.length_lt {line : List Char} (hline : line ∈ textLines body) :
    line.length < UInt64.size :=
  (infix_of_mem_cut (List.mem_of_mem_tail hline)).length_le.trans_lt h.short

/-- The blanks in front of a line are spaces. -/
theorem Even.takeWhile_eq {line : List Char} (hline : line ∈ textLines body) :
    line.takeWhile isIndent = List.replicate (depth line) ' ' := by
  refine List.eq_replicate_iff.mpr ⟨rfl, fun c hc => ?_⟩
  have hblank : c = ' ' ∨ c = '\t' := by simpa [isIndent] using List.mem_takeWhile_imp hc
  exact hblank.resolve_right fun ht => h.spaces line hline (ht ▸ hc)

/-- The width of a line's indentation is its depth. -/
theorem Even.width_ofLine (tabSize : Nat) {line : List Char}
    (hline : line ∈ textLines body) :
    (Indent.ofLine line).width tabSize = depth line := by
  have hshort : depth line < UInt64.size :=
    (List.takeWhile_prefix isIndent).length_le.trans_lt (h.length_lt hline)
  have hline : Indent.ofLine line = ⟨0, depth line⟩ := by
    simp [Indent.ofLine, h.takeWhile_eq hline, List.count_replicate]
  rw [hline, Indent.width, Nat.zero_mul, Nat.zero_add, Nat.mod_eq_of_lt hshort]

/-- The new body is indented as deep as the shallowest line that holds something. -/
theorem Even.exists_shallowest (tabSize : Nat) :
    ∃ line ∈ textLines body, hasContent line = true ∧
      (shortestIndent tabSize body).width tabSize = depth line ∧
      ∀ other ∈ textLines body, hasContent other = true → depth line ≤ depth other := by
  obtain ⟨line, hline, hcontent, -⟩ := h.closing
  obtain ⟨line, hline, hcontent, heq, hle⟩ := exists_narrowest tabSize ⟨line, hline, hcontent⟩
  refine ⟨line, hline, hcontent, by rw [heq, h.width_ofLine tabSize hline], ?_⟩
  intro other hother hheld
  have := hle other hother hheld
  rwa [heq, h.width_ofLine tabSize hline, h.width_ofLine tabSize hother] at this

theorem Even.margin_eq (tabSize : Nat) :
    margin (textLines body) = (shortestIndent tabSize body).width tabSize := by
  obtain ⟨line, hline, hcontent, hwidth, hle⟩ := h.exists_shallowest tabSize
  obtain ⟨near, hnear, hheld, hclosing⟩ := h.closing
  rw [hwidth, margin, Option.getD_eq_iff, List.min?_eq_some_iff]
  refine .inl ⟨?_, ?_⟩
  · exact List.mem_map_of_mem (List.mem_append_left _ (List.mem_filter.mpr ⟨hline, hcontent⟩))
  · intro n hn
    obtain ⟨other, hother, rfl⟩ := List.mem_map.mp hn
    rcases List.mem_append.mp hother with hother | hlast
    · obtain ⟨hother, hheld⟩ := List.mem_filter.mp hother
      exact hle other hother hheld
    · exact (hle near hnear hheld).trans (hclosing other (Option.mem_toList.mp hlast))

/-- What a reader takes away from each line is what stands in front of it again. -/
theorem Even.indentation_eq {style : Style} (hs : style.useTabs = false) :
    indentation style body = List.replicate (margin (textLines body)) ' ' := by
  rw [h.margin_eq style.tabSize, indentation, Indent.render, hs]
  rfl

theorem Even.margin_le {line : List Char} (hline : line ∈ textLines body)
    (hcontent : hasContent line = true) : margin (textLines body) ≤ depth line := by
  obtain ⟨_, _, _, hwidth, hle⟩ := h.exists_shallowest 0
  rw [h.margin_eq 0, hwidth]
  exact hle line hline hcontent

theorem Even.take_eq {style : Style} (hs : style.useTabs = false) {line : List Char}
    (hline : line ∈ textLines body) (hcontent : hasContent line = true) :
    line.take (margin (textLines body)) = indentation style body := by
  have hle := h.margin_le hline hcontent
  have hdeep : margin (textLines body) ≤ (line.takeWhile isIndent).length := hle
  rw [h.indentation_eq hs, ← List.takeWhile_append_dropWhile (p := isIndent) (l := line),
    List.take_append_of_le_length hdeep, h.takeWhile_eq hline, List.take_replicate,
    Nat.min_eq_left hle]

/-- A line that is written again stands behind the indentation. -/
theorem Even.tidyLine_eq {style : Style} (hs : style.useTabs = false) {line : List Char}
    (hline : line ∈ textLines body) :
    tidyLine (indentation style body) line =
      indentation style body ++ trimEnd (line.drop (margin (textLines body))) := by
  rw [tidyLine]
  split
  next hcontent =>
    have hfront := h.take_eq hs hline hcontent
    have hblank : hasContent (indentation style body) = false := by
      simp [h.indentation_eq hs, hasContent, isIndent]
    have hheld : hasContent (line.drop (margin (textLines body))) = true := by
      calc hasContent (line.drop (margin (textLines body)))
          = (hasContent (indentation style body) ||
              hasContent (line.drop (margin (textLines body)))) := by rw [hblank, Bool.false_or]
        _ = hasContent line := by
            rw [← hfront, hasContent, hasContent, hasContent, ← List.any_append,
              List.take_append_drop]
        _ = true := hcontent
    rw [← trimEnd_append_of_hasContent _ hheld, ← hfront, List.take_append_drop]
  next hblank =>
    rw [trimEnd_drop_of_blank (Bool.eq_false_iff.mpr hblank), List.append_nil]

/-! ### The text of a body -/

theorem Even.heldLines_ne_nil : heldLines body ≠ [] := by
  obtain ⟨line, hline, -⟩ := h.closing
  exact List.ne_nil_of_mem (List.mem_map_of_mem hline)

/-- Without escapes, the text is what the lines hold. -/
theorem Even.read?_eq : read? body = some (join ['\n'] (heldLines body)) := by
  have hplain : '\\' ∉ join ['\n'] (heldLines body) := by
    obtain ⟨inner, last, hlines⟩ :=
      (List.eq_nil_or_concat' (heldLines body)).resolve_left h.heldLines_ne_nil
    have hfree : ∀ line ∈ inner ++ [last], '\\' ∉ line := fun line hline hm =>
      h.unescaped ((subset_of_mem_heldLines (hlines ▸ hline)).1 hm)
    rw [hlines, join_concat]
    simp only [List.mem_append, List.mem_flatMap, List.mem_singleton] at hfree ⊢
    grind
  have hlines : (cut '\n' body).tail ≠ [] := by
    obtain ⟨line, hline, -⟩ := h.closing
    exact List.ne_nil_of_mem hline
  rw [read?, if_neg hlines]
  exact unescape?_of_notMem hplain

/-- The body ends in a line break exactly if its closing line is blank. -/
theorem Even.endsInLineBreak_eq {last : List Char} (hlast : last ∈ (textLines body).getLast?) :
    endsInLineBreak body = !hasContent last := by
  obtain ⟨before, hbody⟩ := exists_before_last hlast
  have hbreak : '\n' ∉ last := notMem_of_mem_cut (List.mem_of_mem_tail (List.mem_of_getLast? hlast))
  have hclosed : leavesOpen before = false := by
    refine not_leavesOpen_of_unescape? (unescape?_of_notMem fun hm => h.unescaped ?_)
    rw [hbody]
    exact List.mem_append_left _ hm
  rw [hbody]
  cases hcontent : hasContent last with
  | false =>
    rw [endsInLineBreak_append before (hasContent_eq_false_iff.mp hcontent), hclosed]
  | true =>
    exact endsInLineBreak_of_hasContent before hbreak hcontent

/-- The text ends in a line break exactly if the body does. -/
theorem Even.exists_held {text : List Char} (hread : read? body = some text) :
    ∃ held, text = held ++ if endsInLineBreak body then ['\n'] else [] := by
  obtain ⟨line, hline, hcontent, -⟩ := h.closing
  obtain ⟨inner, last, hlines⟩ := (List.eq_nil_or_concat' (textLines body)).resolve_left
    (List.ne_nil_of_mem hline)
  have hlast : last ∈ (textLines body).getLast? := by simp [hlines]
  rw [h.read?_eq, Option.some.injEq] at hread
  rw [h.endsInLineBreak_eq hlast, ← hread]
  cases hblank : hasContent last with
  | true => exact ⟨_, (List.append_nil _).symm⟩
  | false =>
    have hinner : line ∈ inner := by
      rw [hlines] at hline
      rcases List.mem_append.mp hline with hline | hline
      · exact hline
      · rw [List.mem_singleton.mp hline, hblank] at hcontent
        cases hcontent
    have hheld := trimEnd_drop_of_blank hblank (margin (textLines body))
    obtain ⟨front, l, rfl⟩ :=
      (List.eq_nil_or_concat' inner).resolve_left (List.ne_nil_of_mem hinner)
    rw [heldLines, hlines, List.map_append, List.map_singleton, join_concat, ← hlines, hheld,
      List.map_append, List.flatMap_append, List.map_singleton, List.flatMap_singleton,
      List.append_nil, ← List.append_assoc]
    exact ⟨_, rfl⟩

/-- **A body that is written again is a frame around its text.** -/
theorem Even.tidy_eq_framed {style : Style} (hs : style.useTabs = false) {held : List Char}
    (hread : read? body = some (held ++ if endsInLineBreak body then ['\n'] else [])) :
    tidy style body = framed (indentation style body) (endsInLineBreak body) held := by
  have htext : join ['\n'] (heldLines body) =
      held ++ if endsInLineBreak body then ['\n'] else [] := by
    rw [h.read?_eq] at hread
    exact Option.some.inj hread
  have hlines : (textLines body).map (tidyLine (indentation style body)) =
      (heldLines body).map (indentation style body ++ ·) := by
    rw [heldLines, List.map_map]
    exact List.map_congr_left fun line hline => h.tidyLine_eq hs hline
  have hfront : indentation style body ++
      (join ['\n'] (heldLines body)).flatMap (indentedChar (indentation style body)) =
        join ['\n'] ((heldLines body).map (indentation style body ++ ·)) :=
    indentation_append_flatMap _ h.heldLines_ne_nil fun line hline =>
      (subset_of_mem_heldLines hline).2
  rw [tidy, hlines, ← hfront, htext, framed]
  cases endsInLineBreak body with
  | true => simp [indentedChar]
  | false => simp

/-! ### Bodies that stay as they are -/

/-- Such bodies are written again as they are, and no others. -/
theorem Even.tidy_eq_self_iff (style : Style) : tidy style body = body ↔ LaidOut style body := by
  have hne : (textLines body).map (tidyLine (indentation style body)) ≠ [] := by
    obtain ⟨line, hline, -⟩ := h.closing
    exact List.ne_nil_of_mem (List.mem_map_of_mem hline)
  constructor
  · intro htidy
    have hended : endsInLineBreak body = true := by
      cases hended : endsInLineBreak body with
      | true => rfl
      | false =>
        refine absurd ?_ h.unescaped
        rw [← htidy, tidy, hended]
        simp
    rw [tidy, if_pos hended, List.append_nil] at htidy
    have hlines : textLines body = (textLines body).map (tidyLine (indentation style body)) := by
      conv_lhs => rw [textLines, ← htidy, cut_cons_self, List.tail_cons]
      refine cut_join hne fun line hline => ?_
      obtain ⟨l, hl, rfl⟩ := List.mem_map.mp hline
      exact notMem_tidyLine hl
    refine ⟨by rw [← htidy]; rfl, hended, fun line hline => tidyLine_eq_self_iff.mp ?_⟩
    exact List.map_inj_left.mp (hlines.symm.trans (List.map_id _).symm) line hline
  · rintro ⟨hopening, hended, hlines⟩
    obtain ⟨rest, rfl⟩ := List.head?_eq_some_iff.mp hopening
    have hmap : (textLines ('\n' :: rest)).map (tidyLine (indentation style ('\n' :: rest))) =
        cut '\n' rest := by
      rw [List.map_congr_left fun line hline => tidyLine_eq_self_iff.mpr (hlines line hline),
        List.map_id', textLines, cut_cons_self, List.tail_cons]
    rw [tidy, if_pos hended, List.append_nil, hmap, join_cut]

end

end EmbeddedSql.TextBlock
