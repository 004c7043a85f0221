import EmbeddedSql.Proofs.TextBlock.Framing

/-! A text block that is written over.

A new body is a frame around the text with its escapes, and both can be told from the body: the
closing line is the indentation, and the escapes are undone line by line, so the text comes back
whole (`textOf?_reindent`). The frame is the one of the body before, whatever its text was. So the
next text is laid out as if the one in between had never been there, and any number of texts one
after another leave the frame where it is (`reindent_reindent`). This needs a line of each text
that starts at the indentation: blanks that all lines have in front are taken for a part of it. -/
namespace EmbeddedSql.TextBlock

open Text

/-! ### Taking a frame away -/

/-- What stands in a frame: the line break in front, the closing line and the indentation of each
line are taken away, and the backslash at the end unless the text is ended. -/
def unframed? (indentation : List Char) (ended : Bool) (body : List Char) : Option (List Char) := do
  let lines ← (textLines body).dropLast.mapM (List.dropPrefix? · indentation)
  if ended then some (join ['\n'] lines) else dropLast? '\\' (join ['\n'] lines)

/-- Reads the escapes of each line from left to right. A line break cannot be escaped. -/
def unescapeLines? (text : List Char) : Option (List Char) :=
  ((cut '\n' text).mapM unescape?).map (join ['\n'])

/-- The text that has been written into a body. -/
def textOf? (indentation : List Char) (ended : Bool) (body : List Char) : Option (List Char) :=
  (unframed? indentation ended body).bind unescapeLines?

/-- What is undone one by one is undone in a list. -/
theorem mapM_map_eq_some {α β : Type} {done : α → β} {undo? : β → Option α}
    (h : ∀ x, undo? (done x) = some x) (xs : List α) : (xs.map done).mapM undo? = some xs := by
  induction xs with
  | nil => rfl
  | cons x xs ih =>
    rw [List.map_cons, List.mapM_cons, h, ih]
    rfl

section
variable {indentation : List Char} (hi : '\n' ∉ indentation)
include hi

/-- The lines in a frame stand behind the indentation, and the closing line is the indentation. -/
theorem textLines_framed (ended : Bool) (text : List Char) :
    textLines (framed indentation ended text) =
      (cut '\n' (text ++ if ended then [] else ['\\'])).map (indentation ++ ·) ++ [indentation] := by
  let whole := text ++ if ended then [] else ['\\']
  have hfree : ∀ line ∈ (cut '\n' whole).map (indentation ++ ·), '\n' ∉ line := by
    intro line hline
    obtain ⟨l, hl, rfl⟩ := List.mem_map.mp hline
    simpa using ⟨hi, notMem_of_mem_cut hl⟩
  have hframed : framed indentation ended text =
      '\n' :: (join ['\n'] ((cut '\n' whole).map (indentation ++ ·)) ++ '\n' :: indentation) := by
    rw [← indentation_append_flatMap indentation (cut_ne_nil '\n' whole) fun _ => notMem_of_mem_cut,
      join_cut, framed]
    cases ended <;> simp [whole, indentedChar]
  rw [hframed, textLines, cut_cons_self, List.tail_cons, cut_append_cons, cut_of_notMem hi,
    cut_join (by simpa using cut_ne_nil '\n' whole) hfree]

theorem unframed?_framed (ended : Bool) (text : List Char) :
    unframed? indentation ended (framed indentation ended text) = some text := by
  have hbare (line : List Char) : (indentation ++ line).dropPrefix? indentation = some line :=
    List.dropPrefix?_append_of_beq line BEq.rfl
  rw [unframed?, textLines_framed hi, List.dropLast_concat, mapM_map_eq_some hbare]
  simp only [Option.bind_eq_bind, Option.bind_some, join_cut]
  cases ended with
  | true => simp
  | false => simp [dropLast?_eq_some_iff]

end

theorem notMem_indentation (style : Style) (body : List Char) : '\n' ∉ indentation style body :=
  fun h => by simpa [isIndent] using isIndent_of_mem_indentation h

/-- The closing line of a new body is its indentation. -/
theorem getLast?_textLines_reindent (style : Style) (body text : List Char) :
    (textLines (reindent style body text)).getLast? = some (indentation style body) := by
  rw [reindent_eq_framed, textLines_framed (notMem_indentation style body),
    List.getLast?_concat]

/-! ### Undoing the escapes -/

theorem cut_spelled (text : List Char) : cut '\n' (spelled text) = writtenLines text :=
  cut_join (writtenLines_ne_nil text) fun _ => notMem_writtenLines

theorem unescapeLines?_spelled (text : List Char) : unescapeLines? (spelled text) = some text := by
  obtain ⟨inner, last, hcut, -⟩ := exists_cut_eq '\n' text
  have hlines : (inner.map innerLine ++ [escape last]).mapM unescape? = some (inner ++ [last]) := by
    rw [List.mapM_append, mapM_map_eq_some unescape?_innerLine_untrimmed, List.mapM_cons,
      unescape?_escape, List.mapM_nil]
    rfl
  rw [unescapeLines?, cut_spelled, writtenLines_eq hcut, hlines, ← hcut, Option.map_some, join_cut]

/-- **A body loses nothing of its text.** It can be told apart from the frame, so bodies are the
same only if their frames and their texts are. -/
theorem textOf?_reindent (style : Style) (body text : List Char) :
    textOf? (indentation style body) (endsInLineBreak body) (reindent style body text) = some text ∧
      ∀ style' body' text', reindent style body text = reindent style' body' text' ↔
        indentation style body = indentation style' body' ∧
          endsInLineBreak body = endsInLineBreak body' ∧ text = text' := by
  have htext (style body text) : textOf? (indentation style body) (endsInLineBreak body)
      (reindent style body text) = some text := by
    rw [textOf?, reindent_eq_framed, unframed?_framed (notMem_indentation style body),
      Option.bind_some, unescapeLines?_spelled]
  refine ⟨htext style body text, fun style' body' text' => ⟨fun h => ?_, ?_⟩⟩
  · have hindentation : indentation style body = indentation style' body' := by
      have hlast := getLast?_textLines_reindent style body text
      rw [h, getLast?_textLines_reindent] at hlast
      exact (Option.some.inj hlast).symm
    have hended : endsInLineBreak body = endsInLineBreak body' := by
      rw [← endsInLineBreak_reindent style body text, h, endsInLineBreak_reindent]
    have hsame := htext style body text
    rw [h, hindentation, hended, htext style' body' text'] at hsame
    exact ⟨hindentation, hended, (Option.some.inj hsame).symm⟩
  · rintro ⟨hindentation, hended, rfl⟩
    rw [reindent_eq_framed, reindent_eq_framed, hindentation, hended]

/-! ### Lines at the indentation -/

/-- A line that starts with something else than a blank. -/
def Flush (line : List Char) : Prop := ∃ c ∈ line.head?, isIndent c = false

-- Named, since the instance that tries all characters would fit as well.
instance (line : List Char) : Decidable (Flush line) :=
  Option.decidableExistsMem line.head?

/-- A text with a line that will start at the indentation. -/
def Anchored (text : List Char) : Prop := ∃ line ∈ cut '\n' text, Flush line

instance (text : List Char) : Decidable (Anchored text) :=
  inferInstanceAs (Decidable (∃ line ∈ cut '\n' text, Flush line))

theorem Flush.append {line : List Char} (h : Flush line) (tail : List Char) :
    Flush (line ++ tail) := by
  obtain ⟨c, hc, hcontent⟩ := h
  obtain ⟨rest, rfl⟩ := List.head?_eq_some_iff.mp hc
  exact ⟨c, rfl, hcontent⟩

theorem Flush.escape {line : List Char} (h : Flush line) : Flush (escape line) := by
  obtain ⟨c, hc, hcontent⟩ := h
  fun_cases TextBlock.escape line with
  | case1 => exact ⟨_, rfl, rfl⟩
  | case2 => exact ⟨_, rfl, rfl⟩
  | case3 d cs =>
    obtain rfl := Option.some.inj hc
    exact ⟨d, rfl, hcontent⟩
  | case4 => cases hc

theorem Flush.innerLine {line : List Char} (h : Flush line) : Flush (innerLine line) := by
  by_cases hs : [' '] <:+ line
  · obtain ⟨front, rfl⟩ := hs
    have hfront : Flush front := by
      obtain ⟨c, hc, hcontent⟩ := h
      cases front with
      | nil =>
        obtain rfl := Option.some.inj hc
        cases hcontent
      | cons d front => exact ⟨c, hc, hcontent⟩
    rw [innerLine_of_suffix]
    exact hfront.escape.append _
  · rw [innerLine_of_not_suffix hs]
    exact h.escape

theorem Flush.takeWhile_eq {line : List Char} (h : Flush line) : line.takeWhile isIndent = [] := by
  obtain ⟨c, hc, hcontent⟩ := h
  obtain ⟨rest, rfl⟩ := List.head?_eq_some_iff.mp hc
  rw [List.takeWhile_cons, hcontent]
  rfl

theorem Flush.hasContent {line : List Char} (h : Flush line) : hasContent line = true := by
  obtain ⟨c, hc, hcontent⟩ := h
  exact List.any_eq_true.mpr ⟨c, List.mem_of_mem_head? hc, by simp [hcontent]⟩

/-- A line of a text that starts at the indentation does so in the new body. -/
theorem exists_flush_bodyLines {text : List Char} {inner : List (List Char)} {last : List Char}
    (hcut : cut '\n' text = inner ++ [last]) (htext : Anchored text) (ended : Bool) :
    ∃ line ∈ bodyLines ended inner last, Flush line := by
  obtain ⟨line, hline, hflush⟩ := htext
  rw [hcut] at hline
  rcases List.mem_append.mp hline with hline | hline
  · exact ⟨_, List.mem_append_left _ (List.mem_map_of_mem hline), hflush.innerLine⟩
  · obtain rfl := List.mem_singleton.mp hline
    exact ⟨_, List.mem_append_right _ (.head _), hflush.escape.append _⟩

/-! ### Measuring a new body -/

theorem textLines_reindent {text : List Char} {inner : List (List Char)} {last : List Char}
    (h : cut '\n' text = inner ++ [last]) (style : Style) (body : List Char) :
    textLines (reindent style body text) =
      (bodyLines (endsInLineBreak body) inner last).map (indentation style body ++ ·) ++
        [indentation style body] := by
  have hwhole : spelled text ++ (if endsInLineBreak body then [] else ['\\']) =
      join ['\n'] (bodyLines (endsInLineBreak body) inner last) := by
    rw [spelled, writtenLines_eq h, bodyLines, join_concat, join_concat, List.append_assoc]
  rw [reindent_eq_framed, textLines_framed (notMem_indentation style body), hwhole,
    cut_join (by simp [bodyLines]) (notMem_bodyLines h _)]

/-- Writing an indentation again as it is measured gives the same. -/
theorem render_ofLine_render (style : Style) (i : Indent) :
    (Indent.ofLine (i.render style)).render style = i.render style := by
  have hblank : (i.render style).takeWhile isIndent = i.render style :=
    List.takeWhile_eq_self_iff.mpr fun _ => isIndent_of_mem_render
  rw [Indent.ofLine, hblank]
  cases htabs : style.useTabs with
  | true => simp [Indent.render, htabs, List.count_replicate]
  | false => simp [Indent.render, htabs, List.count_replicate, Indent.width]

/-- Only a line without blanks of its own is as narrow as the indentation in front of it. -/
theorem eq_of_width_le {tabSize : Nat} {i j : Indent} (htab : 1 ≤ tabSize)
    (hi : i.tabs * tabSize + i.spaces < UInt64.size)
    (hij : (i.tabs + j.tabs) * tabSize + (i.spaces + j.spaces) < UInt64.size)
    (hle : Indent.width tabSize ⟨i.tabs + j.tabs, i.spaces + j.spaces⟩ ≤ i.width tabSize) :
    (⟨i.tabs + j.tabs, i.spaces + j.spaces⟩ : Indent) = i := by
  rw [Indent.width, Indent.width, Nat.mod_eq_of_lt hi, Nat.mod_eq_of_lt hij, Nat.add_mul] at hle
  have htabs : j.tabs * tabSize = 0 := by omega
  have hnone : j.tabs = 0 := (Nat.mul_eq_zero.mp htabs).resolve_right (by omega)
  have hspaces : j.spaces = 0 := by omega
  rw [hnone, hspaces]
  rfl

section
variable {style : Style} {body text : List Char}

/-- Each line stands behind the indentation. -/
theorem exists_behind_indentation {line : List Char}
    (hline : line ∈ textLines (reindent style body text)) :
    ∃ l, line = indentation style body ++ l := by
  obtain ⟨inner, last, hcut, -⟩ := exists_cut_eq '\n' text
  rw [textLines_reindent hcut] at hline
  rcases List.mem_append.mp hline with hline | hline
  · obtain ⟨l, -, rfl⟩ := List.mem_map.mp hline
    exact ⟨l, rfl⟩
  · exact ⟨[], by rw [List.mem_singleton.mp hline, List.append_nil]⟩

/-- A line that starts at the indentation is as deep as it. -/
theorem exists_at_indentation (htext : Anchored text) (style : Style) (body : List Char) :
    ∃ line ∈ textLines (reindent style body text), hasContent line = true ∧
      Indent.ofLine line = Indent.ofLine (indentation style body) := by
  obtain ⟨inner, last, hcut, -⟩ := exists_cut_eq '\n' text
  have hblank : ∀ c ∈ indentation style body, isIndent c = true :=
    fun _ => isIndent_of_mem_indentation
  obtain ⟨line, hline, hflush⟩ := exists_flush_bodyLines hcut htext (endsInLineBreak body)
  refine ⟨indentation style body ++ line, ?_, ?_, ?_⟩
  · rw [textLines_reindent hcut]
    exact List.mem_append_left _ (List.mem_map_of_mem hline)
  · rw [hasContent_append hblank, hflush.hasContent]
  · rw [ofLine_append hblank, Indent.ofLine, Indent.ofLine, hflush.takeWhile_eq]
    rfl

/-- **A new body is indented as the one before.** -/
theorem indentation_reindent (htab : 1 ≤ style.tabSize) (htext : Anchored text)
    (hfits : Measurable style.tabSize (reindent style body text)) :
    indentation style (reindent style body text) = indentation style body := by
  have hblank : ∀ c ∈ indentation style body, isIndent c = true :=
    fun _ => isIndent_of_mem_indentation
  obtain ⟨base, hbase, hheld, hdepth⟩ := exists_at_indentation htext style body
  obtain ⟨line, hline, hcontent, hshortest, hle⟩ :=
    exists_narrowest style.tabSize ⟨base, hbase, hheld⟩
  have hnarrow := hle base hbase hheld
  have hfit := hfits base hbase hheld
  have hfits := hfits line hline hcontent
  obtain ⟨l, rfl⟩ := exists_behind_indentation hline
  rw [ofLine_append hblank] at hshortest hfits
  rw [hdepth] at hnarrow hfit
  rw [hshortest] at hnarrow
  rw [indentation, hshortest, eq_of_width_le htab hfit hfits hnarrow]
  exact render_ofLine_render style _

end

/-! ### Writing again and again -/

/-- Two bodies that a text is laid out in alike. -/
structure SameFrame (style : Style) (body other : List Char) : Prop where
  indentation : indentation style other = indentation style body
  ended : endsInLineBreak other = endsInLineBreak body

section
variable {style : Style} {body other : List Char}

theorem SameFrame.reindent_eq (h : SameFrame style body other) (text : List Char) :
    reindent style other text = reindent style body text := by
  rw [reindent_eq_framed, reindent_eq_framed, h.indentation, h.ended]

/-- One text leaves the frame as it was. -/
theorem sameFrame_reindent {text : List Char} (htab : 1 ≤ style.tabSize) (htext : Anchored text)
    (hfits : Measurable style.tabSize (reindent style body text)) :
    SameFrame style body (reindent style body text) :=
  ⟨indentation_reindent htab htext hfits, endsInLineBreak_reindent style body text⟩

/-- And so does one text after another. -/
theorem SameFrame.foldl {texts : List (List Char)} (hsame : SameFrame style body other)
    (htab : 1 ≤ style.tabSize)
    (h : ∀ f ∈ texts, Anchored f ∧ Measurable style.tabSize (reindent style body f)) :
    SameFrame style body (texts.foldl (reindent style) other) := by
  induction texts generalizing other with
  | nil => exact hsame
  | cons f texts ih =>
    rw [List.forall_mem_cons] at h
    refine ih ?_ h.2
    rw [hsame.reindent_eq f]
    exact sameFrame_reindent htab h.1.1 h.1.2

/-- **Writing over a text forgets it**: whatever has been written into a body before, one text or
any number of them, the next one is laid out as in the first body. -/
theorem reindent_reindent {texts : List (List Char)} (htab : 1 ≤ style.tabSize)
    (h : ∀ f ∈ texts, Anchored f ∧ Measurable style.tabSize (reindent style body f)) :
    (∀ f ∈ texts, SameFrame style body (reindent style body f) ∧
        ∀ g, reindent style (reindent style body f) g = reindent style body g) ∧
      SameFrame style body (texts.foldl (reindent style) body) ∧
        ∀ g, reindent style (texts.foldl (reindent style) body) g = reindent style body g := by
  have hall : SameFrame style body (texts.foldl (reindent style) body) :=
    SameFrame.foldl ⟨rfl, rfl⟩ htab h
  refine ⟨fun f hf => ?_, hall, hall.reindent_eq⟩
  have hone := sameFrame_reindent htab (h f hf).1 (h f hf).2
  exact ⟨hone, hone.reindent_eq⟩

end

/-- Two texts behind a tab and a space, one with a blank line and a space at an end, one with a tab
and a backslash, and a third one over them. -/
theorem reindent_reindent_tabs :
    ["SELECT \n\n  1".toList, "\t'\\'\n; ".toList].foldl (reindent ⟨true, 4⟩)
        "\n\t SELECT 1;\\\n\t ".toList = "\n\t \t'\\\\'\n\t ; \\\n\t ".toList ∧
      reindent ⟨true, 4⟩ (["SELECT \n\n  1".toList, "\t'\\'\n; ".toList].foldl
        (reindent ⟨true, 4⟩) "\n\t SELECT 1;\\\n\t ".toList) "SELECT 2".toList =
          "\n\t SELECT 2\\\n\t ".toList := by
  have hforgets := @reindent_reindent ⟨true, 4⟩ "\n\t SELECT 1;\\\n\t ".toList
    ["SELECT \n\n  1".toList, "\t'\\'\n; ".toList] (by decide) (by decide)
  exact ⟨by decide, (hforgets.2.2 _).trans (by decide)⟩

/-- Blanks in front of all lines of a text are taken for a part of the indentation. -/
example : reindent {} (reindent {} "\n  a\n  ".toList "  b".toList) "c".toList =
    "\n    c\n    ".toList := by
  decide

end EmbeddedSql.TextBlock
