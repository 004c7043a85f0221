import EmbeddedSql.Proofs.TextBlock.Reading
import Mathlib.Data.List.MinMax

/-! How deep a body is indented.

The indentation of a body is found in one pass over its characters. What the pass knows behind any
part of the body can be told from the lines that have begun there, each by itself
(`Scan.foldl_step`). So it finds the first of the narrowest lines that hold something, and falls
back on the last line if there are none (`shortestIndent_eq_iff`). -/
namespace EmbeddedSql.TextBlock

open Text

/-- The lines of a body that a text is read from. -/
def textLines (body : List Char) : List (List Char) := (cut '\n' body).tail

/-- What is in front of the first character that is neither a space nor a tab. -/
def Indent.ofLine (line : List Char) : Indent :=
  let front := line.takeWhile isIndent
  ⟨front.count '\t', front.count ' '⟩

/-! ### Lines that grow -/

theorem hasContent_eq_false_iff {line : List Char} :
    hasContent line = false ↔ ∀ c ∈ line, isIndent c = true := by
  simp [hasContent]

section
variable {front : List Char} (hfront : ∀ c ∈ front, isIndent c = true)
include hfront

/-- Behind blanks, a line is as deep as they and the line itself. -/
theorem ofLine_append (line : List Char) :
    Indent.ofLine (front ++ line) =
      ⟨(Indent.ofLine front).tabs + (Indent.ofLine line).tabs,
        (Indent.ofLine front).spaces + (Indent.ofLine line).spaces⟩ := by
  simp only [Indent.ofLine, List.takeWhile_append_of_pos hfront,
    List.takeWhile_eq_self_iff.mpr hfront, List.count_append]

theorem hasContent_append (line : List Char) : hasContent (front ++ line) = hasContent line := by
  have hblank := hasContent_eq_false_iff.mpr hfront
  rw [hasContent, List.any_append, ← hasContent, ← hasContent, hblank, Bool.false_or]

end

theorem hasContent_concat (line : List Char) (c : Char) :
    hasContent (line ++ [c]) = (hasContent line || !isIndent c) := by
  simp [hasContent]

/-- What stands behind the first character of another kind does not count. -/
theorem ofLine_concat_of_hasContent {line : List Char} (h : hasContent line = true) (c : Char) :
    Indent.ofLine (line ++ [c]) = Indent.ofLine line := by
  have hshort : (line.takeWhile isIndent).length ≠ line.length := by
    intro hlength
    have hall := List.takeWhile_eq_self_iff.mp
      ((List.takeWhile_prefix isIndent).eq_of_length hlength)
    rw [hasContent_eq_false_iff.mpr hall] at h
    cases h
  rw [Indent.ofLine, List.takeWhile_append, if_neg hshort, Indent.ofLine]

theorem ofLine_concat_of_isIndent {line : List Char} (h : hasContent line = false) {c : Char}
    (hc : isIndent c = true) : Indent.ofLine (line ++ [c]) = (Indent.ofLine line).widen c := by
  rw [ofLine_append (hasContent_eq_false_iff.mp h)]
  have hkind : c = ' ' ∨ c = '\t' := by simpa [isIndent] using hc
  rcases hkind with rfl | rfl <;> rfl

theorem ofLine_concat_of_not_isIndent {line : List Char} (h : hasContent line = false) {c : Char}
    (hc : isIndent c = false) : Indent.ofLine (line ++ [c]) = Indent.ofLine line := by
  have hnone : Indent.ofLine [c] = ⟨0, 0⟩ := by simp [Indent.ofLine, hc]
  rw [ofLine_append (hasContent_eq_false_iff.mp h), hnone]
  rfl

theorem textLines_eq_nil_iff {body : List Char} : textLines body = [] ↔ '\n' ∉ body := by
  constructor
  · intro h
    obtain ⟨first, rest, hcut⟩ := List.exists_cons_of_ne_nil (cut_ne_nil '\n' body)
    rw [textLines, hcut, List.tail_cons] at h
    have hbody := join_cut '\n' body
    rw [hcut, h, join, List.intercalate_singleton] at hbody
    exact hbody ▸ notMem_of_mem_cut (hcut ▸ List.mem_cons_self ..)
  · intro h
    rw [textLines, cut_of_notMem h, List.tail_cons]

theorem textLines_concat_break (body : List Char) :
    textLines (body ++ ['\n']) = textLines body ++ [[]] := by
  rw [textLines, textLines, cut_append_cons, List.tail_append_of_ne_nil (cut_ne_nil '\n' body)]
  rfl

/-- A character goes into the last line, if one has begun. -/
theorem textLines_concat {c : Char} (hc : c ≠ '\n') (body : List Char) :
    (textLines body = [] ∧ textLines (body ++ [c]) = []) ∨
      ∃ inner line, textLines body = inner ++ [line] ∧
        textLines (body ++ [c]) = inner ++ [line ++ [c]] := by
  obtain ⟨inner, last, hcut, hbody⟩ := exists_cut_eq '\n' body
  have hlast : '\n' ∉ last := notMem_of_mem_cut (hcut ▸ List.mem_append_right inner (.head _))
  have hmore : cut '\n' (body ++ [c]) = inner ++ [last ++ [c]] := by
    rw [hbody, List.append_assoc,
      cut_ended_append fun line hline => notMem_of_mem_cut (hcut ▸ List.mem_append_left _ hline),
      cut_of_notMem (by simp [hlast, Ne.symm hc])]
  rw [textLines, textLines, hcut, hmore]
  cases inner with
  | nil => exact .inl ⟨rfl, rfl⟩
  | cons first inner => exact .inr ⟨inner, last, rfl, rfl⟩

/-! ### One pass -/

/-- The narrowest of some lines, those without content left out; the first one if there are
several. -/
def narrowest? (tabSize : Nat) (lines : List (List Char)) : Option Indent :=
  ((lines.filter hasContent).map Indent.ofLine).argmin (Indent.width tabSize)

/-- What is known behind some lines, the last of which may go on. -/
def Scan.behind (tabSize : Nat) (lines : List (List Char)) : Scan where
  shortest := narrowest? tabSize lines
  current := ((lines.getLast?.filter (!hasContent ·)).map Indent.ofLine).getD Indent.none
  afterBreak := lines.getLast?.any (!hasContent ·)

section
variable (tabSize : Nat)

theorem narrowest?_concat_of_blank {line : List Char} (h : hasContent line = false)
    (inner : List (List Char)) : narrowest? tabSize (inner ++ [line]) = narrowest? tabSize inner := by
  simp [narrowest?, h]

theorem narrowest?_concat_of_hasContent {line : List Char} (h : hasContent line = true)
    (inner : List (List Char)) :
    narrowest? tabSize (inner ++ [line]) =
      some ((narrowest? tabSize inner).elim (Indent.ofLine line)
        (Indent.narrower tabSize · (Indent.ofLine line))) := by
  have hmore : ((inner ++ [line]).filter hasContent).map Indent.ofLine =
      (inner.filter hasContent).map Indent.ofLine ++ [Indent.ofLine line] := by simp [h]
  rw [narrowest?, hmore, List.argmin_concat, ← narrowest?]
  cases narrowest? tabSize inner with
  | none => rfl
  | some i => exact (apply_ite some ..).symm

theorem Scan.behind_of_blank {line : List Char} (h : hasContent line = false)
    (inner : List (List Char)) :
    behind tabSize (inner ++ [line]) = ⟨narrowest? tabSize inner, Indent.ofLine line, true⟩ := by
  simp [behind, narrowest?_concat_of_blank tabSize h, Option.filter_some, h]

theorem Scan.behind_of_hasContent {line : List Char} (h : hasContent line = true)
    (inner : List (List Char)) :
    behind tabSize (inner ++ [line]) =
      ⟨narrowest? tabSize (inner ++ [line]), Indent.none, false⟩ := by
  simp [behind, Option.filter_some, h]

/-! A line break begins a line, and each other character goes on with one. -/

theorem Scan.step_break (lines : List (List Char)) :
    (behind tabSize lines).step tabSize '\n' = behind tabSize (lines ++ [[]]) := by
  rw [behind_of_blank tabSize rfl]
  rfl

theorem Scan.step_opening {c : Char} (hc : c ≠ '\n') :
    (behind tabSize []).step tabSize c = behind tabSize [] := by
  rw [step, if_neg hc]
  rfl

theorem Scan.step_line {c : Char} (hc : c ≠ '\n') (inner : List (List Char)) (line : List Char) :
    (behind tabSize (inner ++ [line])).step tabSize c =
      behind tabSize (inner ++ [line ++ [c]]) := by
  cases hline : hasContent line with
  | true =>
    have hmore : hasContent (line ++ [c]) = true := by rw [hasContent_concat, hline, Bool.true_or]
    rw [behind_of_hasContent tabSize hline, behind_of_hasContent tabSize hmore, step, if_neg hc,
      narrowest?_concat_of_hasContent tabSize hline, narrowest?_concat_of_hasContent tabSize hmore,
      ofLine_concat_of_hasContent hline]
    rfl
  | false =>
    rw [behind_of_blank tabSize hline, step, if_neg hc]
    cases hkind : isIndent c with
    | true =>
      have hmore : hasContent (line ++ [c]) = false := by rw [hasContent_concat, hline, hkind]; rfl
      rw [behind_of_blank tabSize hmore, ofLine_concat_of_isIndent hline hkind]
      rfl
    | false =>
      have hmore : hasContent (line ++ [c]) = true := by rw [hasContent_concat, hline, hkind]; rfl
      rw [behind_of_hasContent tabSize hmore, narrowest?_concat_of_hasContent tabSize hmore,
        ofLine_concat_of_not_isIndent hline hkind]
      rfl

/-- **Behind any part of a body, a scan knows what its lines say**, one by one. -/
theorem Scan.foldl_step (body : List Char) :
    body.foldl (step tabSize) {} = behind tabSize (textLines body) := by
  -- What has been read grows at its end, where the last line is still open.
  induction body using List.reverseRecOn with
  | nil => rfl
  | append_singleton body c ih =>
    rw [List.foldl_concat, ih]
    by_cases hc : c = '\n'
    · rw [hc, step_break, textLines_concat_break]
    · obtain ⟨hnone, hstill⟩ | ⟨inner, line, hlines, hmore⟩ := textLines_concat hc body
      · rw [hnone, hstill, step_opening tabSize hc]
      · rw [hlines, hmore, step_line tabSize hc]

theorem narrowest?_eq_none_iff {lines : List (List Char)} :
    narrowest? tabSize lines = none ↔ ∀ line ∈ lines, hasContent line = false := by
  simp [narrowest?]

/-- A scan ends with the narrowest line, or else with the last one. -/
theorem shortestIndent_eq (body : List Char) :
    shortestIndent tabSize body = (narrowest? tabSize (textLines body)).getD
      (((textLines body).getLast?.map Indent.ofLine).getD Indent.none) := by
  rw [shortestIndent, Scan.foldl_step, Scan.found]
  cases hlines : narrowest? tabSize (textLines body) with
  | some i => simp [Scan.behind, hlines]
  | none =>
    have hblank := (narrowest?_eq_none_iff tabSize).mp hlines
    rcases List.eq_nil_or_concat' (textLines body) with hnone | ⟨inner, last, hlast⟩
    · simp [Scan.behind, hnone, narrowest?]
    · have hheld : hasContent last = false := hblank last (by simp [hlast])
      rw [hlast, narrowest?_concat_of_blank tabSize hheld] at hlines
      rw [hlast, Scan.behind_of_blank tabSize hheld, hlines]
      simp

end

/-! ### Line by line -/

section
variable {α : Type} {size : α → Nat} {x : α}

/-- The least member that is found is the first of several. -/
theorem exists_append_of_argmin [DecidableEq α] {xs : List α} (h : xs.argmin size = some x) :
    ∃ before behind, xs = before ++ x :: behind ∧ (∀ y ∈ before, size x < size y) ∧
      ∀ y ∈ behind, size x ≤ size y := by
  obtain ⟨before, behind, rfl, hx⟩ := List.eq_append_cons_of_mem (List.argmin_mem h)
  refine ⟨before, behind, rfl, fun y hy => ?_, fun y hy => ?_⟩
  · by_contra hle
    have hplace := List.index_of_argmin h (List.mem_append_left _ hy) (Nat.le_of_not_lt hle)
    rw [List.idxOf_append_of_notMem hx, List.idxOf_append_of_mem hy] at hplace
    have hlt := List.idxOf_lt_length_of_mem hy
    omega
  · exact List.le_of_mem_argmin (by simp [hy]) h

theorem argmin_append_cons {before behind : List α} (hbefore : ∀ y ∈ before, size x < size y)
    (hbehind : ∀ y ∈ behind, size x ≤ size y) :
    (before ++ x :: behind).argmin size = some x := by
  induction before with
  | nil =>
    rw [List.nil_append, List.argmin_cons]
    cases hleast : behind.argmin size with
    | none => rfl
    | some least => exact if_neg (Nat.not_lt.mpr (hbehind least (List.argmin_mem hleast)))
  | cons y before ih =>
    rw [List.forall_mem_cons] at hbefore
    rw [List.cons_append, List.argmin_cons, ih hbefore.2]
    exact if_pos hbefore.1

end

/-- The indentation that a body is measured by, line by line, if `size` is the width of one. -/
inductive Measured (size : Indent → Nat) (body : List Char) : Indent → Prop
  /-- Of the lines that hold something the narrowest one counts, and the first of several. -/
  | line {before behind : List (List Char)} {line : List Char} :
      textLines body = before ++ line :: behind → hasContent line = true →
      (∀ other ∈ before, hasContent other = true →
        size (Indent.ofLine line) < size (Indent.ofLine other)) →
      (∀ other ∈ behind, hasContent other = true →
        size (Indent.ofLine line) ≤ size (Indent.ofLine other)) →
      Measured size body (Indent.ofLine line)
  /-- If none of them holds anything, the last one counts. -/
  | blanks {last : List Char} : (∀ line ∈ textLines body, hasContent line = false) →
      last ∈ (textLines body).getLast? → Measured size body (Indent.ofLine last)
  | unbroken : '\n' ∉ body → Measured size body Indent.none

section
variable {tabSize : Nat} {body : List Char}

theorem narrowest?_eq_some_iff {lines : List (List Char)} {i : Indent} :
    narrowest? tabSize lines = some i ↔ ∃ before line behind, lines = before ++ line :: behind ∧
      hasContent line = true ∧ Indent.ofLine line = i ∧
      (∀ other ∈ before, hasContent other = true →
        i.width tabSize < (Indent.ofLine other).width tabSize) ∧
      ∀ other ∈ behind, hasContent other = true →
        i.width tabSize ≤ (Indent.ofLine other).width tabSize := by
  constructor
  · intro h
    obtain ⟨before, behind, hmap, hbefore, hbehind⟩ := exists_append_of_argmin h
    obtain ⟨held, _, hheld, rfl, hrest⟩ := List.map_eq_append_iff.mp hmap
    obtain ⟨line, rest, rfl, rfl, rfl⟩ := List.map_eq_cons_iff.mp hrest
    -- Lines of blanks that have been left out stand between those that are compared.
    obtain ⟨front, back, rfl, rfl, hback⟩ := List.filter_eq_append_iff.mp hheld
    obtain ⟨blanks, behind, rfl, hblanks, hcontent, rfl⟩ := List.filter_eq_cons_iff.mp hback
    refine ⟨front ++ blanks, line, behind, by simp, hcontent, rfl, ?_, ?_⟩
    · intro other hother hheld
      rcases List.mem_append.mp hother with hother | hother
      · exact hbefore _ (List.mem_map_of_mem (List.mem_filter.mpr ⟨hother, hheld⟩))
      · exact absurd hheld (hblanks other hother)
    · intro other hother hheld
      exact hbehind _ (List.mem_map_of_mem (List.mem_filter.mpr ⟨hother, hheld⟩))
  · rintro ⟨before, line, behind, rfl, hcontent, rfl, hbefore, hbehind⟩
    have hsplit : ((before ++ line :: behind).filter hasContent).map Indent.ofLine =
        (before.filter hasContent).map Indent.ofLine ++
          Indent.ofLine line :: (behind.filter hasContent).map Indent.ofLine := by
      simp [hcontent]
    rw [narrowest?, hsplit]
    apply argmin_append_cons <;> rw [List.forall_mem_map]
    · simpa using hbefore
    · simpa using hbehind

/-- The indentation that is found is the one that the lines are measured by, as far as widths are
numbers of 64 bits. -/
theorem shortestIndent_eq_iff_measured {i : Indent} :
    shortestIndent tabSize body = i ↔ Measured (Indent.width tabSize) body i := by
  constructor
  · rintro rfl
    rw [shortestIndent_eq]
    cases hlines : narrowest? tabSize (textLines body) with
    | some i =>
      obtain ⟨before, line, behind, hall, hcontent, rfl, hbefore, hbehind⟩ :=
        narrowest?_eq_some_iff.mp hlines
      exact .line hall hcontent hbefore hbehind
    | none =>
      have hblank := (narrowest?_eq_none_iff tabSize).mp hlines
      cases hlast : (textLines body).getLast? with
      | some last => exact .blanks hblank hlast
      | none => exact .unbroken (textLines_eq_nil_iff.mp (List.getLast?_eq_none_iff.mp hlast))
  · intro h
    rw [shortestIndent_eq]
    cases h with
    | line hall hcontent hbefore hbehind =>
      rw [narrowest?_eq_some_iff.mpr ⟨_, _, _, hall, hcontent, rfl, hbefore, hbehind⟩]
      rfl
    | blanks hblank hlast =>
      rw [(narrowest?_eq_none_iff tabSize).mpr hblank, Option.mem_def.mp hlast]
      rfl
    | unbroken hbreak =>
      rw [textLines_eq_nil_iff.mpr hbreak]
      rfl

/-- A body with content is measured by one of its lines, and none of them is narrower. -/
theorem exists_narrowest (tabSize : Nat) {body : List Char}
    (h : ∃ line ∈ textLines body, hasContent line = true) :
    ∃ line ∈ textLines body, hasContent line = true ∧
      shortestIndent tabSize body = Indent.ofLine line ∧
      ∀ other ∈ textLines body, hasContent other = true →
        (shortestIndent tabSize body).width tabSize ≤ (Indent.ofLine other).width tabSize := by
  obtain ⟨held, hheld, hcontent⟩ := h
  cases hlines : narrowest? tabSize (textLines body) with
  | none =>
    rw [(narrowest?_eq_none_iff tabSize).mp hlines held hheld] at hcontent
    cases hcontent
  | some i =>
    obtain ⟨before, line, behind, hall, hcontent, rfl, hbefore, hbehind⟩ :=
      narrowest?_eq_some_iff.mp hlines
    rw [shortestIndent_eq, hlines, Option.getD_some, hall]
    refine ⟨line, by simp, hcontent, rfl, fun other hother hheld => ?_⟩
    rcases List.mem_append.mp hother with hother | hother
    · exact (hbefore other hother hheld).le
    · rcases List.mem_cons.mp hother with rfl | hother
      · exact le_rfl
      · exact hbehind other hother hheld

/-- Only the widths of the lines that hold something are compared. -/
theorem Measured.congr {size size' : Indent → Nat} {i : Indent} (h : Measured size body i)
    (hsize : ∀ line ∈ textLines body, hasContent line = true →
      size (Indent.ofLine line) = size' (Indent.ofLine line)) : Measured size' body i := by
  cases h with
  | @line before behind line hall hcontent hbefore hbehind =>
    rw [hall] at hsize
    have hself := hsize line (by simp) hcontent
    refine .line hall hcontent (fun other hother hheld => ?_) fun other hother hheld => ?_
    · rw [← hself, ← hsize other (by simp [hother]) hheld]
      exact hbefore other hother hheld
    · rw [← hself, ← hsize other (by simp [hother]) hheld]
      exact hbehind other hother hheld
  | blanks hblank hlast => exact .blanks hblank hlast
  | unbroken hbreak => exact .unbroken hbreak

/-- Lines of blanks do not count beside others, nor does what is in front of the first line
break. -/
theorem shortestIndent_congr {other : List Char}
    (hheld : (textLines other).filter hasContent = (textLines body).filter hasContent)
    (hlast : (∀ line ∈ textLines body, hasContent line = false) →
      (textLines other).getLast? = (textLines body).getLast?) :
    shortestIndent tabSize other = shortestIndent tabSize body := by
  have hsame : narrowest? tabSize (textLines other) = narrowest? tabSize (textLines body) := by
    rw [narrowest?, narrowest?, hheld]
  rw [shortestIndent_eq, shortestIndent_eq, hsame]
  cases hlines : narrowest? tabSize (textLines body) with
  | some i => rfl
  | none => rw [hlast ((narrowest?_eq_none_iff tabSize).mp hlines)]

end

/-! ### Widths without a bound -/

/-- The columns of an indentation. -/
def Indent.columns (tabSize : Nat) (i : Indent) : Nat := i.tabs * tabSize + i.spaces

/-- The widths of all lines with content are numbers of 64 bits. -/
def Measurable (tabSize : Nat) (body : List Char) : Prop :=
  ∀ line ∈ textLines body, hasContent line = true →
    (Indent.ofLine line).tabs * tabSize + (Indent.ofLine line).spaces < UInt64.size

instance (tabSize : Nat) (body : List Char) : Decidable (Measurable tabSize body) :=
  inferInstanceAs (Decidable (∀ line ∈ textLines body, hasContent line = true →
    (Indent.ofLine line).tabs * tabSize + (Indent.ofLine line).spaces < UInt64.size))

/-- **The pass finds what the lines say**: behind the first line break, the indentation of the first
of the narrowest lines that hold something, else of the last line, else none. Nothing but these
lines counts. -/
theorem shortestIndent_eq_iff {tabSize : Nat} {body : List Char} (h : Measurable tabSize body) :
    (∀ i, shortestIndent tabSize body = i ↔ Measured (Indent.columns tabSize) body i) ∧
      ∀ other, (textLines other).filter hasContent = (textLines body).filter hasContent →
        ((∀ line ∈ textLines body, hasContent line = false) →
          (textLines other).getLast? = (textLines body).getLast?) →
        shortestIndent tabSize other = shortestIndent tabSize body := by
  have hsize : ∀ line ∈ textLines body, hasContent line = true →
      (Indent.ofLine line).width tabSize = (Indent.ofLine line).columns tabSize :=
    fun line hline hcontent => Nat.mod_eq_of_lt (h line hline hcontent)
  refine ⟨fun i => shortestIndent_eq_iff_measured.trans ⟨fun hi => ?_, fun hi => ?_⟩,
    fun other => shortestIndent_congr⟩
  · exact hi.congr hsize
  · exact hi.congr fun line hline hcontent => (hsize line hline hcontent).symm

/-- If a tab is as wide as two spaces, two lines are the narrowest with content. -/
def tied : List Char := "SELECT\n\ta,\n \n  b\n    FROM t\n".toList

/-- The first of them counts. The blank line between them may go, and so may the text in front. -/
theorem shortestIndent_of_tied :
    Measurable 2 tied ∧ Measured (Indent.columns 2) tied ⟨1, 0⟩ ∧
      shortestIndent 2 "\n\ta,\n  b\n    FROM t".toList = shortestIndent 2 tied := by
  have hfits : Measurable 2 tied := by decide
  have hlines := shortestIndent_eq_iff hfits
  exact ⟨hfits, (hlines.1 _).mp (by decide), hlines.2 _ (by decide) (by decide)⟩

/-- Without other lines, the blanks behind the last line break count. -/
example : shortestIndent 4 "SELECT 1\n \n\t  ".toList = ⟨1, 2⟩ := by decide

end EmbeddedSql.TextBlock
