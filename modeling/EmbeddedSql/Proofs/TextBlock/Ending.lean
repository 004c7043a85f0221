import EmbeddedSql.Proofs.TextBlock.Delimiter

/-! How a body ends.

A backslash takes the character behind it with it, so whether a line break counts hangs on what
a reader from left to right has met before it. It can be told from the right as well: of some
backslashes in a row each second one is taken by the one in front (`leavesOpen_eq`). What has
been escaped leaves no backslash open, so a new body ends in a line break exactly if the old one
did (`endsInLineBreak_reindent`). Whether a body does is thus a matter of what a reader of all of it
finds at its last line break (`endsInLineBreak_iff`). -/
namespace EmbeddedSql.TextBlock

open Text

/-! ### Backslashes from the left -/

/-- Whether a reader from left to right is left with a backslash that takes what follows. -/
def leavesOpen : List Char → Bool
  | [] => false
  | ['\\'] => true
  | '\\' :: _ :: cs => leavesOpen cs
  | _ :: cs => leavesOpen cs

theorem leavesOpen_cons_of_ne {c : Char} (h : c ≠ '\\') (cs : List Char) :
    leavesOpen (c :: cs) = leavesOpen cs := by
  rw [leavesOpen.eq_4] <;> simp_all

theorem leavesOpen_append {a : List Char} (ha : leavesOpen a = false) (b : List Char) :
    leavesOpen (a ++ b) = leavesOpen b := by
  induction a using unescaping with
  | nil => rfl
  | last => cases ha
  | backslash c cs ih => exact ih ha
  | plain c cs hc ih =>
    rw [leavesOpen_cons_of_ne hc] at ha
    rw [List.cons_append, leavesOpen_cons_of_ne hc, ih ha]

/-- The character behind an open backslash is passed over, whatever it is. -/
theorem leavesOpen_append_cons {a : List Char} (ha : leavesOpen a = true) (c : Char)
    (b : List Char) : leavesOpen (a ++ c :: b) = leavesOpen b := by
  induction a using unescaping with
  | nil => cases ha
  | last => rfl
  | backslash d cs ih => exact ih ha
  | plain d cs hd ih =>
    rw [leavesOpen_cons_of_ne hd] at ha
    rw [List.cons_append, leavesOpen_cons_of_ne hd, ih ha]

/-- What can be read leaves no backslash open. -/
theorem not_leavesOpen_of_unescape? {cs meant : List Char} (h : unescape? cs = some meant) :
    leavesOpen cs = false := by
  induction cs using unescaping generalizing meant with
  | nil => rfl
  | last => cases h
  | backslash c cs ih =>
    simp only [unescape?_backslash, Option.bind_eq_some_iff, Option.map_eq_some_iff] at h
    obtain ⟨_, -, y, hy, -⟩ := h
    exact ih hy
  | plain c cs hc ih =>
    rw [unescape?_cons_of_ne hc] at h
    obtain ⟨x, hx, -⟩ := Option.map_eq_some_iff.mp h
    rw [leavesOpen_cons_of_ne hc, ih hx]

/-! ### Backslashes from the right -/

@[simp] theorem finalBackslashes_concat (cs : List Char) (c : Char) :
    finalBackslashes (cs ++ [c]) = if c = '\\' then finalBackslashes cs + 1 else 0 := by
  rw [finalBackslashes, List.reverse_concat, List.takeWhile_cons]
  by_cases hc : c = '\\' <;> simp [hc, finalBackslashes]

/-- **A backslash is open exactly if the number of those at the end is odd.** -/
theorem leavesOpen_eq (cs : List Char) :
    leavesOpen cs = decide (finalBackslashes cs % 2 = 1) := by
  induction cs using List.reverseRecOn with
  | nil => rfl
  | append_singleton cs c ih =>
    have hone : leavesOpen [c] = decide (c = '\\') := by
      by_cases hc : c = '\\'
      · subst hc
        rfl
      · rw [leavesOpen_cons_of_ne hc, decide_eq_false hc, leavesOpen]
    rw [finalBackslashes_concat]
    cases hopen : leavesOpen cs with
    | true =>
      have hodd := of_decide_eq_true (ih.symm.trans hopen)
      rw [leavesOpen_append_cons hopen, leavesOpen, eq_comm, decide_eq_false_iff_not]
      split <;> omega
    | false =>
      have heven := of_decide_eq_false (ih.symm.trans hopen)
      rw [leavesOpen_append hopen, hone, decide_eq_decide]
      by_cases hc : c = '\\'
      · simp only [hc, if_true, true_iff]
        omega
      · simp [hc]

/-! ### The last line break -/

/-- A line break with blanks behind it counts unless an open backslash takes it. -/
theorem endsInLineBreak_append (before : List Char) {blanks : List Char}
    (hb : ∀ c ∈ blanks, isIndent c = true) :
    endsInLineBreak (before ++ '\n' :: blanks) = !leavesOpen before := by
  have hdrop : (before ++ '\n' :: blanks).reverse.dropWhile isIndent = '\n' :: before.reverse := by
    rw [List.reverse_append, List.reverse_cons, List.append_assoc,
      List.dropWhile_append_of_pos fun c hc => hb c (List.mem_reverse.mp hc)]
    rfl
  rw [endsInLineBreak, hdrop, leavesOpen_eq]
  simp only [List.reverse_reverse, ← decide_not]
  exact decide_eq_decide.mpr (by omega)

/-- What ends in a line break has only blanks behind its last one. -/
theorem exists_of_endsInLineBreak {body : List Char} (h : endsInLineBreak body = true) :
    ∃ before blanks, body = before ++ '\n' :: blanks ∧ ∀ c ∈ blanks, isIndent c = true := by
  rw [endsInLineBreak] at h
  split at h
  · next before hdrop =>
    refine ⟨before.reverse, (body.reverse.takeWhile isIndent).reverse, ?_, fun c hc => ?_⟩
    · calc body
          = (body.reverse.takeWhile isIndent ++ body.reverse.dropWhile isIndent).reverse := by
            rw [List.takeWhile_append_dropWhile, List.reverse_reverse]
        _ = before.reverse ++ '\n' :: (body.reverse.takeWhile isIndent).reverse := by
            rw [hdrop, List.reverse_append, List.reverse_cons, List.append_assoc,
              List.singleton_append]
    · exact List.mem_takeWhile_imp (List.mem_reverse.mp hc)
  · cases h

/-- **A new body ends in a line break exactly if the one that it replaces did**, whatever the
new text is and however it is indented. -/
theorem endsInLineBreak_reindent (style : Style) (body text : List Char) :
    endsInLineBreak (reindent style body text) = endsInLineBreak body := by
  have hi : ∀ c ∈ indentation style body, isIndent c = true := fun _ => isIndent_of_mem_indentation
  have hlines : leavesOpen
      ((writtenLines text).flatMap ('\n' :: indentation style body ++ ·)) = false := by
    obtain ⟨meant, hmeant⟩ := Option.isSome_iff_exists.mp
      (unescape?_lines hi fun _ => unescape?_writtenLines)
    exact not_leavesOpen_of_unescape? hmeant
  rw [reindent_eq_flatMap, ← List.append_assoc, endsInLineBreak_append _ hi,
    leavesOpen_append hlines]
  cases endsInLineBreak body <;> rfl

/-! ### One reader -/

/-- What a reader from left to right finds of each character: whether a backslash in front takes it,
as one does that is not taken itself. `first` says so of the first character. -/
def taken (first : Bool) : List Char → List Bool
  | [] => []
  | c :: cs => first :: taken (!first && c = '\\') cs

theorem getElem?_taken (a : List Char) (c : Char) (b : List Char) :
    (taken false (a ++ c :: b))[a.length]? = some (leavesOpen a) := by
  induction a using unescaping with
  | nil => rfl
  | last => rfl
  | backslash d cs ih => exact ih
  | plain d cs hd ih =>
    have hfree : (!false && decide (d = '\\')) = false := by simp [hd]
    rw [leavesOpen_cons_of_ne hd, List.cons_append, taken, hfree, List.length_cons,
      List.getElem?_cons_succ, ih]

/-- **Counted from the right or read from the left, a body ends in the same way**: it ends in a line
break exactly if there are only blanks behind its last one and a reader of the body finds that no
backslash takes it. -/
theorem endsInLineBreak_iff (body : List Char) :
    endsInLineBreak body = true ↔ ∃ before blanks, body = before ++ '\n' :: blanks ∧
      (∀ c ∈ blanks, isIndent c = true) ∧ (taken false body)[before.length]? = some false := by
  constructor
  · intro h
    obtain ⟨before, blanks, rfl, hblanks⟩ := exists_of_endsInLineBreak h
    rw [endsInLineBreak_append before hblanks, Bool.not_eq_true'] at h
    exact ⟨before, blanks, rfl, hblanks, by rw [getElem?_taken, h]⟩
  · rintro ⟨before, blanks, rfl, hblanks, hfree⟩
    rw [getElem?_taken, Option.some_inj] at hfree
    rw [endsInLineBreak_append before hblanks, hfree, Bool.not_false]

/-- The last of three backslashes takes the line break. -/
example : endsInLineBreak "SELECT '\\\\\\\n  ".toList = false := by decide

end EmbeddedSql.TextBlock
