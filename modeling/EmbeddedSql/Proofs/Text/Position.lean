import EmbeddedSql.Proofs.Text.Bytes
import EmbeddedSql.Proofs.Text.Lines
import Mathlib.Data.List.DropRight

/-! Positions and the boundaries that they stand for.

A boundary between two characters has a line, told by the line feeds in front of it, and a column,
told by what stands behind the last of them (`reached`). Whoever goes on comes to another position
(`eq_nil_of_afterAll`), so a reader who counts along a text meets each position at one boundary
only. `offset?_exact` says that a position resolves to its boundary and to nothing else, and which
positions have one. -/
namespace EmbeddedSql.Text

/-! ### Lines and columns -/

/-- The position behind a text. -/
def reached (front : List Char) : Position :=
  ⟨front.count '\n' + 1, (front.rtakeWhile (· ≠ '\n')).length + 1⟩

theorem reached_concat (front : List Char) (c : Char) :
    reached (front ++ [c]) = (reached front).after c := by
  rw [reached, List.count_append, List.rtakeWhile_concat, Position.after]
  by_cases hc : c = '\n'
  · subst hc
    simp [reached]
  · simp [reached, hc]

/-- Counting along a text comes to that position. -/
theorem afterAll_start (front : List Char) : Position.start.afterAll front = reached front := by
  induction front using List.reverseRecOn with
  | nil => rfl
  | append_singleton front c ih =>
    rw [reached_concat, ← ih, Position.afterAll, Position.afterAll, List.foldl_concat]

theorem afterAll_append (p : Position) (a b : List Char) :
    p.afterAll (a ++ b) = (p.afterAll a).afterAll b :=
  List.foldl_append

/-- On one line, each character takes a column. -/
theorem afterAll_of_notMem {cs : List Char} (h : '\n' ∉ cs) (p : Position) :
    p.afterAll cs = ⟨p.line, p.column + cs.length⟩ := by
  induction cs generalizing p with
  | nil => rfl
  | cons c cs ih =>
    rw [List.mem_cons, not_or] at h
    show (p.after c).afterAll cs = _
    rw [ih h.2, Position.after, if_neg (Ne.symm h.1), List.length_cons, Nat.add_right_comm,
      Nat.add_assoc]

/-- Each line that is ended leads to the start of the next one. -/
theorem afterAll_ended {inner : List (List Char)} (h : ∀ line ∈ inner, '\n' ∉ line) (n : Nat) :
    Position.afterAll ⟨n, 1⟩ (inner.flatMap (· ++ ['\n'])) = ⟨n + inner.length, 1⟩ := by
  induction inner generalizing n with
  | nil => rfl
  | cons line inner ih =>
    rw [List.forall_mem_cons] at h
    rw [List.flatMap_cons, List.append_assoc, afterAll_append, afterAll_of_notMem h.1]
    show Position.afterAll ⟨n + 1, 1⟩ (inner.flatMap (· ++ ['\n'])) = _
    rw [ih h.2, List.length_cons, Nat.add_right_comm, Nat.add_assoc]

/-- The position behind some whole lines and a part of the next one. -/
theorem reached_ended_append {inner : List (List Char)} {part : List Char}
    (hi : ∀ line ∈ inner, '\n' ∉ line) (hp : '\n' ∉ part) :
    reached (inner.flatMap (· ++ ['\n']) ++ part) = ⟨inner.length + 1, part.length + 1⟩ := by
  rw [← afterAll_start, afterAll_append, Position.start, afterAll_ended hi, afterAll_of_notMem hp,
    Nat.add_comm, Nat.add_comm 1]

/-! ### Going on -/

theorem line_afterAll (p : Position) (cs : List Char) :
    (p.afterAll cs).line = p.line + cs.count '\n' := by
  induction cs generalizing p with
  | nil => rfl
  | cons c cs ih =>
    show ((p.after c).afterAll cs).line = _
    rw [ih, Position.after, List.count_cons]
    by_cases hc : c = '\n'
    · simp only [hc, if_true, beq_self_eq_true]
      omega
    · simp [hc]

/-- No text leads back to the position in front of it. -/
theorem eq_nil_of_afterAll {p : Position} {cs : List Char} (h : p.afterAll cs = p) : cs = [] := by
  have hline := line_afterAll p cs
  rw [h] at hline
  have hfree : '\n' ∉ cs := List.count_eq_zero.mp (by omega)
  rw [afterAll_of_notMem hfree] at h
  have hcolumn : p.column + cs.length = p.column := congrArg Position.column h
  exact List.length_eq_zero_iff.mp (by omega)

/-- A reader stops behind `front` at the position that it leads to, and not before. -/
theorem offsetFrom?_afterAll (here : Position) (offset : Nat) (front back : List Char) :
    offsetFrom? (here.afterAll front) here offset (front ++ back) =
      some (offset + byteCount front) := by
  induction front generalizing here offset with
  | nil => cases back <;> exact if_pos rfl
  | cons c cs ih =>
    have hpassed : here ≠ here.afterAll (c :: cs) := fun h => nomatch eq_nil_of_afterAll h.symm
    rw [List.cons_append, offsetFrom?, if_neg hpassed, byteCount, ← Nat.add_assoc]
    exact ih (here.after c) (offset + c.utf8Size)

/-! ### Resolving -/

/-- There is a boundary of the text at the offset `o`, and its position is `p`. -/
structure Reaches (text : String) (p : Position) (o : Nat) : Prop where
  inside : o ≤ text.utf8ByteSize
  boundary : (⟨o⟩ : String.Pos.Raw).IsValid text
  position : reached (takeBytes o text.toList) = p

theorem reaches_iff {text : String} {p : Position} {o : Nat} :
    Reaches text p o ↔
      ∃ front back, text.toList = front ++ back ∧ byteCount front = o ∧ reached front = p := by
  constructor
  · rintro ⟨-, hvalid, hposition⟩
    obtain ⟨front, back, htext, rfl⟩ := isValid_iff.mp hvalid
    rw [htext, takeBytes_byteCount] at hposition
    exact ⟨front, back, htext, rfl, hposition⟩
  · rintro ⟨front, back, htext, rfl, rfl⟩
    have hvalid := isValid_iff.mpr ⟨front, back, htext, rfl⟩
    exact ⟨hvalid.le_utf8ByteSize, hvalid, by rw [htext, takeBytes_byteCount]⟩

theorem offset?_eq_some_iff {text : String} {p : Position} {o : Nat} :
    offset? text p = some o ↔ Reaches text p o := by
  rw [reaches_iff]
  constructor
  · intro h
    obtain ⟨front, back, htext, hp, ho⟩ := offset?_front h
    exact ⟨front, back, htext, ho.symm, by rw [← afterAll_start, hp]⟩
  · rintro ⟨front, back, htext, rfl, rfl⟩
    rw [offset?, htext, ← afterAll_start, offsetFrom?_afterAll, Nat.zero_add]

/-- A line of the text, and a column up to the one behind its last character. -/
def OnLine (text : String) (p : Position) : Prop :=
  ∃ before line after, cut '\n' text.toList = before ++ line :: after ∧
    p.line = before.length + 1 ∧ 1 ≤ p.column ∧ p.column ≤ line.length + 1

theorem isSome_offset?_iff {text : String} {p : Position} :
    (offset? text p).isSome ↔ OnLine text p := by
  simp only [Option.isSome_iff_exists, offset?_eq_some_iff, reaches_iff]
  constructor
  · rintro ⟨o, front, back, htext, -, rfl⟩
    obtain ⟨inner, part, hfront, rfl⟩ := exists_cut_eq '\n' front
    obtain ⟨rest, after, hback⟩ := List.exists_cons_of_ne_nil (cut_ne_nil '\n' back)
    have hfree : ∀ line ∈ inner ++ [part], '\n' ∉ line := fun line hline =>
      notMem_of_mem_cut (hfront ▸ hline)
    rw [List.forall_mem_append, List.forall_mem_singleton] at hfree
    refine ⟨inner, part ++ rest, after, ?_, ?_⟩
    · rw [htext, List.append_assoc, cut_ended_append hfree.1, cut_append_of_notMem hfree.2 hback]
    · rw [reached_ended_append hfree.1 hfree.2, List.length_append]
      exact ⟨rfl, Nat.le_add_left .., Nat.add_le_add_right (Nat.le_add_right ..) 1⟩
  · rintro ⟨before, line, after, hcut, hline, hpos, hcolumn⟩
    have hfree : ∀ l ∈ before ++ line :: after, '\n' ∉ l := fun l hl =>
      notMem_of_mem_cut (hcut ▸ hl)
    rw [List.forall_mem_append, List.forall_mem_cons] at hfree
    obtain ⟨tail, htail⟩ := prefix_join ['\n'] line after
    have htext : text.toList = before.flatMap (· ++ ['\n']) ++ (line ++ tail) := by
      rw [htail, ← join_append _ _ (by simp), ← hcut, join_cut]
    have hpart : '\n' ∉ line.take (p.column - 1) := fun h => hfree.2.1 (List.mem_of_mem_take h)
    refine ⟨_, before.flatMap (· ++ ['\n']) ++ line.take (p.column - 1),
      line.drop (p.column - 1) ++ tail, ?_, rfl, ?_⟩
    · rw [htext, List.append_assoc, ← List.append_assoc (line.take _), List.take_append_drop]
    · rw [reached_ended_append hfree.1 hpart, List.length_take, Nat.min_eq_left (by omega), ← hline,
        Nat.sub_add_cancel hpos]

theorem resolve?_eq_some_iff {text : String} {p q : Position} {s : Span} :
    Span.resolve? text p q = some s ↔
      s.start < s.stop ∧ Reaches text p s.start ∧ Reaches text q s.stop := by
  simp only [Span.resolve?, Option.bind_eq_bind, Option.bind_eq_some_iff, offset?_eq_some_iff]
  constructor
  · rintro ⟨start, hstart, stop, hstop, h⟩
    split at h
    · next hlt =>
      obtain rfl := Option.some.inj h
      exact ⟨hlt, hstart, hstop⟩
    · cases h
  · rintro ⟨hlt, hstart, hstop⟩
    exact ⟨s.start, hstart, s.stop, hstop, if_pos hlt⟩

/-- **A position resolves to the boundary that has it, and to nothing else.** The positions that
resolve are those on the lines of the text, and a span that is resolved goes from one boundary to
a later one, so no character is divided by it. -/
theorem offset?_exact (text : String) (p : Position) :
    (∀ o, offset? text p = some o ↔ Reaches text p o) ∧
      ((offset? text p).isSome ↔ OnLine text p) ∧
      ∀ q s, Span.resolve? text p q = some s ↔
        s.start < s.stop ∧ Reaches text p s.start ∧ Reaches text q s.stop :=
  ⟨fun _ => offset?_eq_some_iff, isSome_offset?_iff, fun _ _ => resolve?_eq_some_iff⟩

/-- A carriage return takes a column, and the end of the text has a position. -/
example : offset? "é\r\nb" ⟨1, 3⟩ = some 3 ∧ offset? "é\r\nb" ⟨2, 2⟩ = some 5 ∧
    offset? "é\r\nb" ⟨1, 4⟩ = none ∧ offset? "é\r\nb" ⟨2, 0⟩ = none := by
  decide

end EmbeddedSql.Text
