import EmbeddedSql.Text.Position
import Mathlib.Data.List.Basic

/-! Laws of offsets.

An offset that a position stands for is the size of a front of the text (`offset?_front`).
Dropping and taking that many bytes divides the text behind that front, so a span that has
been resolved covers a whole part of it (`resolve?_part`). -/
namespace EmbeddedSql.Text

/-! ### Counting -/

@[simp] theorem byteCount_nil : byteCount [] = 0 := rfl

@[simp] theorem byteCount_append (a b : List Char) :
    byteCount (a ++ b) = byteCount a + byteCount b := by
  induction a with
  | nil => simp
  | cons c cs ih =>
    simp only [List.cons_append, byteCount, ih]
    omega

theorem byteCount_eq_zero_iff {cs : List Char} : byteCount cs = 0 ↔ cs = [] := by
  cases cs with
  | nil => simp
  | cons c cs =>
    have := c.utf8Size_pos
    simp only [byteCount, reduceCtorEq, iff_false]
    omega

theorem utf8ByteSize_ofList (cs : List Char) : (String.ofList cs).utf8ByteSize = byteCount cs := by
  induction cs with
  | nil => rfl
  | cons c cs ih =>
    rw [String.ofList_cons, String.utf8ByteSize_append, String.utf8ByteSize_singleton, ih]
    rfl

/-- The size of a front of a text is a valid offset. -/
theorem isValid_byteCount (front back : List Char) :
    (⟨byteCount front⟩ : String.Pos.Raw).IsValid (String.ofList (front ++ back)) := by
  rw [String.Pos.Raw.isValid_iff_exists_append]
  refine ⟨String.ofList front, String.ofList back, String.ofList_append, ?_⟩
  rw [String.Pos.Raw.ext_iff, String.byteIdx_rawEndPos, utf8ByteSize_ofList]

/-- The valid offsets of a text are the sizes of its fronts. -/
theorem isValid_iff {text : String} {o : Nat} :
    (⟨o⟩ : String.Pos.Raw).IsValid text ↔
      ∃ front back, text.toList = front ++ back ∧ byteCount front = o := by
  constructor
  · intro h
    obtain ⟨front, back, rfl, hsize⟩ := String.Pos.Raw.isValid_iff_exists_append.mp h
    refine ⟨front.toList, back.toList, String.toList_append, ?_⟩
    rw [← utf8ByteSize_ofList, String.ofList_toList]
    exact congrArg String.Pos.Raw.byteIdx hsize.symm
  · rintro ⟨front, back, htext, rfl⟩
    rw [← String.ofList_toList (s := text), htext]
    exact isValid_byteCount front back

/-- Of two fronts of a text, the one of fewer bytes is a front of the other. -/
theorem exists_gap_of_byteCount_le {a b c d : List Char} (h : a ++ b = c ++ d)
    (hle : byteCount a ≤ byteCount c) : ∃ gap, c = a ++ gap ∧ b = gap ++ d := by
  rcases List.append_eq_append_iff.mp h with ⟨gap, hc, hb⟩ | ⟨rest, ha, hd⟩
  · exact ⟨gap, hc, hb⟩
  · have hrest : rest = [] := by
      rw [ha, byteCount_append] at hle
      exact byteCount_eq_zero_iff.mp (by omega)
    subst hrest
    exact ⟨[], by simpa using ha.symm, by simpa using hd.symm⟩

/-! ### Dividing -/

@[simp] theorem dropBytes_byteCount (a b : List Char) : dropBytes (byteCount a) (a ++ b) = b := by
  induction a with
  | nil => rw [byteCount_nil, dropBytes, List.nil_append]
  | cons c cs ih =>
    have := c.utf8Size_pos
    rw [List.cons_append, byteCount, dropBytes, Nat.add_sub_cancel_left, ih]
    omega

@[simp] theorem takeBytes_byteCount (a b : List Char) : takeBytes (byteCount a) (a ++ b) = a := by
  induction a with
  | nil => rw [byteCount_nil, takeBytes]
  | cons c cs ih =>
    have := c.utf8Size_pos
    rw [List.cons_append, byteCount, takeBytes, Nat.add_sub_cancel_left, ih]
    omega

/-- A span that covers a whole part of a text, so that no character is divided. -/
def Span.PartOf (s : Span) (cs : List Char) : Prop :=
  ∃ before part after, cs = before ++ part ++ after ∧
    s = ⟨byteCount before, byteCount before + byteCount part⟩

/-- Both ends of a part are valid offsets. -/
theorem Span.PartOf.isValid {s : Span} {cs : List Char} (h : s.PartOf cs) :
    s.start ≤ s.stop ∧ (⟨s.start⟩ : String.Pos.Raw).IsValid (String.ofList cs) ∧
      (⟨s.stop⟩ : String.Pos.Raw).IsValid (String.ofList cs) := by
  obtain ⟨before, part, after, rfl, rfl⟩ := h
  refine ⟨Nat.le_add_right .., ?_, ?_⟩
  · rw [List.append_assoc]
    exact isValid_byteCount before _
  · show (⟨byteCount before + byteCount part⟩ : String.Pos.Raw).IsValid _
    rw [← byteCount_append]
    exact isValid_byteCount _ after

/-- The span of a part of a text covers just that part. -/
theorem slice_part (before part after : List Char) :
    Span.slice ⟨byteCount before, byteCount before + byteCount part⟩ (before ++ part ++ after) =
      part := by
  rw [Span.slice, Span.length, List.append_assoc, dropBytes_byteCount, Nat.add_sub_cancel_left,
    takeBytes_byteCount]

/-! ### Positions -/

theorem offsetFrom?_front {target here : Position} {offset n : Nat} {cs : List Char}
    (h : offsetFrom? target here offset cs = some n) :
    ∃ front back, cs = front ++ back ∧ here.afterAll front = target ∧
      n = offset + byteCount front := by
  induction cs generalizing here offset with
  | nil =>
    rw [offsetFrom?] at h
    split at h
    · next hh => exact ⟨[], [], rfl, hh, by simpa using h.symm⟩
    · cases h
  | cons c cs ih =>
    rw [offsetFrom?] at h
    split at h
    · next hh => exact ⟨[], c :: cs, rfl, hh, by simpa using h.symm⟩
    · obtain ⟨front, back, rfl, hp, rfl⟩ := ih h
      exact ⟨c :: front, back, rfl, hp, by simp only [byteCount]; omega⟩

/-- A position in a text has a front of the text before it. -/
theorem offset?_front {text : String} {target : Position} {n : Nat}
    (h : offset? text target = some n) :
    ∃ front back, text.toList = front ++ back ∧ Position.start.afterAll front = target ∧
      n = byteCount front := by
  simpa using offsetFrom?_front h

/-- **A resolved span covers a part of the text**, one that is not empty. -/
theorem resolve?_part {text : String} {first last : Position} {s : Span}
    (h : Span.resolve? text first last = some s) :
    s.PartOf text.toList ∧ s.start < s.stop := by
  simp only [Span.resolve?, Option.bind_eq_bind, Option.bind_eq_some_iff] at h
  obtain ⟨start, hstart, stop, hstop, h⟩ := h
  split at h
  · next hlt =>
    obtain rfl := Option.some.inj h
    refine ⟨?_, hlt⟩
    obtain ⟨before, rest, htext, -, rfl⟩ := offset?_front hstart
    obtain ⟨front, after, htext', -, rfl⟩ := offset?_front hstop
    obtain ⟨part, rfl, rfl⟩ := exists_gap_of_byteCount_le (htext.symm.trans htext') (Nat.le_of_lt hlt)
    exact ⟨before, part, after, htext', by rw [byteCount_append]⟩
  · cases h

end EmbeddedSql.Text
