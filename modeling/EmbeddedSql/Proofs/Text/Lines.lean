import EmbeddedSql.Text.Lines
import Mathlib.Data.List.Basic

/-! Laws of cutting and joining.

Cutting a text at a character and joining the parts with it undo each other, as long as no
part holds the character (`join_cut`, `cut_join`). -/
namespace EmbeddedSql.Text

/-! ### Joining -/

theorem join_cons {between : List Char} (part : List Char) {parts : List (List Char)}
    (h : parts ≠ []) : join between (part :: parts) = part ++ between ++ join between parts := by
  rw [join, join, List.intercalate_cons_of_ne_nil h, List.append_assoc]

/-- What is between two parts stands behind each of the first ones. -/
theorem join_append (between : List Char) (inner : List (List Char)) {parts : List (List Char)}
    (h : parts ≠ []) :
    join between (inner ++ parts) = inner.flatMap (· ++ between) ++ join between parts := by
  induction inner with
  | nil => rfl
  | cons part inner ih =>
    rw [List.cons_append, join_cons part (by simp [h]), ih, List.flatMap_cons, ← List.append_assoc]

theorem join_concat (between : List Char) (parts : List (List Char)) (last : List Char) :
    join between (parts ++ [last]) = parts.flatMap (· ++ between) ++ last := by
  rw [join_append between parts (by simp), join, List.intercalate_singleton]

/-- What is written in front of the first part and behind each separator is in front of every
part. -/
theorem append_join (front between : List Char) {parts : List (List Char)} (h : parts ≠ []) :
    front ++ join (between ++ front) parts = join between (parts.map (front ++ ·)) := by
  induction parts with
  | nil => exact absurd rfl h
  | cons part parts ih =>
    by_cases hp : parts = []
    · subst hp
      simp [join]
    · rw [join_cons part hp, List.map_cons, join_cons _ (by simpa using hp), ← ih hp]
      simp

/-- A separator in front of a joined text is in front of every part. -/
theorem join_eq_flatMap (between : List Char) {parts : List (List Char)} (h : parts ≠ []) :
    between ++ join between parts = parts.flatMap (between ++ ·) := by
  induction parts with
  | nil => exact absurd rfl h
  | cons part parts ih =>
    by_cases hp : parts = []
    · subst hp
      simp [join]
    · rw [join_cons part hp, List.flatMap_cons, ← ih hp]
      simp

theorem prefix_join (between part : List Char) (parts : List (List Char)) :
    part <+: join between (part :: parts) := by
  by_cases hp : parts = []
  · subst hp
    simp [join]
  · rw [join_cons part hp, List.append_assoc]
    exact List.prefix_append ..

theorem infix_join {between part : List Char} {parts : List (List Char)} (h : part ∈ parts) :
    part <:+: join between parts := by
  induction parts with
  | nil => cases h
  | cons first parts ih =>
    by_cases hp : parts = []
    · subst hp
      rw [List.mem_singleton.mp h]
      simp [join]
    · rw [join_cons first hp, List.append_assoc]
      rcases List.mem_cons.mp h with rfl | h
      · exact (List.prefix_append ..).isInfix
      · exact (ih h).trans ⟨first ++ between, [], by simp⟩

/-! ### Cutting -/

theorem cut_ne_nil (separator : Char) (cs : List Char) : cut separator cs ≠ [] := by
  cases cs with
  | nil => simp [cut]
  | cons c cs =>
    rw [cut]
    split
    · simp
    · split <;> simp

theorem cut_cons_self (separator : Char) (cs : List Char) :
    cut separator (separator :: cs) = [] :: cut separator cs := by
  rw [cut, if_pos rfl]

theorem cut_cons_of_ne {separator c : Char} (h : c ≠ separator) {cs first : List Char}
    {rest : List (List Char)} (hc : cut separator cs = first :: rest) :
    cut separator (c :: cs) = (c :: first) :: rest := by
  rw [cut, if_neg h, hc]

/-- A separator divides the parts in front of it from those behind it. -/
theorem cut_append_cons (separator : Char) (a b : List Char) :
    cut separator (a ++ separator :: b) = cut separator a ++ cut separator b := by
  induction a with
  | nil => exact cut_cons_self separator b
  | cons c cs ih =>
    by_cases hc : c = separator
    · subst hc
      rw [List.cons_append, cut_cons_self, cut_cons_self, ih, List.cons_append]
    · obtain ⟨first, rest, h⟩ := List.exists_cons_of_ne_nil (cut_ne_nil separator cs)
      rw [List.cons_append, cut_cons_of_ne hc h]
      exact cut_cons_of_ne hc (by rw [ih, h]; rfl)

theorem cut_of_notMem {separator : Char} {cs : List Char} (h : separator ∉ cs) :
    cut separator cs = [cs] := by
  induction cs with
  | nil => rfl
  | cons c cs ih =>
    rw [List.mem_cons, not_or] at h
    exact cut_cons_of_ne (Ne.symm h.1) (ih h.2)

theorem notMem_of_mem_cut {separator : Char} {cs part : List Char}
    (h : part ∈ cut separator cs) : separator ∉ part := by
  induction cs generalizing part with
  | nil => simp_all [cut]
  | cons c cs ih =>
    obtain ⟨first, rest, hc⟩ := List.exists_cons_of_ne_nil (cut_ne_nil separator cs)
    rw [hc] at ih
    by_cases hs : c = separator
    · subst hs
      rw [cut_cons_self, hc, List.mem_cons] at h
      rcases h with rfl | h
      · simp
      · exact ih h
    · rw [cut_cons_of_ne hs hc, List.mem_cons] at h
      rcases h with rfl | h
      · simp [Ne.symm hs, ih (List.mem_cons_self ..)]
      · exact ih (List.mem_cons_of_mem _ h)

theorem join_cut (separator : Char) (cs : List Char) :
    join [separator] (cut separator cs) = cs := by
  induction cs with
  | nil => simp [cut, join]
  | cons c cs ih =>
    by_cases hs : c = separator
    · subst hs
      rw [cut_cons_self, join_cons _ (cut_ne_nil c cs), ih]
      rfl
    · obtain ⟨first, rest, hc⟩ := List.exists_cons_of_ne_nil (cut_ne_nil separator cs)
      rw [hc] at ih
      rw [cut_cons_of_ne hs hc, ← ih]
      cases rest <;> simp [join]

theorem infix_of_mem_cut {separator : Char} {cs part : List Char} (h : part ∈ cut separator cs) :
    part <:+: cs := by
  have hpart : part <:+: join [separator] (cut separator cs) := infix_join h
  rwa [join_cut] at hpart

theorem cut_join {separator : Char} {parts : List (List Char)} (hne : parts ≠ [])
    (h : ∀ part ∈ parts, separator ∉ part) : cut separator (join [separator] parts) = parts := by
  induction parts with
  | nil => exact absurd rfl hne
  | cons part parts ih =>
    have hpart := cut_of_notMem (h part (List.mem_cons_self ..))
    by_cases hp : parts = []
    · subst hp
      simpa [join] using hpart
    · rw [join_cons part hp, List.append_assoc, List.singleton_append, cut_append_cons, hpart,
        ih hp fun p hm => h p (List.mem_cons_of_mem _ hm), List.singleton_append]

/-- Parts that are ended stay as they are, whatever goes on behind them. -/
theorem cut_ended_append {separator : Char} {inner : List (List Char)}
    (h : ∀ line ∈ inner, separator ∉ line) (cs : List Char) :
    cut separator (inner.flatMap (· ++ [separator]) ++ cs) = inner ++ cut separator cs := by
  induction inner with
  | nil => rfl
  | cons line inner ih =>
    rw [List.forall_mem_cons] at h
    rw [List.flatMap_cons, List.append_assoc, List.append_assoc, List.singleton_append,
      cut_append_cons, cut_of_notMem h.1, ih h.2, List.singleton_append, List.cons_append]

/-- What stands in front of a text belongs to its first part. -/
theorem cut_append_of_notMem {separator : Char} {part cs first : List Char}
    {rest : List (List Char)} (h : separator ∉ part) (hc : cut separator cs = first :: rest) :
    cut separator (part ++ cs) = (part ++ first) :: rest := by
  induction part with
  | nil => exact hc
  | cons c part ih =>
    rw [List.mem_cons, not_or] at h
    exact cut_cons_of_ne (Ne.symm h.1) (ih h.2)

/-- The last part of a text, and those in front of it. -/
theorem exists_cut_eq (separator : Char) (cs : List Char) :
    ∃ inner last, cut separator cs = inner ++ [last] ∧
      cs = inner.flatMap (· ++ [separator]) ++ last := by
  obtain ⟨inner, last, h⟩ := (List.eq_nil_or_concat' _).resolve_left (cut_ne_nil separator cs)
  exact ⟨inner, last, h, by rw [← join_concat, ← h, join_cut]⟩

/-! ### Ended lines

What follows is about lines with a separator behind each of them, `inner`, and a text behind
the last separator. -/

theorem separator_inj {separator : Char} {a b x y : List Char} (ha : separator ∉ a)
    (hb : separator ∉ b) :
    a ++ separator :: x = b ++ separator :: y ↔ a = b ∧ x = y := by
  induction a generalizing b with
  | nil =>
    cases b with
    | nil => simp
    | cons d ds =>
      have hd : separator ≠ d := fun h => hb (h ▸ List.mem_cons_self ..)
      simp [hd]
  | cons c cs ih =>
    rw [List.mem_cons, not_or] at ha
    cases b with
    | nil => simp [Ne.symm ha.1]
    | cons d ds =>
      have := ih ha.2 fun h => hb (List.mem_cons_of_mem _ h)
      simp only [List.cons_append, List.cons.injEq, this, and_assoc]

/-- Changing lines one by one leaves a text as it is only if it leaves each line as it is. -/
theorem ended_map_eq_iff {separator : Char} {inner : List (List Char)}
    {f : List Char → List Char} (hf : ∀ line ∈ inner, separator ∉ f line)
    (hl : ∀ line ∈ inner, separator ∉ line) (x y : List Char) :
    inner.flatMap (f · ++ [separator]) ++ x = inner.flatMap (· ++ [separator]) ++ y ↔
      (∀ line ∈ inner, f line = line) ∧ x = y := by
  induction inner with
  | nil => simp
  | cons line inner ih =>
    rw [List.forall_mem_cons] at hf hl
    simp only [List.flatMap_cons, List.append_assoc, List.cons_append, List.nil_append]
    rw [separator_inj hf.1 hl.1, ih hf.2 hl.2, List.forall_mem_cons, and_assoc]

theorem infix_separator_append {c separator : Char} {line : List Char} (hl : separator ∉ line)
    (hc : c ≠ separator) (rest : List Char) :
    [c, separator] <:+: line ++ separator :: rest ↔
      [c] <:+ line ∨ [c, separator] <:+: rest := by
  induction line with
  | nil => simp [List.infix_cons_iff, List.cons_prefix_cons, hc]
  | cons d ds ih =>
    rw [List.mem_cons, not_or] at hl
    rw [List.cons_append, List.infix_cons_iff, ih hl.2, List.cons_prefix_cons]
    cases ds with
    | nil => simp [List.suffix_cons_iff, eq_comm]
    | cons e es =>
      have he : separator ≠ e := fun h => hl.2 (h ▸ List.mem_cons_self ..)
      simp [List.suffix_cons_iff, List.cons_prefix_cons, he]

/-- A character stands in front of a separator exactly if a line ends in it. -/
theorem infix_separator_iff {c separator : Char} (hc : c ≠ separator) {inner : List (List Char)}
    (hl : ∀ line ∈ inner, separator ∉ line) {last : List Char} (hlast : separator ∉ last) :
    [c, separator] <:+: inner.flatMap (· ++ [separator]) ++ last ↔
      ∃ line ∈ inner, [c] <:+ line := by
  induction inner with
  | nil =>
    simp only [List.flatMap_nil, List.nil_append, List.not_mem_nil, false_and, exists_false,
      iff_false]
    exact fun h => hlast (h.mem (by simp))
  | cons line inner ih =>
    rw [List.forall_mem_cons] at hl
    simp only [List.flatMap_cons, List.append_assoc, List.cons_append, List.nil_append]
    rw [infix_separator_append hl.1 hc, ih hl.2, List.exists_mem_cons_iff]

/-- A text ends in a character that is no separator exactly if its last line does. -/
theorem suffix_ended_iff {c separator : Char} (hc : c ≠ separator) (inner : List (List Char))
    (last : List Char) :
    [c] <:+ inner.flatMap (· ++ [separator]) ++ last ↔ [c] <:+ last := by
  rcases List.eq_nil_or_concat' last with rfl | ⟨front, d, rfl⟩
  · rcases List.eq_nil_or_concat' inner with rfl | ⟨lines, line, rfl⟩
    · simp
    · simp [List.singleton_suffix_iff_getLast?_eq_some, Ne.symm hc]
  · simp [List.singleton_suffix_iff_getLast?_eq_some, List.getLast?_append]

/-! ### Ends -/

theorem dropLast?_eq_some_iff {c : Char} {cs front : List Char} :
    dropLast? c cs = some front ↔ cs = front ++ [c] := by
  constructor
  · intro h
    rw [dropLast?] at h
    split at h
    · next hl =>
      obtain ⟨before, rfl⟩ := List.getLast?_eq_some_iff.mp hl
      simpa using h
    · cases h
  · rintro rfl
    simp [dropLast?]

theorem dropLast?_eq_none_iff {c : Char} {cs : List Char} :
    dropLast? c cs = none ↔ ¬[c] <:+ cs := by
  simp [dropLast?, List.singleton_suffix_iff_getLast?_eq_some]

end EmbeddedSql.Text
