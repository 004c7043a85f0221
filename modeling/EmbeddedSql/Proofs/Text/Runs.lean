import EmbeddedSql.Text.Blank
import Mathlib.Data.List.DropRight

/-! Texts that differ in white space only.

Where lines may be broken at some places and at no others, a text consists of runs: of what
stands between two such places. `Spread` says that a text consists of these runs in this order,
with nothing but white space between them. Which white space, and whether there is any, is left
open, so two texts with the same runs differ in nothing else. -/
namespace EmbeddedSql.Text

/-- White space and nothing else. -/
def Blank (cs : List Char) : Prop := ∀ c ∈ cs, isBlank c = true

/-- Neither begins nor ends in white space. -/
structure Tight (r : List Char) : Prop where
  first : ∃ c cs, r = c :: cs ∧ isBlank c = false
  last : ∃ cs c, r = cs ++ [c] ∧ isBlank c = false

/-- These runs in this order, with white space around and between them, or nothing. -/
inductive Spread : List (List Char) → List Char → Prop
  | blank {cs : List Char} : Blank cs → Spread [] cs
  | run {blanks cs : List Char} {rs : List (List Char)} (r : List Char) :
    Blank blanks → Spread rs cs → Spread (r :: rs) (blanks ++ (r ++ cs))

/-- The parts of a text without the white space around them; those that are blank are left
out. -/
def trimmed (parts : List (List Char)) : List (List Char) :=
  (parts.map trimChars).filter (· ≠ [])

theorem Blank.nil : Blank [] := nofun

theorem Blank.append {a b : List Char} (ha : Blank a) (hb : Blank b) : Blank (a ++ b) :=
  List.forall_mem_append.mpr ⟨ha, hb⟩

theorem Blank.cons {c : Char} {cs : List Char} (hc : isBlank c = true) (hcs : Blank cs) :
    Blank (c :: cs) := List.forall_mem_cons.mpr ⟨hc, hcs⟩

/-- A text is its middle with white space around it. -/
theorem exists_trimChars (cs : List Char) :
    ∃ front back, Blank front ∧ Blank back ∧ cs = front ++ (trimChars cs ++ back) := by
  refine ⟨cs.takeWhile isBlank, (trimStartChars cs).rtakeWhile isBlank,
    fun _ => List.mem_takeWhile_imp, fun _ => List.mem_rtakeWhile_imp, ?_⟩
  have hback : trimChars cs ++ (trimStartChars cs).rtakeWhile isBlank = trimStartChars cs :=
    List.rdropWhile_append_rtakeWhile
  rw [hback, trimStartChars, List.takeWhile_append_dropWhile]

theorem Tight.dropWhile_append {r : List Char} (h : Tight r) {blanks : List Char}
    (hblanks : Blank blanks) (cs : List Char) :
    (blanks ++ (r ++ cs)).dropWhile isBlank = r ++ cs := by
  obtain ⟨c, rest, rfl, hc⟩ := h.first
  rw [List.dropWhile_append_of_pos hblanks, List.cons_append, List.dropWhile_cons_of_neg]
  simp [hc]

namespace Spread
variable {rs qs : List (List Char)} {a b : List Char}

theorem blank_append {blanks : List Char} (hblanks : Blank blanks) (h : Spread rs a) :
    Spread rs (blanks ++ a) := by
  cases h with
  | blank ha => exact .blank (hblanks.append ha)
  | run r hfront h =>
    rw [← List.append_assoc]
    exact .run r (hblanks.append hfront) h

theorem append (ha : Spread rs a) (hb : Spread qs b) : Spread (rs ++ qs) (a ++ b) := by
  induction ha with
  | blank ha => exact hb.blank_append ha
  | run r hblanks _ ih =>
    rw [List.append_assoc, List.append_assoc]
    exact .run r hblanks ih

theorem single (r : List Char) : Spread [r] r := by
  have h : Spread [r] ([] ++ (r ++ [])) := .run r .nil (.blank .nil)
  simpa using h

/-- A text in front is a run, without the white space around it. -/
theorem trimmed_cons (part : List Char) {parts : List (List Char)} (h : Spread (trimmed parts) a) :
    Spread (trimmed (part :: parts)) (part ++ a) := by
  obtain ⟨front, back, hfront, hback, hpart⟩ := exists_trimChars part
  have hrest := h.blank_append hback
  by_cases hne : trimChars part = []
  · have hblank : trimmed (part :: parts) = trimmed parts := by simp [trimmed, hne]
    rw [hblank]
    rw [hne, List.nil_append] at hpart
    rw [hpart, List.append_assoc]
    exact hrest.blank_append hfront
  · have hrun : trimmed (part :: parts) = trimChars part :: trimmed parts := by
      simp [trimmed, hne]
    rw [hrun]
    nth_rewrite 2 [hpart]
    rw [List.append_assoc, List.append_assoc]
    exact .run _ hfront hrest

end Spread

end EmbeddedSql.Text
