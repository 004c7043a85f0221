import EmbeddedSql.Proofs.Text.Lines
import EmbeddedSql.TextBlock
import Mathlib.Data.List.DropRight

/-! What a program reads from a text block.

The text starts behind the first line break of the body. The blanks that all lines have in
front are taken away, and so are the blanks at the end of each line. Then the escapes are
read from left to right.

Escaping a line is undone by reading it (`unescape?_escape`), and lines that stand behind one
indentation lose just that (`read?_indented`). -/
namespace EmbeddedSql.TextBlock

open Text

/-! ### Escapes -/

/-- What a character behind a backslash stands for. A line break stands for nothing, so it
joins two lines. -/
def escaped? : Char → Option (List Char)
  | '\\' => some ['\\']
  | '"' => some ['"']
  | 's' => some [' ']
  | '\n' => some []
  | _ => none

/-- Reads escapes from left to right. -/
def unescape? : List Char → Option (List Char)
  | [] => some []
  | ['\\'] => none
  | '\\' :: c :: cs => (escaped? c).bind fun meant => (unescape? cs).map (meant ++ ·)
  | c :: cs => (unescape? cs).map (c :: ·)

/-- What holds of a text holds of every text, if each character that is read passes it on together
with the one that it takes. -/
@[elab_as_elim]
theorem unescaping {motive : List Char → Prop} (nil : motive []) (last : motive ['\\'])
    (backslash : ∀ c cs, motive cs → motive ('\\' :: c :: cs))
    (plain : ∀ c cs, c ≠ '\\' → motive cs → motive (c :: cs)) (cs : List Char) : motive cs := by
  induction cs using unescape?.induct with
  | case1 => exact nil
  | case2 => exact last
  | case3 c cs ih => exact backslash c cs ih
  | case4 c cs hone hmore ih =>
    refine plain c cs (fun hc => ?_) ih
    cases cs with
    | nil => exact hone hc rfl
    | cons d ds => exact hmore d ds hc rfl

theorem unescape?_backslash (c : Char) (cs : List Char) :
    unescape? ('\\' :: c :: cs) =
      (escaped? c).bind fun meant => (unescape? cs).map (meant ++ ·) := rfl

theorem unescape?_cons_of_ne {c : Char} (h : c ≠ '\\') (cs : List Char) :
    unescape? (c :: cs) = (unescape? cs).map (c :: ·) := by
  rw [unescape?.eq_4] <;> simp_all

/-- What can be read is read in the same way in front of a text. -/
theorem unescape?_append {a meant : List Char} (ha : unescape? a = some meant) (b : List Char) :
    unescape? (a ++ b) = (unescape? b).map (meant ++ ·) := by
  induction a using unescaping generalizing meant with
  | nil =>
    cases ha
    simp
  | last => cases ha
  | backslash c cs ih =>
    simp only [unescape?_backslash, Option.bind_eq_some_iff, Option.map_eq_some_iff] at ha
    obtain ⟨x, hx, y, hy, rfl⟩ := ha
    simp only [List.cons_append, unescape?_backslash, hx, Option.bind_some, ih hy, Option.map_map]
    congr 1
    funext z
    simp
  | plain c cs hc ih =>
    rw [unescape?_cons_of_ne hc] at ha
    obtain ⟨x, hx, rfl⟩ := Option.map_eq_some_iff.mp ha
    rw [List.cons_append, unescape?_cons_of_ne hc, ih hx, Option.map_map]
    rfl

theorem unescape?_of_notMem {cs : List Char} (h : '\\' ∉ cs) : unescape? cs = some cs := by
  induction cs with
  | nil => rfl
  | cons c cs ih =>
    rw [List.mem_cons, not_or] at h
    rw [unescape?_cons_of_ne (Ne.symm h.1), ih h.2, Option.map_some]

theorem unescape?_flatMap {α : Type} {written meant : α → List Char} {xs : List α}
    (h : ∀ x ∈ xs, unescape? (written x) = some (meant x)) :
    unescape? (xs.flatMap written) = some (xs.flatMap meant) := by
  induction xs with
  | nil => rfl
  | cons x xs ih =>
    rw [List.flatMap_cons, List.flatMap_cons, unescape?_append (h x (List.mem_cons_self ..)),
      ih fun y hy => h y (List.mem_cons_of_mem _ hy), Option.map_some]

theorem escape_backslash (cs : List Char) : escape ('\\' :: cs) = '\\' :: '\\' :: escape cs := rfl

theorem escape_quotes (cs : List Char) :
    escape ('"' :: '"' :: '"' :: cs) = '\\' :: '"' :: '"' :: '"' :: escape cs := rfl

/-- The first two rules of `escape` do not apply. -/
theorem escape_cons {c : Char} {cs : List Char} (hb : c ≠ '\\')
    (hq : ∀ rest, ¬(c = '"' ∧ cs = '"' :: '"' :: rest)) : escape (c :: cs) = c :: escape cs := by
  rw [escape.eq_3]
  · exact fun h => hb h
  · exact fun rest hc hcs => hq rest ⟨hc, hcs⟩

/-- What holds of a text holds of every text, if whatever is escaped passes it on. -/
@[elab_as_elim]
theorem escaping {motive : List Char → Prop} (nil : motive [])
    (backslash : ∀ cs, motive cs → motive ('\\' :: cs))
    (quotes : ∀ cs, motive cs → motive ('"' :: '"' :: '"' :: cs))
    (plain : ∀ c cs, c ≠ '\\' → (∀ rest, ¬(c = '"' ∧ cs = '"' :: '"' :: rest)) → motive cs →
      motive (c :: cs)) (cs : List Char) : motive cs := by
  induction cs using escape.induct with
  | case1 cs ih => exact backslash cs ih
  | case2 cs ih => exact quotes cs ih
  | case3 c cs hb hq ih => exact plain c cs hb (fun rest h => hq rest h.1 h.2) ih
  | case4 => exact nil

/-- **Escaping is undone by reading.** -/
theorem unescape?_escape (cs : List Char) : unescape? (escape cs) = some cs := by
  have hquote (cs : List Char) :
      unescape? ('"' :: cs) = (unescape? cs).map ('"' :: ·) := unescape?_cons_of_ne (by decide) cs
  induction cs using escaping with
  | nil => rfl
  | backslash cs ih => simp [escape_backslash, unescape?_backslash, escaped?, ih]
  | quotes cs ih => simp [escape_quotes, unescape?_backslash, escaped?, hquote, ih]
  | plain c cs hb hq ih => rw [escape_cons hb hq, unescape?_cons_of_ne hb, ih, Option.map_some]

/-- A text that starts with no quote makes no three quotes of fewer. -/
theorem not_quotes_append {c : Char} {cs b : List Char} (hb : b.head? ≠ some '"')
    (hq : ∀ rest, ¬(c = '"' ∧ cs = '"' :: '"' :: rest)) (rest : List Char) :
    ¬(c = '"' ∧ cs ++ b = '"' :: '"' :: rest) := by
  rintro ⟨rfl, h⟩
  rcases cs with - | ⟨d, - | ⟨e, es⟩⟩
  · exact hb (congrArg List.head? h)
  · exact hb (congrArg List.head? (List.cons.inj h).2)
  · simp only [List.cons_append, List.cons.injEq] at h
    exact hq es ⟨rfl, by rw [h.1, h.2.1]⟩

/-- Escaping looks at the quotes of one run together, so a text can be divided in front of
anything else. -/
theorem escape_append (a : List Char) {b : List Char} (hb : b.head? ≠ some '"') :
    escape (a ++ b) = escape a ++ escape b := by
  induction a using escaping with
  | nil => rfl
  | backslash cs ih => simp [escape_backslash, ih]
  | quotes cs ih => simp [escape_quotes, ih]
  | plain c cs hbs hq ih =>
    rw [List.cons_append, escape_cons hbs (not_quotes_append hb hq), ih, escape_cons hbs hq,
      List.cons_append]

theorem getLast?_escape (cs : List Char) : (escape cs).getLast? = cs.getLast? := by
  induction cs using escaping with
  | nil => rfl
  | backslash cs ih => simp [escape_backslash, List.getLast?_cons, ih]
  | quotes cs ih => simp [escape_quotes, List.getLast?_cons, ih]
  | plain c cs hb hq ih => rw [escape_cons hb hq, List.getLast?_cons, List.getLast?_cons, ih]

theorem notMem_escape {c : Char} (hc : c ≠ '\\') {cs : List Char} (h : c ∉ cs) :
    c ∉ escape cs := by
  induction cs using escaping with
  | nil => exact h
  | backslash cs ih => simp_all [escape_backslash]
  | quotes cs ih => simp_all [escape_quotes]
  | plain d cs hb hq ih =>
    rw [escape_cons hb hq]
    simp_all

/-! ### Lines -/

/-- A line without the blanks at its end. -/
def trimEnd (line : List Char) : List Char := line.rdropWhile isIndent

theorem trimEnd_append {line : List Char} {c : Char} (hc : isIndent c = false) :
    trimEnd (line ++ [c]) = line ++ [c] :=
  List.rdropWhile_concat_neg isIndent line c (by simp [hc])

theorem trimEnd_eq_self_iff {line : List Char} :
    trimEnd line = line ↔ ∀ c, line.getLast? = some c → isIndent c = false := by
  induction line using List.reverseRecOn with
  | nil => simp [trimEnd]
  | append_singleton line c _ => simp [trimEnd]

theorem trimEnd_escape (line : List Char) : trimEnd (escape line) = escape (trimEnd line) := by
  induction line using List.reverseRecOn with
  | nil => rfl
  | append_singleton line c ih =>
    by_cases hc : isIndent c = true
    · have hq : c ≠ '"' ∧ c ≠ '\\' := by
        constructor <;> rintro rfl <;> simp [isIndent] at hc
      have hone : escape [c] = [c] := by rw [escape_cons hq.2 (by simp)]; rfl
      rw [escape_append _ (by simpa using hq.1), hone, trimEnd, trimEnd,
        List.rdropWhile_concat_pos _ _ _ hc, List.rdropWhile_concat_pos _ _ _ hc]
      exact ih
    · rw [trimEnd_append (by simpa using hc), trimEnd_eq_self_iff, getLast?_escape]
      simpa using hc

def hasContent (line : List Char) : Bool := line.any fun c => !isIndent c

/-- How many blanks the lines have in common. A line of blanks counts only if it is the last
one. -/
def margin (lines : List (List Char)) : Nat :=
  let measured := lines.filter hasContent ++ lines.getLast?.toList
  (measured.map fun line => (line.takeWhile isIndent).length).min?.getD 0

/-- The text that stands in a body behind its first line break, if there are no escapes but
those of backslashes, quotes, spaces and line breaks. -/
def read? (body : List Char) : Option (List Char) :=
  let lines := (cut '\n' body).tail
  if lines = [] then none
  else unescape? (join ['\n'] (lines.map fun line => trimEnd (line.drop (margin lines))))

section
variable {indentation : List Char} (hi : ∀ c ∈ indentation, isIndent c = true)
include hi

theorem margin_indented (lines : List (List Char)) :
    margin (lines.map (indentation ++ ·) ++ [indentation]) = indentation.length := by
  have hself : indentation.takeWhile isIndent = indentation := List.takeWhile_eq_self_iff.mpr hi
  have hwide : ∀ line, indentation.length ≤ ((indentation ++ line).takeWhile isIndent).length := by
    intro line
    rw [List.takeWhile_append_of_pos hi, List.length_append]
    omega
  rw [margin, Option.getD_eq_iff, List.min?_eq_some_iff]
  refine .inl ⟨?_, ?_⟩
  · simp [hself]
  · intro n hn
    simp only [List.mem_map, List.mem_append, List.mem_filter] at hn
    obtain ⟨line, hline, rfl⟩ := hn
    have : line = indentation ∨ ∃ l, line = indentation ++ l := by
      rcases hline with ⟨⟨l, -, rfl⟩ | hl, -⟩ | hl
      · exact .inr ⟨l, rfl⟩
      · exact .inl (List.mem_singleton.mp hl)
      · exact .inl (by simpa [eq_comm] using hl)
    rcases this with rfl | ⟨l, rfl⟩
    · rw [hself]
    · exact hwide l

/-- Lines behind an indentation, with the indentation itself as the last line, are read
without it. -/
theorem read?_indented {lines : List (List Char)} (hl : ∀ line ∈ lines, '\n' ∉ line) :
    read? (join ['\n'] ([] :: (lines.map (indentation ++ ·) ++ [indentation]))) =
      unescape? (lines.flatMap (trimEnd · ++ ['\n'])) := by
  have hn : '\n' ∉ indentation := fun h => by simpa [isIndent] using hi _ h
  have hcut : cut '\n' (join ['\n'] ([] :: (lines.map (indentation ++ ·) ++ [indentation]))) =
      [] :: (lines.map (indentation ++ ·) ++ [indentation]) := by
    refine cut_join (by simp) fun part hp => ?_
    rcases List.mem_cons.mp hp with rfl | hp
    · simp
    rcases List.mem_append.mp hp with hp | hp
    · obtain ⟨line, hline, rfl⟩ := List.mem_map.mp hp
      simp [hn, hl line hline]
    · rwa [List.mem_singleton.mp hp]
  have hblank : trimEnd [] = [] := rfl
  rw [read?, hcut, List.tail_cons, if_neg (by simp), margin_indented hi]
  simp [join_concat, hblank, List.flatMap_map]

end

end EmbeddedSql.TextBlock
