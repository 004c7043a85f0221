import EmbeddedSql.Proofs.Call.Acceptance
import EmbeddedSql.Proofs.Text.Lowering

/-! Names that are found where they stand.

Before it puts the new name in its place, a renaming looks for the last word of the old one there,
in the lower case of both. What stands there is the word as the text spells it: between its quotes,
and with the closing one written twice inside. So a word that holds a closing quote between other
characters is not found at its own place, and neither is one that is lowered to something else
behind the words in front of it. `apply_of_placed` says that these are all the names that make a
renaming fail, if the places are right. -/
namespace EmbeddedSql.Call

open Sql Text

/-! ### Words in the text -/

theorem occursIn_iff {part cs : List Char} : occursIn part cs = true ↔ part <:+: cs := by
  induction cs with
  | nil => simp [occursIn]
  | cons c cs ih => rw [occursIn, Bool.or_eq_true, ih, List.isPrefixOf_iff_prefix,
      List.infix_cons_iff]

/-- A word as a text spells it. -/
def spelling (i : Ident) : List Char :=
  match i.quote with
  | some q => q :: doubled (closingQuote q) i.value.toList ++ [closingQuote q]
  | none => i.value.toList

/-- The signs that a word in quotes may open with. -/
def quoteSigns : List Char := ['"', '\x60', '[', '\'']

/-- The words of a name stand at a span of the text, where the last one is spelled out behind
`front`. -/
structure Placed (sql : String) (c : Sql.Call) (span : Span) (front : List Char) (last : Ident) :
    Prop where
  ends : (Name.idents c.name).getLast? = some last
  starts : ∃ first, (Name.idents c.name).head? = some first ∧ spanOf? sql first last = some span
  slice : span.slice sql.toList = front ++ spelling last
  quote : ∀ q, last.quote = some q → q ∈ quoteSigns

/-- A word that has no closing quote between other characters, and does not open in a final sigma
behind a letter. -/
structure Recognizable (front : List Char) (last : Ident) : Prop where
  quote : ∀ q, last.quote = some q → closingQuote q ∉ stripped (closingQuote q) last.value.toList
  sigma : casedAhead (last.quote.toList ++ front.reverse) = true →
    opensInFinalSigma last.value.toList = false

theorem caseless_of_quoteSigns {q : Char} (h : q ∈ quoteSigns) :
    caseless q = true ∧ caseless (closingQuote q) = true := by
  simp only [quoteSigns, List.mem_cons, List.not_mem_nil, or_false] at h
  rcases h with rfl | rfl | rfl | rfl <;> exact ⟨rfl, rfl⟩

/-- The lower case of a word between quotes that stands behind `front`. -/
theorem lowerChars_spelling {i : Ident} {o : Char} (front : List Char) (hquote : i.quote = some o)
    (ho : o ∈ quoteSigns)
    (hsigma : casedAhead (o :: front.reverse) = true → opensInFinalSigma i.value.toList = false) :
    ∃ before, lowerChars (front ++ spelling i) =
      before ++ (o :: doubled (closingQuote o) (lowerChars i.value.toList) ++ [closingQuote o]) ∧
        (front = [] → before = []) := by
  obtain ⟨ho, hq⟩ := caseless_of_quoteSigns ho
  have hend : casedAhead [closingQuote o] = false := by
    rw [casedAhead_caseless hq, casedAhead_nil, Bool.and_false]
  have hsingle {c : Char} (before after : List Char) (hc : caseless c = true) :
      lowerBetween before after [c] = [c] := by
    obtain ⟨mapped, hlowered, heq⟩ := lowerBetween_cons before after c []
    rw [heq, hlowered.eq_singleton hc]
    rfl
  refine ⟨lowerBetween [] (spelling i ++ []) front, ?_, ?_⟩
  · rw [lowerChars_eq_lowerBetween, lowerBetween_append]
    congr 1
    rw [spelling, hquote]
    dsimp only
    rw [← List.singleton_append, List.append_assoc, lowerBetween_append, lowerBetween_append,
      hsingle _ _ ho, hsingle _ _ hq, lowerBetween_doubled hq _ rfl,
      lowerBetween_alone (by simpa using hend) (by simpa using opensInFinalSigma_caseless hq)
        (by simpa using hsigma)]
    rfl
  · rintro rfl
    rfl

/-- A word is found where it stands if it can be recognized there. -/
theorem infix_of_recognizable {front : List Char} {i : Ident}
    (hsigns : ∀ q, i.quote = some q → q ∈ quoteSigns) (h : Recognizable front i) :
    lowerChars i.value.toList <:+: lowerChars (front ++ spelling i) := by
  have hsigma := h.sigma
  cases hquote : i.quote with
  | none =>
    have hspelling : spelling i = i.value.toList := by rw [spelling, hquote]
    rw [hquote, Option.toList_none, List.nil_append] at hsigma
    rw [hspelling, lowerChars_eq_lowerBetween (front ++ _), lowerBetween_append, List.append_nil,
      List.append_nil, lowerBetween_alone casedAhead_nil opensInFinalSigma_nil hsigma]
    exact (List.suffix_append ..).isInfix
  | some o =>
    rw [hquote, Option.toList_some, List.singleton_append] at hsigma
    have ho := hsigns o hquote
    obtain ⟨before, heq, -⟩ := lowerChars_spelling front hquote ho hsigma
    have hends := (mem_stripped_lowerChars (caseless_of_quoteSigns ho).2 _).not.mpr
      (h.quote o hquote)
    rw [heq]
    exact ((infix_doubled_iff o _ _).mpr hends).trans (List.suffix_append ..).isInfix

/-- A word in front of which nothing stands is found only then. -/
theorem recognizable_of_occurs {i : Ident} (hsigns : ∀ q, i.quote = some q → q ∈ quoteSigns)
    (h : lowerChars i.value.toList <:+: lowerChars (spelling i)) : Recognizable [] i := by
  cases hquote : i.quote with
  | none => exact ⟨fun q hq => by simp [hquote] at hq, fun h => by simp [hquote] at h⟩
  | some o =>
    obtain ⟨ho, hq⟩ := caseless_of_quoteSigns (hsigns o hquote)
    have hfree : casedAhead [o] = false := by
      rw [casedAhead_caseless ho, casedAhead_nil, Bool.and_false]
    obtain ⟨before, heq, hbefore⟩ := lowerChars_spelling [] hquote (hsigns o hquote)
      fun hahead => absurd (hfree.symm.trans hahead) Bool.false_ne_true
    rw [List.nil_append, hbefore rfl, List.nil_append] at heq
    rw [heq, infix_doubled_iff, mem_stripped_lowerChars hq] at h
    refine ⟨fun q hq => ?_, fun hahead => ?_⟩
    · obtain rfl := Option.some.inj (hquote.symm.trans hq)
      exact h
    · rw [hquote, Option.toList_some, List.reverse_nil, List.append_nil, hfree] at hahead
      cases hahead

/-- Nothing goes wrong with a word that no closing quote stands in. -/
theorem recognizable_of_not_mem {i : Ident} (hsigns : ∀ q, i.quote = some q → q ∈ quoteSigns)
    (h : ∀ q, i.quote = some q → closingQuote q ∉ i.value.toList) : Recognizable [] i := by
  refine ⟨fun q hq hmem => h q hq (mem_of_mem_stripped hmem), ?_⟩
  cases hquote : i.quote with
  | none => nofun
  | some q =>
    rw [Option.toList_some, List.reverse_nil, List.append_nil,
      casedAhead_caseless (caseless_of_quoteSigns (hsigns q hquote)).1, casedAhead_nil,
      Bool.and_false]
    nofun

/-! ### Renaming -/

namespace Renaming

variable {r : Renaming} {sql : String} {s : Statement} {c : Sql.Call} {span : Span}
  {front : List Char} {last : Ident}

/-- The replacement of a name that stands at its place: the word is looked for there, and nothing
else can go wrong. -/
theorem replacement_of_placed (h : Placed sql c span front last) :
    (lowerChars last.value.toList <:+: lowerChars (front ++ spelling last) →
        r.replacement sql c =
          .ok ⟨span, inQuotes last.quote (cased r.newName (front ++ spelling last))⟩) ∧
      (¬lowerChars last.value.toList <:+: lowerChars (front ++ spelling last) →
        r.replacement sql c =
          .error (.wrongPlace (Name.text c.name) (String.ofList (front ++ spelling last)))) := by
  obtain ⟨first, hfirst, hspan⟩ := h.starts
  rw [← occursIn_iff, replacement, hfirst, h.ends]
  simp only [hspan, h.slice, lower, String.toList_ofList]
  exact ⟨fun hfound => if_pos hfound, fun hlost => if_neg hlost⟩

/-- A renaming fails where a call cannot be replaced, and nowhere else. -/
theorem apply_eq_error_iff {f : RenamingError} :
    r.apply sql s = .error f ↔ (r.matching s).mapM (r.replacement sql) = .error f := by
  rw [apply, matching]
  cases (s.calls.filter _).mapM (r.replacement sql) with
  | error g =>
    exact ⟨fun h => congrArg _ (Except.error.inj h), fun h => congrArg _ (Except.error.inj h)⟩
  | ok all => constructor <;> intro h <;> cases h

theorem exists_error_of_replacement {f : RenamingError} (hc : c ∈ r.matching s)
    (h : r.replacement sql c = .error f) : ∃ f, r.apply sql s = .error f := by
  cases happly : r.apply sql s with
  | error f => exact ⟨f, rfl⟩
  | ok t =>
    obtain ⟨all, hall, -⟩ := exists_of_bind_eq_ok happly
    obtain ⟨x, -, hx⟩ := exists_of_forall₂ (forall₂_of_mapM hall).flip c hc
    cases hx.symm.trans h

/-- **A renaming that knows where the names stand fails at words that cannot be recognized only.**
At a word in front of which nothing stands it fails if that word cannot be. -/
theorem apply_of_placed (h : ∀ c ∈ r.matching s, ∃ span front last, Placed sql c span front last) :
    ((∀ c ∈ r.matching s, ∀ span front last, Placed sql c span front last →
          Recognizable front last) →
        ∃ t, r.apply sql s = .ok t) ∧
      (∀ c ∈ r.matching s, ∀ span last, Placed sql c span [] last → ¬Recognizable [] last →
        ∃ f, r.apply sql s = .error f) ∧
      ∀ f, r.apply sql s = .error f → ∃ c ∈ r.matching s, ∃ span front last,
        Placed sql c span front last ∧ ¬Recognizable front last ∧
          f = .wrongPlace (Name.text c.name) (String.ofList (front ++ spelling last)) := by
  have hfaults {f : RenamingError} (hf : r.apply sql s = .error f) :
      ∃ c ∈ r.matching s, ∃ span front last, Placed sql c span front last ∧
        ¬Recognizable front last ∧
          f = .wrongPlace (Name.text c.name) (String.ofList (front ++ spelling last)) := by
    obtain ⟨c, hc, hreplacement⟩ := exists_of_mapM_eq_error (apply_eq_error_iff.mp hf)
    obtain ⟨span, front, last, hplaced⟩ := h c hc
    obtain ⟨hfound, hlost⟩ := replacement_of_placed (r := r) hplaced
    have hnot : ¬lowerChars last.value.toList <:+: lowerChars (front ++ spelling last) := fun hin =>
      nomatch (hfound hin).symm.trans hreplacement
    refine ⟨c, hc, span, front, last, hplaced, fun hrecognizable => hnot ?_, ?_⟩
    · exact infix_of_recognizable hplaced.quote hrecognizable
    · exact Except.error.inj (hreplacement.symm.trans (hlost hnot))
  refine ⟨fun hall => ?_, fun c hc span last hplaced hnot => ?_, fun f => hfaults⟩
  · cases happly : r.apply sql s with
    | ok t => exact ⟨t, rfl⟩
    | error f =>
      obtain ⟨c, hc, span, front, last, hplaced, hnot, -⟩ := hfaults happly
      exact absurd (hall c hc span front last hplaced) hnot
  · exact exists_error_of_replacement hc ((replacement_of_placed hplaced).2 fun hin =>
      hnot (recognizable_of_occurs hplaced.quote hin))

/-! ### Names that are found, and names that are not -/

/-- The words of the names that a renaming changes in a text. -/
def wordsMatched (r : Renaming) (sql : String) : Option (List (List Ident)) :=
  match (Engine.ofDialect .generic {}).read sql with
  | .ok s => some ((r.matching s).map fun c => Name.idents c.name)
  | .error _ => none

theorem exists_of_wordsMatched {words : List Ident} (h : r.wordsMatched sql = some [words]) :
    ∃ s c, (Engine.ofDialect .generic {}).read sql = .ok s ∧ r.matching s = [c] ∧
      Name.idents c.name = words := by
  rw [wordsMatched] at h
  split at h
  next s hs =>
    obtain ⟨c, hc, hwords⟩ := List.map_eq_singleton_iff.mp (Option.some.inj h)
    exact ⟨s, c, hs, hc, hwords⟩
  next => cases h

/-- The name `x.nvl"`. -/
def quotedNvl : Pattern := ⟨"x.nvl\"", "x.nvl\"".toList.map .char⟩

/-- A quote at the end of a word does no harm. -/
theorem apply_of_placed_quotedNvl :
    ∃ s, (∀ c ∈ matching ⟨quotedNvl, "coalesce"⟩ s, ∃ span front last,
        Placed "SELECT x.\"nvl\"\"\"(a)" c span front last) ∧
      matching ⟨quotedNvl, "coalesce"⟩ s ≠ [] ∧
        ∃ t, apply ⟨quotedNvl, "coalesce"⟩ "SELECT x.\"nvl\"\"\"(a)" s = .ok t := by
  let x : Ident := ⟨"x", none, some (⟨1, 8⟩, ⟨1, 9⟩)⟩
  let last : Ident := ⟨"nvl\"", some '"', some (⟨1, 10⟩, ⟨1, 17⟩)⟩
  have hmatched : wordsMatched ⟨quotedNvl, "coalesce"⟩ "SELECT x.\"nvl\"\"\"(a)" =
      some [[x, last]] := by decide +kernel
  obtain ⟨s, c, -, hcalls, hwords⟩ := exists_of_wordsMatched hmatched
  have hplaced : Placed "SELECT x.\"nvl\"\"\"(a)" c ⟨7, 16⟩ ['x', '.'] last := by
    refine ⟨by rw [hwords]; rfl, ⟨x, by rw [hwords]; rfl, by decide⟩, by decide, ?_⟩
    rintro q ⟨⟩
    decide
  have hall : ∀ c ∈ matching ⟨quotedNvl, "coalesce"⟩ s, ∃ span front last,
      Placed "SELECT x.\"nvl\"\"\"(a)" c span front last := by
    rw [hcalls, List.forall_mem_singleton]
    exact ⟨_, _, _, hplaced⟩
  refine ⟨s, hall, by simp [hcalls], (apply_of_placed hall).1 ?_⟩
  rw [hcalls, List.forall_mem_singleton]
  intro span front last' h
  obtain rfl := Option.some.inj (hplaced.ends.symm.trans h.ends)
  refine ⟨?_, fun _ => by decide⟩
  rintro q ⟨⟩
  decide

/-- The words of all names stand where they should, and the renaming fails. -/
def Refused (r : Renaming) (sql : String) : Prop :=
  ∃ s, (Engine.ofDialect .generic {}).read sql = .ok s ∧
    (∀ c ∈ r.matching s, ∃ span front last, Placed sql c span front last) ∧
      ∃ f, r.apply sql s = .error f

theorem refused_of_wordsMatched (words : List Ident) (span : Span) (front : List Char)
    (first last : Ident) (hmatched : r.wordsMatched sql = some [words])
    (hfirst : words.head? = some first) (hlast : words.getLast? = some last)
    (hspan : spanOf? sql first last = some span)
    (hslice : span.slice sql.toList = front ++ spelling last)
    (hquote : ∀ q, last.quote = some q → q ∈ quoteSigns)
    (hlost : occursIn (lowerChars last.value.toList) (lowerChars (front ++ spelling last)) = false) :
    r.Refused sql := by
  obtain ⟨s, c, hread, hcalls, rfl⟩ := exists_of_wordsMatched hmatched
  have hplaced : Placed sql c span front last := ⟨hlast, ⟨first, hfirst, hspan⟩, hslice, hquote⟩
  have herror := (replacement_of_placed (r := r) hplaced).2 (occursIn_iff.not.mp (by simp [hlost]))
  refine ⟨s, hread, ?_, exists_error_of_replacement (by simp [hcalls]) herror⟩
  rw [hcalls, List.forall_mem_singleton]
  exact ⟨_, _, _, hplaced⟩

/-- The name `a"b`. -/
def quoteInside : Pattern := ⟨"a\"b", "a\"b".toList.map .char⟩

def finalSigma : Pattern := ⟨"a.Σ", "a.Σ".toList.map .char⟩

/-- A quote inside a word does, and so does a final sigma behind another word. -/
theorem names_refused :
    Refused ⟨quoteInside, "c"⟩ "SELECT \"a\"\"b\"(x)" ∧ Refused ⟨finalSigma, "c"⟩ "SELECT a.Σ(x)" := by
  let a : Ident := ⟨"a", none, some (⟨1, 8⟩, ⟨1, 9⟩)⟩
  let quoted : Ident := ⟨"a\"b", some '"', some (⟨1, 8⟩, ⟨1, 14⟩)⟩
  let sigma : Ident := ⟨"Σ", none, some (⟨1, 10⟩, ⟨1, 11⟩)⟩
  constructor
  · refine refused_of_wordsMatched [quoted] ⟨7, 13⟩ [] quoted quoted (by decide +kernel) rfl rfl
      (by decide) (by decide) ?_ (by decide)
    rintro q ⟨⟩
    decide
  · exact refused_of_wordsMatched [a, sigma] ⟨7, 11⟩ ['a', '.'] a sigma (by decide +kernel) rfl rfl
      (by decide) (by decide) nofun (by decide +kernel)

end Renaming

end EmbeddedSql.Call
