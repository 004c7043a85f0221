import EmbeddedSql.Proofs.Call.Spelling
import EmbeddedSql.Proofs.Call.Word
import EmbeddedSql.Proofs.Text.Weaving

/-! A renaming and the way back.

If the text that a renaming gives is read with the calls of `f` as calls of `g` in their new places,
and all other calls as they were, `g` can be renamed to `f` again (`apply_back`). The names are found,
and the text is the old one but for their case: a name in capitals is in capitals again, any other is
written as `f` is. -/
namespace EmbeddedSql.Call

open Sql Text

/-! ### Words between the same gaps -/

theorem Parallel.eq_woven {read written : Nat} {old new : List Char} {there back : List Replacement}
    (h : Parallel read written old new there back) (front : List Char)
    (hf : byteCount front = read) :
    new = woven (gaps read (front ++ old) (there.map Replacement.span))
      (there.map (·.spelling.toList)) := by
  induction h generalizing front with
  | rest =>
    subst hf
    simp [gaps, woven]
  | @swap read written gap was becomes old new there back _ ih =>
    subst hf
    have hgap := slice_part front gap (was.toList ++ old)
    have := ih (front ++ gap ++ was.toList) (by simp [Nat.add_assoc])
    simp only [List.append_assoc] at hgap this
    simp only [List.map_cons, gaps, woven, List.append_assoc, hgap, ← this]

/-! ### Replacements found again -/

/-- The first replacement of all stands in the first place. -/
theorem span_eq_of_first {x : Replacement} {rs : List Replacement} {p : Span} {spans : List Span}
    (hsorted : ∀ y ∈ rs, x.span.before y.span = true) (hapart : ∀ q ∈ spans, p.stop ≤ q.start)
    (hp : p.start < p.stop) (hx : x.span ∈ p :: spans) (hfound : ∃ y ∈ x :: rs, y.span = p) :
    x.span = p := by
  rcases List.mem_cons.mp hx with hfirst | hlater
  · exact hfirst
  · obtain ⟨y, hy, rfl⟩ := hfound
    rcases List.mem_cons.mp hy with rfl | hy
    · rfl
    · have := le_start_of_before (hsorted y hy)
      have := hapart x.span hlater
      omega

/-- Of replacements in ascending order just those are made that lie apart, if the others are found
in the same places. -/
theorem map_span_made {rs : List Replacement} {spans : List Span} {read : Nat}
    (hsorted : rs.Pairwise fun a b => a.span.before b.span = true)
    (hapart : spans.Pairwise fun a b => a.stop ≤ b.start) (hspans : ∀ p ∈ spans, p.start < p.stop)
    (hread : ∀ p ∈ spans, read ≤ p.start)
    (hfound : ∀ x ∈ rs, x.span ∈ spans ∨ x.span.start < read)
    (hall : ∀ p ∈ spans, ∃ x ∈ rs, x.span = p) :
    (made read rs).map Replacement.span = spans := by
  induction rs generalizing spans read with
  | nil =>
    cases spans with
    | nil => rfl
    | cons p spans =>
      obtain ⟨x, hx, -⟩ := hall p (List.mem_cons_self ..)
      cases hx
  | cons r rs ih =>
    rw [List.pairwise_cons] at hsorted
    rw [List.forall_mem_cons] at hfound
    -- What another place needs is not the first replacement.
    have hothers (p : Span) (hp : p ∈ spans) (hne : r.span ≠ p) : ∃ x ∈ rs, x.span = p :=
      ((List.exists_mem_cons_iff ..).mp (hall p hp)).resolve_left hne
    by_cases hr : r.span.start < read
    · rw [made, if_pos hr]
      refine ih hsorted.2 hapart hspans hread hfound.2 fun p hp => hothers p hp ?_
      rintro rfl
      exact absurd (hread _ hp) (Nat.not_le.mpr hr)
    · have hmem := hfound.1.resolve_right hr
      cases spans with
      | nil => cases hmem
      | cons p spans =>
        rw [List.pairwise_cons] at hapart
        rw [List.forall_mem_cons] at hspans hread
        obtain rfl := span_eq_of_first hsorted.1 hapart.1 hspans.1 hmem
          (hall p (List.mem_cons_self ..))
        rw [made, if_neg hr, List.map_cons]
        congr 1
        refine ih hsorted.2 hapart.2 hspans.2 hapart.1 (fun x hx => ?_) fun p hp =>
          hothers p (List.mem_cons_of_mem _ hp) ?_
        · rcases hfound.2 x hx with hx | hx
          · rcases List.mem_cons.mp hx with hx | hx
            · exact .inr (hx ▸ hspans.1)
            · exact .inl hx
          · exact .inr (by omega)
        · rintro rfl
          exact absurd (hapart.1 _ hp) (Nat.not_le.mpr hspans.1)

theorem map_span_chosen {all : List Replacement} {spans : List Span}
    (hapart : spans.Pairwise fun a b => a.stop ≤ b.start) (hspans : ∀ p ∈ spans, p.start < p.stop)
    (hfound : ∀ x ∈ all, x.span ∈ spans) (hall : ∀ p ∈ spans, ∃ x ∈ all, x.span = p) :
    (chosen all).map Replacement.span = spans := by
  refine map_span_made (pairwise_mergeSort_before all) hapart hspans (fun _ _ => Nat.zero_le _)
    (fun x hx => .inl (hfound x (List.mem_mergeSort.mp hx))) fun p hp => ?_
  obtain ⟨x, hx, hspan⟩ := hall p hp
  exact ⟨x, List.mem_mergeSort.mpr hx, hspan⟩

theorem nodup_of_apart {spans : List Span} (hapart : spans.Pairwise fun a b => a.stop ≤ b.start)
    (hspans : ∀ p ∈ spans, p.start < p.stop) : spans.Nodup := by
  refine hapart.imp_of_mem fun ha _ hle => ?_
  rintro rfl
  exact absurd (hspans _ ha) (Nat.not_lt.mpr hle)

theorem eq_of_mem_zip {α β : Type} {xs : List α} {ys : List β} {x : α} {y y' : β} (h : xs.Nodup)
    (hy : (x, y) ∈ xs.zip ys) (hy' : (x, y') ∈ xs.zip ys) : y = y' := by
  induction xs generalizing ys with
  | nil => cases hy
  | cons a xs ih =>
    cases ys with
    | nil => cases hy
    | cons b ys =>
      rw [List.nodup_cons] at h
      rw [List.zip_cons_cons, List.mem_cons, Prod.mk.injEq] at hy hy'
      rcases hy with ⟨rfl, rfl⟩ | hy
      · rcases hy' with ⟨-, rfl⟩ | hy'
        · rfl
        · exact absurd (List.of_mem_zip hy').1 h.1
      · rcases hy' with ⟨rfl, -⟩ | hy'
        · exact absurd (List.of_mem_zip hy).1 h.1
        · exact ih h.2 hy hy'

theorem eq_of_mem_zip_of_map {α β γ : Type} {f : α → γ} {k : β → γ} {xs : List α} {ys : List β}
    {x : α} {y : β} (h : xs.map f = ys.map k) (hmem : (x, y) ∈ xs.zip ys) : f x = k y := by
  induction xs generalizing ys with
  | nil => cases hmem
  | cons a xs ih =>
    cases ys with
    | nil => cases hmem
    | cons b ys =>
      rw [List.map_cons, List.map_cons, List.cons_eq_cons] at h
      rcases List.mem_cons.mp hmem with heq | hmem
      · cases heq
        exact h.1
      · exact ih h.2 hmem

/-! ### Words and quotes -/

theorem toList_inQuotes (q : Option Char) (w : String) :
    (inQuotes q w).toList = q.toList ++ w.toList ++ (q.map closingQuote).toList := by
  cases q with
  | none => simp [inQuotes]
  | some q => simp [inQuotes]

theorem not_isWordChar_of_quoteSigns {q : Char} (h : q ∈ quoteSigns) :
    isWordChar q = false ∧ isWordChar (closingQuote q) = false := by
  simp only [quoteSigns, List.mem_cons, List.not_mem_nil, or_false] at h
  rcases h with rfl | rfl | rfl | rfl <;> exact ⟨rfl, rfl⟩

/-- A word without a closing quote is spelled between its quotes as it is, and no other word is
spelled so. -/
theorem spelling_eq_iff {i : Ident} {w : String}
    (h : ∀ q, i.quote = some q → closingQuote q ∉ w.toList) :
    spelling i = (inQuotes i.quote w).toList ↔ i.value = w := by
  rw [spelling, toList_inQuotes]
  cases hquote : i.quote with
  | none => simp [String.toList_inj]
  | some q =>
    have hplain := h q hquote
    have hcancel : (q :: doubled (closingQuote q) i.value.toList ++ [closingQuote q] =
        (some q).toList ++ w.toList ++ ((some q).map closingQuote).toList) ↔
        doubled (closingQuote q) i.value.toList = w.toList := by
      simp
    rw [hcancel]
    constructor
    · intro heq
      have hvalue : closingQuote q ∉ i.value.toList := fun hmem =>
        hplain (heq ▸ List.mem_flatMap.mpr ⟨_, hmem, by simp⟩)
      rw [doubled_eq_self hvalue] at heq
      exact String.toList_injective heq
    · rintro rfl
      exact doubled_eq_self hplain

theorem inQuotes_ne_word {q : Char} {w w' : String} (hq : q ∈ quoteSigns)
    (hw : ∀ c ∈ w.toList, isWordChar c = true) : w ≠ inQuotes (some q) w' := by
  intro h
  have hmem : q ∈ w.toList := by
    rw [h, toList_inQuotes]
    simp
  exact absurd (hw q hmem) (by simp [(not_isWordChar_of_quoteSigns hq).1])

/-- Words between quotes are the same only if both the words and the quotes are. -/
theorem inQuotes_inj {q q' : Option Char} {w w' : String} (hq : ∀ c, q = some c → c ∈ quoteSigns)
    (hq' : ∀ c, q' = some c → c ∈ quoteSigns) (hw : ∀ c ∈ w.toList, isWordChar c = true)
    (hw' : ∀ c ∈ w'.toList, isWordChar c = true) (h : inQuotes q w = inQuotes q' w') :
    q = q' ∧ w = w' := by
  cases q with
  | none =>
    cases q' with
    | none => exact ⟨rfl, h⟩
    | some c' => exact absurd h (inQuotes_ne_word (hq' c' rfl) hw)
  | some c =>
    cases q' with
    | none => exact absurd h.symm (inQuotes_ne_word (hq c rfl) hw')
    | some c' =>
      have hlists := congrArg String.toList h
      rw [toList_inQuotes, toList_inQuotes, List.append_assoc, List.append_assoc] at hlists
      obtain ⟨rfl, hlists⟩ := List.cons.inj hlists
      exact ⟨rfl, String.toList_injective (List.append_inj_left' hlists rfl)⟩

theorem inCapitals_inQuotes {q : Option Char} (hq : ∀ c, q = some c → c ∈ quoteSigns) (w : String) :
    inCapitals (inQuotes q w).toList = inCapitals w.toList := by
  have hletter {c : Char} (hc : isWordChar c = false) : isAlphabetic c = false := by
    rw [isWordChar, isAlphanumeric] at hc
    simp_all
  cases q with
  | none => rfl
  | some q =>
    obtain ⟨ho, hc⟩ := not_isWordChar_of_quoteSigns (hq q rfl)
    rw [toList_inQuotes]
    exact inCapitals_quoted (hletter ho) (hletter hc) w.toList

theorem cased_inQuotes {q : Option Char} (hq : ∀ c, q = some c → c ∈ quoteSigns) (w name : String) :
    cased w (inQuotes q name).toList = cased w name.toList := by
  rw [cased, cased, inCapitals_inQuotes hq]

/-! ### The way back -/

/-- The replacements that are made, with their places in the new text. -/
def Renaming.moves (r : Renaming) (sql : String) (s : Statement) (t : Renamed) :
    List (Replacement × Span) :=
  match (r.matching s).mapM (r.replacement sql) with
  | .ok all => (chosen all).zip t.changes
  | .error _ => []

/-- The name of a call is the word `i` in the old text and the word `i'` in the new one, where its
replacement `x` has been put at `place`. -/
structure Moved (r : Renaming) (sql : String) (s : Statement) (t : Renamed) (c c' : Sql.Call)
    (i i' : Ident) (x : Replacement) (place : Span) : Prop where
  old : Placed sql c x.span [] i
  new : Placed t.text c' place [] i'
  quote : i'.quote = i.quote
  found : r.replacement sql c = .ok x
  move : (x, place) ∈ r.moves sql s t

/-- How a call is read again in the new text: under the new name, of which `p` is the pattern, in its
new place if it has been renamed, and under its own name if not. -/
inductive Carried (r : Renaming) (p : Pattern) (sql : String) (s : Statement) (t : Renamed)
    (c c' : Sql.Call) : Prop
  | kept : r.pattern.matches (Name.dotted c.name) = false →
      Name.dotted c'.name = Name.dotted c.name → Carried r p sql s t c c'
  | renamed {i i' : Ident} {x : Replacement} {place : Span} :
      r.pattern.matches (Name.dotted c.name) = true → p.matches (Name.dotted c'.name) = true →
      Moved r sql s t c c' i i' x place → Carried r p sql s t c c'

namespace Renaming

variable {f g sql : String} {s s' : Statement} {t : Renamed}

/-- What the way back finds for a call of `f`: in the place where its replacement `x` has been put,
`y` is the name as it was but for its case. -/
structure Returns (f g sql : String) (s : Statement) (t : Renamed) (c : Sql.Call) (i : Ident)
    (x y : Replacement) : Prop where
  value : i.value = Name.dotted c.name
  same : List.Forall₂ (fun c d => sameChar d c = true) f.toList i.value.toList
  quote : ∀ q, i.quote = some q → q ∈ quoteSigns
  slice : x.span.slice sql.toList = (inQuotes i.quote i.value).toList
  found : replacement ⟨wordPattern f, g⟩ sql c = .ok x
  move : (x, y.span) ∈ moves ⟨wordPattern f, g⟩ sql s t
  apart : x.span.start < x.span.stop ∧ y.span.start < y.span.stop
  spelling : y.spelling = inQuotes i.quote (thereAndBack f g i.value)

theorem lt_of_placed {c : Sql.Call} {span : Span} {front : List Char} {last : Ident}
    (h : Placed sql c span front last) : span.start < span.stop := by
  obtain ⟨first, -, hspan⟩ := h.starts
  exact (spanOf?_part hspan).2

/-- What has been put at a place stands there in the new text. -/
theorem spelling_of_mem_moves {r : Renaming} (ht : r.apply sql s = .ok t) {x : Replacement}
    {place : Span} (h : (x, place) ∈ r.moves sql s t) :
    x.spelling.toList = place.slice t.text.toList := by
  obtain ⟨all, back, hall, -, hparallel, hchanges⟩ := exists_chosen_of_apply ht
  rw [moves, hall] at h
  refine eq_of_mem_zip_of_map (f := fun x : Replacement => x.spelling.toList)
    (k := fun p : Span => p.slice t.text.toList) ?_ h
  rw [hchanges, List.map_map]
  exact (hparallel.symm.slices [] rfl).symm

/-- A word that no closing quote stands in can be replaced. -/
theorem replacement_of_word {r : Renaming} {c : Sql.Call} {span : Span} {i : Ident}
    (h : Placed sql c span [] i) (hplain : ∀ q, i.quote = some q → closingQuote q ∉ i.value.toList) :
    r.replacement sql c = .ok ⟨span, inQuotes i.quote (cased r.newName i.value.toList)⟩ := by
  have hfound := (replacement_of_placed (r := r) h).1
    (infix_of_recognizable h.quote (recognizable_of_not_mem h.quote hplain))
  rwa [List.nil_append, (spelling_eq_iff hplain).mpr rfl, cased_inQuotes h.quote] at hfound

theorem returns_of_moved {c c' : Sql.Call} {i i' : Ident} {x : Replacement} {place : Span}
    (hf : IsWord f) (hg : IsWord g) (ht : apply ⟨wordPattern f, g⟩ sql s = .ok t)
    (hc : (wordPattern f).matches (Name.dotted c.name) = true)
    (h : Moved ⟨wordPattern f, g⟩ sql s t c c' i i' x place) :
    ∃ y, replacement ⟨wordPattern g, f⟩ t.text c' = .ok y ∧ Returns f g sql s t c i x y := by
  obtain ⟨j, hidents, hdotted, hsame⟩ := idents_of_matches hf hc
  have hends := h.old.ends
  rw [hidents, List.getLast?_singleton, Option.some.injEq] at hends
  subst hends
  have hold : ∀ q, j.quote = some q → closingQuote q ∉ j.value.toList := by
    intro q hq hmem
    obtain ⟨d, hd, hsame⟩ := exists_of_forall₂ hsame _ hmem
    have hword := isWordChar_of_sameChar hsame (hf.all d hd)
    simp [(not_isWordChar_of_quoteSigns (h.old.quote q hq)).2] at hword
  have hslice : x.span.slice sql.toList = (inQuotes j.quote j.value).toList := by
    rw [h.old.slice, List.nil_append, (spelling_eq_iff hold).mpr rfl]
  have hspelling : x.spelling = inQuotes j.quote (cased g j.value.toList) :=
    congrArg Replacement.spelling
      (Except.ok.inj (h.found.symm.trans (replacement_of_word h.old hold)))
  have hnew : ∀ q, i'.quote = some q → closingQuote q ∉ (cased g j.value.toList).toList := by
    intro q hq hmem
    have hsigns := h.new.quote q hq
    have := hg.all _ (mem_of_mem_cased (caseless_of_quoteSigns hsigns).2 hmem)
    simp [(not_isWordChar_of_quoteSigns hsigns).2] at this
  have hvalue : i'.value = cased g j.value.toList := by
    refine (spelling_eq_iff hnew).mp ?_
    rw [← List.nil_append (spelling i'), ← h.new.slice, ← spelling_of_mem_moves ht h.move,
      hspelling, h.quote]
  have hback := replacement_of_word (r := ⟨wordPattern g, f⟩) h.new (hvalue ▸ hnew)
  rw [hvalue, h.quote] at hback
  exact ⟨_, hback, {
    value := hdotted.symm
    same := hsame
    quote := h.old.quote
    slice := hslice
    found := h.found
    move := h.move
    apart := ⟨lt_of_placed h.old, lt_of_placed h.new⟩
    spelling := rfl }⟩

/-- The way back finds the calls that have been renamed, and no others. -/
theorem forall₂_returns {cs cs' : List Sql.Call} (hf : IsWord f) (hg : IsWord g)
    (ht : apply ⟨wordPattern f, g⟩ sql s = .ok t)
    (hnone : ∀ c ∈ cs, (wordPattern g).matches (Name.dotted c.name) = false)
    (hcalls : List.Forall₂ (Carried ⟨wordPattern f, g⟩ (wordPattern g) sql s t) cs cs') :
    List.Forall₂ (fun c c' => ∃ y, replacement ⟨wordPattern g, f⟩ t.text c' = .ok y ∧
        ∃ i x, Returns f g sql s t c i x y)
      (cs.filter fun c => (wordPattern f).matches (Name.dotted c.name))
      (cs'.filter fun c => (wordPattern g).matches (Name.dotted c.name)) := by
  induction hcalls with
  | nil => exact .nil
  | @cons c c' cs cs' hcarried _ ih =>
    rw [List.forall_mem_cons] at hnone
    cases hcarried with
    | kept hother hname =>
      have hother' : (wordPattern g).matches (Name.dotted c'.name) = false := hname ▸ hnone.1
      rw [List.filter_cons_of_neg (by simp [hother]), List.filter_cons_of_neg (by simp [hother'])]
      exact ih hnone.2
    | renamed hold hnew hmoved =>
      obtain ⟨y, hy, hreturns⟩ := returns_of_moved hf hg ht hold hmoved
      rw [List.filter_cons, List.filter_cons, if_pos hold, if_pos hnew]
      exact .cons ⟨y, hy, _, _, hreturns⟩ (ih hnone.2)

theorem exists_apply_of_mapM {r : Renaming} {all : List Replacement}
    (h : (r.matching s).mapM (r.replacement sql) = .ok all) : ∃ t, r.apply sql s = .ok t := by
  cases happly : r.apply sql s with
  | ok t => exact ⟨t, rfl⟩
  | error f =>
    cases (apply_eq_error_iff.mp happly).symm.trans h

/-- A word of the old text, and what stands in its place after the way back. -/
structure Recased (f g : String) (q : Option Char) (name : String) (was becomes : Replacement) :
    Prop where
  quote : ∀ c, q = some c → c ∈ quoteSigns
  word : ∀ c ∈ name.toList, isWordChar c = true
  length : f.toList.length = name.toList.length
  was : was.spelling = inQuotes q name
  becomes : becomes.spelling = inQuotes q (thereAndBack f g name)

section
variable {all all' back : List Replacement}

theorem Returns.isWordChar {c : Sql.Call} {i : Ident} {x y : Replacement} (hf : IsWord f)
    (h : Returns f g sql s t c i x y) : ∀ c ∈ i.value.toList, isWordChar c = true := by
  intro c hc
  obtain ⟨d, hd, hsame⟩ := exists_of_forall₂ h.same c hc
  exact isWordChar_of_sameChar hsame (hf.all d hd)

/-- The old name is what leads back. -/
theorem exists_back_of_returns {c : Sql.Call} {i : Ident} {x y : Replacement}
    (hmoves : moves ⟨wordPattern f, g⟩ sql s t = (chosen all).zip (back.map Replacement.span))
    (hparallel : Parallel 0 0 sql.toList t.text.toList (chosen all) back)
    (h : Returns f g sql s t c i x y) :
    ∃ b ∈ back, b.span = y.span ∧ b.spelling = inQuotes i.quote i.value := by
  have hmove := h.move
  rw [hmoves, List.zip_map_right, List.mem_map] at hmove
  obtain ⟨⟨x', b⟩, hmem, heq⟩ := hmove
  obtain ⟨rfl, hspan⟩ := Prod.mk.inj heq
  have hword : x'.span.slice sql.toList = b.spelling.toList :=
    eq_of_mem_zip_of_map (f := fun x : Replacement => x.span.slice sql.toList)
      (k := fun b : Replacement => b.spelling.toList) (hparallel.slices [] rfl) hmem
  exact ⟨b, (List.of_mem_zip hmem).2, hspan, String.toList_injective (hword.symm.trans h.slice)⟩

/-- The way back finds all that has been put into the new text. -/
theorem exists_returns_of_mem_chosen (hall : (matching ⟨wordPattern f, g⟩ s).mapM
      (replacement ⟨wordPattern f, g⟩ sql) = .ok all)
    (hreturns : List.Forall₂ (fun c y => ∃ i x, Returns f g sql s t c i x y)
      (matching ⟨wordPattern f, g⟩ s) all') {k : Replacement} (hk : k ∈ chosen all) :
    ∃ c ∈ matching ⟨wordPattern f, g⟩ s, ∃ y ∈ all', ∃ i, Returns f g sql s t c i k y := by
  have hfound : k ∈ all := List.mem_mergeSort.mp ((made_sublist 0 _).subset hk)
  obtain ⟨c, hc, hreplacement⟩ := exists_of_forall₂ (forall₂_of_mapM hall) k hfound
  obtain ⟨y, hy, i, x, hreturn⟩ := exists_of_forall₂ hreturns.flip c hc
  obtain rfl : x = k := Except.ok.inj (hreturn.found.symm.trans hreplacement)
  exact ⟨c, hc, y, hy, i, hreturn⟩

theorem exists_of_mem_places (hall : (matching ⟨wordPattern f, g⟩ s).mapM
      (replacement ⟨wordPattern f, g⟩ sql) = .ok all)
    (hparallel : Parallel 0 0 sql.toList t.text.toList (chosen all) back)
    (hmoves : moves ⟨wordPattern f, g⟩ sql s t = (chosen all).zip (back.map Replacement.span))
    (hreturns : List.Forall₂ (fun c y => ∃ i x, Returns f g sql s t c i x y)
      (matching ⟨wordPattern f, g⟩ s) all') {p : Span} (hp : p ∈ back.map Replacement.span) :
    p.start < p.stop ∧ ∃ y ∈ all', y.span = p := by
  have hnodup : (chosen all).Nodup := by
    refine List.Nodup.of_map Replacement.span (nodup_of_apart ?_ ?_)
    · exact List.pairwise_map.mpr hparallel.apart
    · rw [List.forall_mem_map]
      intro k hk
      obtain ⟨c, -, y, -, i, hreturn⟩ := exists_returns_of_mem_chosen hall hreturns hk
      exact hreturn.apart.1
  obtain ⟨k, hk⟩ : ∃ k, (k, p) ∈ (chosen all).zip (back.map Replacement.span) := by
    have hlength : (back.map Replacement.span).length ≤ (chosen all).length := by
      rw [List.length_map, hparallel.length_add.1]
    rw [← List.map_snd_zip hlength] at hp
    obtain ⟨⟨k, q⟩, hmem, rfl⟩ := List.mem_map.mp hp
    exact ⟨k, hmem⟩
  obtain ⟨c, -, y, hy, i, hreturn⟩ :=
    exists_returns_of_mem_chosen hall hreturns (List.of_mem_zip hk).1
  obtain rfl := eq_of_mem_zip hnodup hk (hmoves ▸ hreturn.move)
  exact ⟨hreturn.apart.2, y, hy, rfl⟩

/-- The places are the same on the way back, and the words are but for their case. -/
theorem chosen_back (hf : IsWord f) (hall : (matching ⟨wordPattern f, g⟩ s).mapM
      (replacement ⟨wordPattern f, g⟩ sql) = .ok all)
    (hparallel : Parallel 0 0 sql.toList t.text.toList (chosen all) back)
    (hmoves : moves ⟨wordPattern f, g⟩ sql s t = (chosen all).zip (back.map Replacement.span))
    (hreturns : List.Forall₂ (fun c y => ∃ i x, Returns f g sql s t c i x y)
      (matching ⟨wordPattern f, g⟩ s) all') :
    (chosen all').map Replacement.span = back.map Replacement.span ∧
      List.Forall₂ (fun b y => ∃ c ∈ matching ⟨wordPattern f, g⟩ s, ∃ q,
        Recased f g q (Name.dotted c.name) b y) back (chosen all') := by
  have hapart : (back.map Replacement.span).Pairwise fun a b => a.stop ≤ b.start :=
    List.pairwise_map.mpr hparallel.symm.apart
  have hlt : ∀ p ∈ back.map Replacement.span, p.start < p.stop := fun p hp =>
    (exists_of_mem_places hall hparallel hmoves hreturns hp).1
  have hspans : (chosen all').map Replacement.span = back.map Replacement.span := by
    refine map_span_chosen hapart hlt (fun y hy => ?_) fun p hp => ?_
    · obtain ⟨c, -, i, x, hreturn⟩ := exists_of_forall₂ hreturns y hy
      exact (List.of_mem_zip (hmoves ▸ hreturn.move)).2
    · exact (exists_of_mem_places hall hparallel hmoves hreturns hp).2
  refine ⟨hspans, List.forall₂_iff_zip.mpr ⟨?_, fun {b y} hby => ?_⟩⟩
  · simpa using (congrArg List.length hspans).symm
  · have hy : y ∈ all' := List.mem_mergeSort.mp ((made_sublist 0 _).subset (List.of_mem_zip hby).2)
    obtain ⟨c, hc, i, x, hreturn⟩ := exists_of_forall₂ hreturns y hy
    obtain ⟨b', hb', hspan, hwas⟩ := exists_back_of_returns hmoves hparallel hreturn
    obtain rfl : b' = b := List.inj_on_of_nodup_map (nodup_of_apart hapart hlt) hb'
      (List.of_mem_zip hby).1 (hspan.trans (eq_of_mem_zip_of_map hspans.symm hby).symm)
    refine ⟨c, hc, i.quote, ?_⟩
    rw [← hreturn.value]
    exact ⟨hreturn.quote, hreturn.isWordChar hf, hreturn.same.length_eq, hwas, hreturn.spelling⟩

theorem length_gaps (read : Nat) (cs : List Char) (spans : List Span) :
    (gaps read cs spans).length = spans.length + 1 := by
  induction spans generalizing read with
  | nil => rfl
  | cons p spans ih => rw [gaps, List.length_cons, ih, List.length_cons]

theorem inQuotes_cancel {q : Option Char} {w w' : String} :
    inQuotes q w = inQuotes q w' ↔ w = w' := by
  rw [← String.toList_inj, toList_inQuotes, toList_inQuotes, List.append_assoc, List.append_assoc,
    List.append_cancel_left_eq, List.append_cancel_right_eq, String.toList_inj]

/-- Texts with the same gaps are the same if their words are; and only then, if no word is
shorter after the way back. -/
theorem text_eq_iff {u : Renamed} {back' words : List Replacement}
    (hparallel : Parallel 0 0 sql.toList t.text.toList all back)
    (hparallel' : Parallel 0 0 t.text.toList u.text.toList words back')
    (hspans : words.map Replacement.span = back.map Replacement.span)
    (hwords : List.Forall₂ (fun b y => ∃ q name, Recased f g q name b y) back words) :
    u.text = sql ↔ List.Forall₂ (fun b y : Replacement => b.spelling = y.spelling) back words := by
  have hold := hparallel.symm.eq_woven [] rfl
  have hnew := hparallel'.eq_woven [] rfl
  rw [hspans] at hnew
  constructor
  · intro hsame
    rw [← hsame, hnew] at hold
    have hle : List.Forall₂ (fun w w' => w.length ≤ w'.length) (back.map (·.spelling.toList))
        (words.map (·.spelling.toList)) := by
      rw [List.forall₂_map_left_iff, List.forall₂_map_right_iff]
      refine hwords.imp fun b y => ?_
      rintro ⟨q, name, h⟩
      have := length_le_cased f (cased g name.toList).toList
      have hlength := h.length
      rw [h.was, h.becomes, toList_inQuotes, toList_inQuotes]
      simp only [List.length_append, thereAndBack]
      omega
    have hlists := woven_inj hle (by simp [length_gaps]) hold.symm
    rw [← List.forall₂_eq_eq_eq, List.forall₂_map_left_iff, List.forall₂_map_right_iff] at hlists
    exact hlists.imp fun _ _ => String.toList_injective
  · intro hsame
    have hlists : back.map (·.spelling.toList) = words.map (·.spelling.toList) := by
      rw [← List.forall₂_eq_eq_eq, List.forall₂_map_left_iff, List.forall₂_map_right_iff]
      exact hsame.imp fun _ _ h => congrArg String.toList h
    rw [← hlists] at hnew
    exact String.toList_injective (hnew.trans hold.symm)

end

/-- **The way back gives the old text exactly if all names of calls come back.** A name in capitals
does, and so does a name that is written as the old one, if the new one is not in capitals. -/
theorem apply_back {f g : String} {pf pg : Pattern} {e : Engine} {sql : String}
    {s s' : Statement} {t : Renamed} (hf : IsWord f) (hg : IsWord g)
    (hpf : Pattern.read f = .ok pf) (hpg : Pattern.read g = .ok pg) (hread : e.read sql = .ok s)
    (hnone : ∀ c ∈ s.calls, pg.matches (Name.dotted c.name) = false)
    (ht : apply ⟨pf, g⟩ sql s = .ok t)
    (hcalls : List.Forall₂ (Carried ⟨pf, g⟩ pg sql s t) s.calls s'.calls) :
    ∃ u, apply ⟨pg, f⟩ t.text s' = .ok u ∧
      (u.text = sql ↔ ∀ c ∈ matching ⟨pf, g⟩ s,
        thereAndBack f g (Name.dotted c.name) = Name.dotted c.name) ∧
      (IsAscii f → IsAscii g → ∀ c ∈ matching ⟨pf, g⟩ s,
        (thereAndBack f g (Name.dotted c.name) = Name.dotted c.name ↔
          inCapitals (Name.dotted c.name).toList = true ∨
            Name.dotted c.name = f ∧ inCapitals g.toList = false)) ∧
      (u.text = sql → ∃ s₂, e.read u.text = .ok s₂ ∧ s₂.text = s.text) := by
  obtain rfl := Except.ok.inj (hpf.symm.trans (Pattern.read_word hf))
  obtain rfl := Except.ok.inj (hpg.symm.trans (Pattern.read_word hg))
  obtain ⟨all, back, hall, -, hparallel, hchanges⟩ := exists_chosen_of_apply ht
  obtain ⟨all', hall', hreturns⟩ := exists_mapM_of_forall₂ (forall₂_returns hf hg ht hnone hcalls)
  obtain ⟨u, hu⟩ := exists_apply_of_mapM hall'
  obtain ⟨all'', back', hall'', -, hparallel', -⟩ := exists_chosen_of_apply hu
  obtain rfl := Except.ok.inj (hall''.symm.trans hall')
  have hmoves : moves ⟨wordPattern f, g⟩ sql s t = (chosen all).zip (back.map Replacement.span) := by
    rw [moves, hall, hchanges]
  obtain ⟨hspans, hwords⟩ := chosen_back hf hall hparallel hmoves hreturns
  have htext := text_eq_iff hparallel hparallel' hspans
    (hwords.imp fun _ _ ⟨_, _, _, h⟩ => ⟨_, _, h⟩)
  refine ⟨u, hu, ⟨fun hsame c hc => ?_, fun hnames => htext.mpr (hwords.imp fun b y => ?_)⟩,
    fun hfa hga c hc => ?_, fun hsame => ⟨s, hsame ▸ hread, rfl⟩⟩
  · obtain ⟨y, -, i, x, hreturn⟩ := exists_of_forall₂ hreturns.flip c hc
    obtain ⟨b, hb, -, hwas⟩ := exists_back_of_returns hmoves hparallel hreturn
    have hboth := List.forall₂_iff_zip.mpr ⟨hwords.length_eq, fun {b y} hby =>
      And.intro (List.forall₂_zip hwords hby) (List.forall₂_zip (htext.mp hsame) hby)⟩
    obtain ⟨y', -, ⟨c', -, q, h⟩, hspelling⟩ := exists_of_forall₂ hboth.flip b hb
    obtain ⟨-, hname⟩ := inQuotes_inj hreturn.quote h.quote (hreturn.isWordChar hf) h.word
      (hwas.symm.trans h.was)
    rw [h.was, h.becomes, inQuotes_cancel] at hspelling
    rw [← hreturn.value, hname, ← hspelling]
  · rintro ⟨c, hc, q, h⟩
    rw [h.was, h.becomes, hnames c hc]
  · obtain ⟨-, hmatch⟩ := List.mem_filter.mp hc
    obtain ⟨i, -, hdotted, hsame⟩ := idents_of_matches hf hmatch
    rw [hdotted]
    exact thereAndBack_eq_iff hf hg hfa hga hsame

/-! ### A name that comes back, and one that does not -/

/-- The words of the calls in a text and in the renamed one, with what has been moved. -/
def wordsMoved (r : Renaming) (sql : String) :
    Option (List (List Ident) × List (Replacement × Span) × String × List (List Ident)) :=
  match (Engine.ofDialect .generic {}).read sql with
  | .ok s =>
    match r.apply sql s with
    | .ok t =>
      match (Engine.ofDialect .generic {}).read t.text with
      | .ok s' => some (s.calls.map fun c => Name.idents c.name, r.moves sql s t, t.text,
          s'.calls.map fun c => Name.idents c.name)
      | .error _ => none
    | .error _ => none
  | .error _ => none

theorem exists_of_wordsMoved {r : Renaming} {sql text : String} {words words' : List (List Ident)}
    {moved : List (Replacement × Span)}
    (h : r.wordsMoved sql = some (words, moved, text, words')) :
    ∃ s t s', (Engine.ofDialect .generic {}).read sql = .ok s ∧ r.apply sql s = .ok t ∧
      t.text = text ∧ (Engine.ofDialect .generic {}).read t.text = .ok s' ∧
      (s.calls.map fun c => Name.idents c.name) = words ∧ r.moves sql s t = moved ∧
        (s'.calls.map fun c => Name.idents c.name) = words' := by
  rw [wordsMoved] at h
  split at h
  next s hs =>
    split at h
    next t ht =>
      split at h
      next s' hs' =>
        cases h
        exact ⟨s, t, s', hs, ht, rfl, hs', rfl, rfl, rfl⟩
      next => cases h
    next => cases h
  next => cases h

theorem isWord_nvl : IsWord "nvl" :=
  ⟨⟨'n', ['v', 'l'], rfl, rfl⟩, List.all_eq_true.mp (by decide)⟩

theorem isWord_coalesce : IsWord "coalesce" :=
  ⟨⟨'c', ['o', 'a', 'l', 'e', 's', 'c', 'e'], rfl, rfl⟩, List.all_eq_true.mp (by decide)⟩

/-- A name in capitals, and a call of another function. -/
theorem apply_back_capitals :
    ∃ s t s' u, (Engine.ofDialect .generic {}).read "SELECT NVL(a), max(b) FROM t" = .ok s ∧
      apply ⟨wordPattern "nvl", "coalesce"⟩ "SELECT NVL(a), max(b) FROM t" s = .ok t ∧
      t.text = "SELECT COALESCE(a), max(b) FROM t" ∧
      (Engine.ofDialect .generic {}).read t.text = .ok s' ∧
      List.Forall₂ (Carried ⟨wordPattern "nvl", "coalesce"⟩ (wordPattern "coalesce")
        "SELECT NVL(a), max(b) FROM t" s t) s.calls s'.calls ∧
      apply ⟨wordPattern "coalesce", "nvl"⟩ t.text s' = .ok u ∧
        u.text = "SELECT NVL(a), max(b) FROM t" := by
  let old : Ident := ⟨"NVL", none, some (⟨1, 8⟩, ⟨1, 11⟩)⟩
  let new : Ident := ⟨"COALESCE", none, some (⟨1, 8⟩, ⟨1, 16⟩)⟩
  have hmoved : wordsMoved ⟨wordPattern "nvl", "coalesce"⟩ "SELECT NVL(a), max(b) FROM t" =
      some ([[old], [⟨"max", none, some (⟨1, 16⟩, ⟨1, 19⟩)⟩]],
        [(⟨⟨7, 10⟩, "COALESCE"⟩, ⟨7, 15⟩)], "SELECT COALESCE(a), max(b) FROM t",
        [[new], [⟨"max", none, some (⟨1, 21⟩, ⟨1, 24⟩)⟩]]) := by decide +kernel
  obtain ⟨s, t, s', hread, ht, htext, hread', hwords, hmoves, hwords'⟩ := exists_of_wordsMoved hmoved
  obtain ⟨c, calls, hcalls, hc, hrest⟩ := List.map_eq_cons_iff.mp hwords
  obtain ⟨d, hcalls', hd⟩ := List.map_eq_singleton_iff.mp hrest
  obtain ⟨c', calls', hcalls₂, hc', hrest'⟩ := List.map_eq_cons_iff.mp hwords'
  obtain ⟨d', hcalls₂', hd'⟩ := List.map_eq_singleton_iff.mp hrest'
  subst hcalls' hcalls₂'
  have hname : Name.dotted c.name = "NVL" := by rw [Name.dotted, hc]; rfl
  have hname' : Name.dotted c'.name = "COALESCE" := by rw [Name.dotted, hc']; rfl
  have hother : Name.dotted d.name = "max" := by rw [Name.dotted, hd]; rfl
  have hother' : Name.dotted d'.name = "max" := by rw [Name.dotted, hd']; rfl
  have hold : Placed "SELECT NVL(a), max(b) FROM t" c ⟨7, 10⟩ [] old :=
    ⟨by rw [hc]; rfl, ⟨old, by rw [hc]; rfl, by decide⟩, by decide, by rintro q ⟨⟩⟩
  have hnew : Placed t.text c' ⟨7, 15⟩ [] new := by
    rw [htext]
    exact ⟨by rw [hc']; rfl, ⟨new, by rw [hc']; rfl, by decide⟩, by decide, by rintro q ⟨⟩⟩
  have hmove : Moved ⟨wordPattern "nvl", "coalesce"⟩ "SELECT NVL(a), max(b) FROM t" s t c c' old new
      ⟨⟨7, 10⟩, "COALESCE"⟩ ⟨7, 15⟩ := by
    refine ⟨hold, hnew, rfl, ?_, ?_⟩
    · have hspelling : inQuotes old.quote (cased "coalesce" ([] ++ spelling old)) = "COALESCE" := by
        decide
      rw [← hspelling]
      exact (replacement_of_placed hold).1 (occursIn_iff.mp (by decide))
    · rw [hmoves]
      exact List.mem_singleton_self _
  have hcarried : List.Forall₂ (Carried ⟨wordPattern "nvl", "coalesce"⟩ (wordPattern "coalesce")
      "SELECT NVL(a), max(b) FROM t" s t) s.calls s'.calls := by
    rw [hcalls, hcalls₂]
    exact .cons (.renamed (by rw [hname]; decide) (by rw [hname']; decide) hmove)
      (.cons (.kept (by rw [hother]; decide) (hother'.trans hother.symm)) .nil)
  have hnone : ∀ c ∈ s.calls, (wordPattern "coalesce").matches (Name.dotted c.name) = false := by
    rw [hcalls, List.forall_mem_cons, List.forall_mem_singleton, hname, hother]
    decide
  obtain ⟨u, hu, hsame, -, -⟩ := apply_back isWord_nvl isWord_coalesce
    (Pattern.read_word isWord_nvl) (Pattern.read_word isWord_coalesce) hread hnone ht hcarried
  refine ⟨s, t, s', u, hread, ht, htext, hread', hcarried, hu, hsame.mpr fun called hmatching => ?_⟩
  obtain ⟨hmem, hmatches⟩ := List.mem_filter.mp hmatching
  rw [hcalls, List.mem_cons, List.mem_singleton] at hmem
  rcases hmem with rfl | rfl
  · rw [hname]
    decide
  · rw [hother] at hmatches
    cases hmatches

/-- A name in mixed case is written as the old name is. -/
theorem mixed_case_lost :
    ∃ s t s' u s₂, (Engine.ofDialect .generic {}).read "SELECT Nvl(a) FROM t" = .ok s ∧
      names s = ["Nvl"] ∧ s.text = "SELECT Nvl(a) FROM t" ∧
      apply ⟨wordPattern "nvl", "coalesce"⟩ "SELECT Nvl(a) FROM t" s = .ok t ∧
      (Engine.ofDialect .generic {}).read t.text = .ok s' ∧
      names s' = ["coalesce"] ∧ s'.text = "SELECT coalesce(a) FROM t" ∧
      apply ⟨wordPattern "coalesce", "nvl"⟩ t.text s' = .ok u ∧
      (Engine.ofDialect .generic {}).read u.text = .ok s₂ ∧
        s₂.text = "SELECT nvl(a) FROM t" := by
  have hrun : ∃ s, (Engine.ofDialect .generic {}).read "SELECT Nvl(a) FROM t" = .ok s ∧
      (names s = ["Nvl"] ∧ s.text = "SELECT Nvl(a) FROM t") ∧
      ∃ t, apply ⟨wordPattern "nvl", "coalesce"⟩ "SELECT Nvl(a) FROM t" s = .ok t ∧
      ∃ s', (Engine.ofDialect .generic {}).read t.text = .ok s' ∧
      (names s' = ["coalesce"] ∧ s'.text = "SELECT coalesce(a) FROM t") ∧
      ∃ u, apply ⟨wordPattern "coalesce", "nvl"⟩ t.text s' = .ok u ∧
      ∃ s₂, (Engine.ofDialect .generic {}).read u.text = .ok s₂ ∧
        s₂.text = "SELECT nvl(a) FROM t" := by
    decide +kernel
  obtain ⟨s, hs, hold, t, ht, s', hs', hnew, u, hu, s₂, hs₂, hback⟩ := hrun
  exact ⟨s, t, s', u, s₂, hs, hold.1, hold.2, ht, hs', hnew.1, hnew.2, hu, hs₂, hback⟩

end Renaming

end EmbeddedSql.Call
