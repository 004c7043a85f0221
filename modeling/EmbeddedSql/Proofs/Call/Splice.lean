import EmbeddedSql.Call.Rename
import EmbeddedSql.Proofs.Outcome
import EmbeddedSql.Proofs.Text.Bytes
import Mathlib

/-! Renaming as an exact splice.

Two texts that share their gaps and differ only in the words between them are `Parallel`, and
this relation has no direction: what leads from the first to the second has the same form as
what leads back. A splice makes such a text of any list of replacements whose spans are parts
of the old one (`splice_parallel`), so it can be undone by a splice (`Parallel.splice_eq`).
`apply_exact` says what that means for the text and the changes that a renaming gives. -/
namespace EmbeddedSql.Call

open Sql Text

/-! ### Texts with the same gaps -/

/-- From the byte `read` on, `old` is left of the first text, and from the byte `written` on,
`new` of the second. `there` lists the words of the first text with the words that stand in
their place, and `back` those of the second. -/
inductive Parallel : (read written : Nat) → (old new : List Char) →
    (there back : List Replacement) → Prop
  | rest (read written : Nat) (gap : List Char) : Parallel read written gap gap [] []
  | swap {read written : Nat} (gap : List Char) (was becomes : String) {old new : List Char}
    {there back : List Replacement} :
    Parallel (read + byteCount gap + byteCount was.toList)
      (written + byteCount gap + byteCount becomes.toList) old new there back →
    Parallel read written (gap ++ was.toList ++ old) (gap ++ becomes.toList ++ new)
      (⟨⟨read + byteCount gap, read + byteCount gap + byteCount was.toList⟩, becomes⟩ :: there)
      (⟨⟨written + byteCount gap, written + byteCount gap + byteCount becomes.toList⟩, was⟩ ::
        back)

/-- The gaps of a text in front of, between and behind the spans. -/
def gaps (read : Nat) (cs : List Char) : List Span → List (List Char)
  | [] => [dropBytes read cs]
  | s :: spans => Span.slice ⟨read, s.start⟩ cs :: gaps s.stop cs spans

/-- A replacement behind `gap` puts its spelling there and goes on behind `part`. -/
theorem splice_swap {read written : Nat} {gap part cs new : List Char} {spelling : String}
    {rs : List Replacement} {changes : List Span}
    (h : splice (read + byteCount gap + byteCount part)
      (written + byteCount gap + byteCount spelling.toList) cs rs = (new, changes)) :
    splice read written (gap ++ part ++ cs)
        (⟨⟨read + byteCount gap, read + byteCount gap + byteCount part⟩, spelling⟩ :: rs) =
      (gap ++ spelling.toList ++ new,
        ⟨written + byteCount gap, written + byteCount gap + byteCount spelling.toList⟩ ::
          changes) := by
  have htake : takeBytes (read + byteCount gap - read) (gap ++ part ++ cs) = gap := by
    rw [Nat.add_sub_cancel_left, List.append_assoc, takeBytes_byteCount]
  have hdrop : dropBytes (read + byteCount gap + byteCount part - read) (gap ++ part ++ cs) =
      cs := by
    rw [Nat.add_assoc, Nat.add_sub_cancel_left, ← byteCount_append, dropBytes_byteCount]
  rw [splice, if_neg (Nat.not_lt.mpr (Nat.le_add_right ..))]
  simp only [htake, hdrop, h]

/-- A spelling, and what becomes of it when each character is written as `f` says. -/
def Replacement.Written (f : Char → List Char) (x y : Replacement) : Prop :=
  y.spelling.toList = x.spelling.toList.flatMap f

/-- A replacement of a word in `old`, and the same one in `old'`, where each character is written
as `f` says. -/
structure Replacement.Respelled (f : Char → List Char) (old old' : List Char)
    (x y : Replacement) : Prop where
  spelling : Written f x y
  slice : y.span.slice old' = (x.span.slice old).flatMap f

namespace Parallel
variable {read written : Nat} {old new : List Char} {there back : List Replacement}

theorem symm (h : Parallel read written old new there back) :
    Parallel written read new old back there := by
  induction h with
  | rest => exact rest ..
  | swap gap was becomes _ ih => exact swap gap becomes was ih

/-- The splice that leads from the first text to the second. -/
theorem splice_eq (h : Parallel read written old new there back) :
    splice read written old there = (new, back.map Replacement.span) := by
  induction h with
  | rest => rfl
  | swap gap was becomes _ ih => exact splice_swap ih

theorem read_le_start (h : Parallel read written old new there back) :
    ∀ r ∈ there, read ≤ r.span.start ∧ r.span.start ≤ r.span.stop := by
  induction h with
  | rest => simp
  | swap gap was becomes _ ih =>
    rw [List.forall_mem_cons]
    refine ⟨by simp, fun r hr => ?_⟩
    have := ih r hr
    omega

/-- The words stand one behind the other. -/
theorem apart (h : Parallel read written old new there back) :
    there.Pairwise fun r s => r.span.stop ≤ s.span.start := by
  induction h with
  | rest => exact .nil
  | swap gap was becomes h ih => exact .cons (fun s hs => (h.read_le_start s hs).1) ih

/-- The words of the first text, of which `front` has been read. -/
theorem parts (h : Parallel read written old new there back) (front : List Char)
    (hf : byteCount front = read) : ∀ r ∈ there, r.span.PartOf (front ++ old) := by
  induction h generalizing front with
  | rest => simp
  | @swap read written gap was becomes old new there back _ ih =>
    subst hf
    rw [List.forall_mem_cons]
    constructor
    · exact ⟨front ++ gap, was.toList, old, by simp, by simp⟩
    · have := ih (front ++ gap ++ was.toList) (by simp [Nat.add_assoc])
      simpa using this

/-- Each word of the first text is what the way back puts there. -/
theorem slices (h : Parallel read written old new there back) (front : List Char)
    (hf : byteCount front = read) :
    there.map (·.span.slice (front ++ old)) = back.map (·.spelling.toList) := by
  induction h generalizing front with
  | rest => rfl
  | @swap read written gap was becomes old new there back _ ih =>
    subst hf
    have hword := slice_part (front ++ gap) was.toList old
    have := ih (front ++ gap ++ was.toList) (by simp [Nat.add_assoc])
    simp only [byteCount_append, List.append_assoc] at hword this
    simp only [List.map_cons, List.append_assoc, hword, this]

/-- Both texts have the same gaps. -/
theorem gaps_eq (h : Parallel read written old new there back) (front first : List Char)
    (hf : byteCount front = read) (hg : byteCount first = written) :
    gaps read (front ++ old) (there.map Replacement.span) =
      gaps written (first ++ new) (back.map Replacement.span) := by
  induction h generalizing front first with
  | rest =>
    subst hf hg
    simp [gaps]
  | @swap read written gap was becomes old new there back _ ih =>
    subst hf hg
    have hold := slice_part front gap (was.toList ++ old)
    have hnew := slice_part first gap (becomes.toList ++ new)
    have := ih (front ++ gap ++ was.toList) (first ++ gap ++ becomes.toList)
      (by simp [Nat.add_assoc]) (by simp [Nat.add_assoc])
    simp only [List.append_assoc] at hold hnew this
    simp only [List.map_cons, gaps, List.append_assoc, hold, hnew, this]

/-- Both texts are as long as their common gaps and their own words. -/
theorem length_add (h : Parallel read written old new there back) :
    there.length = back.length ∧
      new.length + (back.map (·.spelling.toList.length)).sum =
        old.length + (there.map (·.spelling.toList.length)).sum := by
  induction h with
  | rest => exact ⟨rfl, rfl⟩
  | swap gap was becomes _ ih =>
    obtain ⟨hcount, hlength⟩ := ih
    refine ⟨congrArg (· + 1) hcount, ?_⟩
    simp only [List.length_append, List.map_cons, List.sum_cons]
    omega

/-! ### Texts around such texts -/

/-- The same text may stand in front of both. -/
theorem append_left (front : List Char)
    (h : Parallel (read + byteCount front) (written + byteCount front) old new there back) :
    Parallel read written (front ++ old) (front ++ new) there back := by
  generalize hr : read + byteCount front = read', hw : written + byteCount front = written' at h
  cases h with
  | rest gap => exact rest ..
  | swap gap was becomes h =>
    subst hr hw
    have hfront : ∀ n, n + byteCount front + byteCount gap = n + byteCount (front ++ gap) := by
      simp [Nat.add_assoc]
    simp only [hfront, ← List.append_assoc] at h ⊢
    exact swap (front ++ gap) was becomes h

/-- The same text may stand behind both. -/
theorem append_right (h : Parallel read written old new there back) (tail : List Char) :
    Parallel read written (old ++ tail) (new ++ tail) there back := by
  induction h with
  | rest => exact rest ..
  | swap gap was becomes _ ih =>
    rw [List.append_assoc _ _ tail, List.append_assoc _ _ tail]
    exact swap gap was becomes ih

/-- Both end in the same character, if no word does. -/
theorem dropLast {c : Char} (h : Parallel read written (old ++ [c]) new there back)
    (hwords : ∀ b ∈ back, ∃ d, b.spelling.toList.getLast? = some d ∧ d ≠ c) :
    ∃ front, new = front ++ [c] ∧ Parallel read written old front there back := by
  generalize hwhole : old ++ [c] = whole at h
  induction h generalizing old with
  | rest read written gap => exact ⟨old, hwhole.symm, rest ..⟩
  | @swap read written gap was becomes behind new there back _ ih =>
    rw [List.forall_mem_cons] at hwords
    obtain ⟨⟨d, hd, hne⟩, hwords⟩ := hwords
    rcases List.eq_nil_or_concat' behind with rfl | ⟨rest, e, rfl⟩
    · have hlast : some c = some d := by
        calc some c = (old ++ [c]).getLast? := by simp
          _ = was.toList.getLast? := by rw [hwhole]; simp [List.getLast?_append, hd]
          _ = some d := hd
      exact absurd (Option.some.inj hlast).symm hne
    · rw [← List.append_assoc] at hwhole
      obtain ⟨rfl, he⟩ := List.append_inj' hwhole rfl
      obtain rfl := (List.cons.inj he).1
      obtain ⟨front, rfl, hfront⟩ := ih hwords rfl
      exact ⟨gap ++ becomes.toList ++ front, by simp, swap gap was becomes hfront⟩

/-- Both may write each character in the same other way. -/
theorem flatMap (h : Parallel read written old new there back) (f : Char → List Char)
    (read' written' : Nat) :
    ∃ there' back', Parallel read' written' (old.flatMap f) (new.flatMap f) there' back' ∧
      List.Forall₂ (Replacement.Written f) there there' ∧
      List.Forall₂ (Replacement.Written f) back back' := by
  induction h generalizing read' written' with
  | rest => exact ⟨[], [], rest .., .nil, .nil⟩
  | swap gap was becomes _ ih =>
    let spelled (s : String) := String.ofList (s.toList.flatMap f)
    have hspelled (s : String) : (spelled s).toList = s.toList.flatMap f := String.toList_ofList
    obtain ⟨there', back', h', hthere, hback⟩ := ih
      (read' + byteCount (gap.flatMap f) + byteCount (spelled was).toList)
      (written' + byteCount (gap.flatMap f) + byteCount (spelled becomes).toList)
    have hswap := swap (gap.flatMap f) (spelled was) (spelled becomes) h'
    rw [hspelled, hspelled, ← List.flatMap_append, ← List.flatMap_append, ← List.flatMap_append,
      ← List.flatMap_append] at hswap
    exact ⟨_, _, hswap, .cons (hspelled becomes) hthere, .cons (hspelled was) hback⟩

/-- The words are the same in both, then. -/
theorem respelled {old' new' : List Char} {there' back' : List Replacement}
    {f : Char → List Char} (h : Parallel 0 0 old new there back)
    (h' : Parallel 0 0 old' new' there' back')
    (hthere : List.Forall₂ (Replacement.Written f) there there')
    (hback : List.Forall₂ (Replacement.Written f) back back') :
    List.Forall₂ (Replacement.Respelled f old old') there there' := by
  have hwas := h.slices [] rfl
  have hwas' := h'.slices [] rfl
  clear h h'
  rw [List.nil_append] at hwas hwas'
  induction hthere generalizing back back' with
  | nil => exact .nil
  | cons hxy _ ih =>
    cases hback with
    | nil => cases hwas
    | cons hb hback =>
      rw [List.map_cons, List.map_cons, List.cons_eq_cons] at hwas hwas'
      refine .cons ⟨hxy, ?_⟩ (ih hback hwas.2 hwas'.2)
      rw [hwas'.1, hwas.1]
      exact hb

end Parallel

/-! ### Which replacements are made -/

/-- The replacements that a splice makes when it has read up to the byte `read`. -/
def made (read : Nat) : List Replacement → List Replacement
  | [] => []
  | r :: rs => if r.span.start < read then made read rs else r :: made r.span.stop rs

theorem made_sublist (read : Nat) (rs : List Replacement) : (made read rs).Sublist rs := by
  induction rs generalizing read with
  | nil => exact .slnil
  | cons r rs ih =>
    rw [made]
    split
    · exact (ih read).cons r
    · exact (ih r.span.stop).cons_cons r

/-- The replacements that are made of all that have been found. -/
def chosen (all : List Replacement) : List Replacement :=
  made 0 (all.mergeSort fun a b => a.span.before b.span)

/-- In a list in ascending order, what is left out starts inside something made before it. -/
theorem exists_made_of_not_mem {rs : List Replacement} {read : Nat}
    (hs : rs.Pairwise fun a b => a.span.before b.span) :
    ∀ x ∈ rs, x ∉ made read rs → x.span.start < read ∨
      ∃ k ∈ made read rs, k.span.before x.span = true ∧ x.span.start < k.span.stop := by
  induction rs generalizing read with
  | nil => simp
  | cons r rs ih =>
    rw [List.pairwise_cons] at hs
    intro x hx hleft
    rw [made] at hleft ⊢
    split at hleft <;> rename_i hr
    · rcases List.mem_cons.mp hx with rfl | hx
      · exact .inl hr
      · rw [if_pos hr]
        exact ih hs.2 x hx hleft
    · rw [List.mem_cons, not_or] at hleft
      have hx := (List.mem_cons.mp hx).resolve_left hleft.1
      rw [if_neg hr]
      rcases ih hs.2 x hx hleft.2 with hlt | ⟨k, hk, hkx⟩
      · exact .inr ⟨r, List.mem_cons_self .., hs.1 x hx, hlt⟩
      · exact .inr ⟨k, List.mem_cons_of_mem _ hk, hkx⟩

/-- **A splice makes a text with the same gaps**, if all spans are parts of the old one, of
which `front` has been read. -/
theorem splice_parallel {rs : List Replacement} (front : List Char) {cs : List Char}
    (written : Nat) (hparts : ∀ r ∈ rs, r.span.PartOf (front ++ cs)) :
    ∃ new back, splice (byteCount front) written cs rs = (new, back.map Replacement.span) ∧
      Parallel (byteCount front) written cs new (made (byteCount front) rs) back := by
  induction rs generalizing front cs written with
  | nil => exact ⟨cs, [], rfl, .rest ..⟩
  | cons r rs ih =>
    rw [List.forall_mem_cons] at hparts
    obtain ⟨⟨before, part, after, htext, hspan⟩, hrest⟩ := hparts
    by_cases hr : r.span.start < byteCount front
    · rw [splice, made, if_pos hr, if_pos hr]
      exact ih front written hrest
    · obtain ⟨span, spelling⟩ := r
      obtain rfl : span = ⟨byteCount before, byteCount before + byteCount part⟩ := hspan
      rw [List.append_assoc] at htext
      obtain ⟨was, rfl⟩ : ∃ was : String, part = was.toList :=
        ⟨String.ofList part, String.toList_ofList.symm⟩
      obtain ⟨gap, rfl, rfl⟩ := exists_gap_of_byteCount_le htext (Nat.le_of_not_lt hr)
      obtain ⟨new, back, hsplice, hback⟩ := ih (front ++ gap ++ was.toList)
        (written + byteCount gap + byteCount spelling.toList) (by simpa using hrest)
      rw [made, if_neg hr, ← List.append_assoc]
      simp only [byteCount_append] at hsplice hback ⊢
      exact ⟨_, _, splice_swap hsplice, .swap gap was spelling hback⟩

/-! ### Renaming -/

/-- The replacement for a call: it stands where the words of the name stand, and is the new name
in the case of the old one and between the quotes of its last word. -/
def Renames (r : Renaming) (sql : String) (c : Sql.Call) (x : Replacement) : Prop :=
  ∃ first last, (Name.idents c.name).head? = some first ∧
    (Name.idents c.name).getLast? = some last ∧ spanOf? sql first last = some x.span ∧
    x.spelling = inQuotes last.quote (cased r.newName (x.span.slice sql.toList))

/-- The replacements that are kept of all that have been found: none of them overlap, and
what is left out starts inside one that comes before it. -/
structure Kept (all kept : List Replacement) : Prop where
  chosen : kept.Sublist (all.mergeSort fun a b => a.span.before b.span)
  apart : kept.Pairwise fun a b => a.span.stop ≤ b.span.start
  skipped : ∀ x ∈ all, x ∉ kept →
    ∃ k ∈ kept, k.span.before x.span = true ∧ x.span.start < k.span.stop

/-- A text in which just the words at the spans of `kept` have been replaced. -/
structure ExactSplice (old : String) (kept : List Replacement) (t : Renamed) : Prop where
  ordered : t.changes.Pairwise fun c d => c.stop ≤ d.start
  inside : ∀ c ∈ t.changes, c.start ≤ c.stop ∧ (⟨c.start⟩ : String.Pos.Raw).IsValid t.text ∧
    (⟨c.stop⟩ : String.Pos.Raw).IsValid t.text
  spelled : t.changes.map (·.slice t.text.toList) = kept.map (·.spelling.toList)
  untouched : gaps 0 t.text.toList t.changes = gaps 0 old.toList (kept.map Replacement.span)
  /-- Putting the old words at the changes gives the old text and changes the old spans. -/
  undone : splice 0 0 t.text.toList (List.zipWith
      (fun c r => ⟨c, String.ofList (r.span.slice old.toList)⟩) t.changes kept) =
    (old.toList, kept.map Replacement.span)

theorem Parallel.exactSplice {old : String} {t : Renamed} {there back : List Replacement}
    (h : Parallel 0 0 old.toList t.text.toList there back)
    (hchanges : t.changes = back.map Replacement.span) : ExactSplice old there t where
  ordered := by
    rw [hchanges]
    exact List.pairwise_map.mpr h.symm.apart
  inside := by
    intro c hc
    rw [hchanges] at hc
    obtain ⟨b, hb, rfl⟩ := List.mem_map.mp hc
    simpa only [List.nil_append, String.ofList_toList] using (h.symm.parts [] rfl b hb).isValid
  spelled := by
    rw [hchanges, List.map_map]
    exact h.symm.slices [] rfl
  untouched := by
    rw [hchanges]
    exact (h.gaps_eq [] [] rfl rfl).symm
  undone := by
    have hwords : there.map (fun r => r.span.slice old.toList) = back.map (·.spelling.toList) :=
      h.slices [] rfl
    have hback : List.zipWith
        (fun c r => (⟨c, String.ofList (r.span.slice old.toList)⟩ : Replacement))
        (back.map Replacement.span) there = back := by
      rw [← List.zipWith_map_right (g := fun c w => (⟨c, String.ofList w⟩ : Replacement))
        (f := fun r : Replacement => r.span.slice old.toList), hwords, List.zipWith_map]
      simp
    rw [hchanges, hback]
    exact h.symm.splice_eq

/-- Words that have a place stand at a part of the text that is not empty. -/
theorem spanOf?_part {sql : String} {first last : Ident} {s : Span}
    (h : spanOf? sql first last = some s) : s.PartOf sql.toList ∧ s.start < s.stop := by
  rw [spanOf?] at h
  split at h
  · exact resolve?_part h
  · cases h

theorem before_trans {a b c : Span} (hab : a.before b = true) (hbc : b.before c = true) :
    a.before c = true := by
  simp only [Span.before, Bool.or_eq_true, Bool.and_eq_true, decide_eq_true_eq, beq_iff_eq] at *
  omega

theorem before_total (a b : Span) : (a.before b || b.before a) = true := by
  simp only [Span.before, Bool.or_eq_true, Bool.and_eq_true, decide_eq_true_eq, beq_iff_eq]
  omega

theorem le_start_of_before {a b : Span} (h : a.before b = true) : a.start ≤ b.start := by
  simp only [Span.before, Bool.or_eq_true, Bool.and_eq_true, decide_eq_true_eq, beq_iff_eq] at h
  omega

theorem pairwise_mergeSort_before (rs : List Replacement) :
    (rs.mergeSort fun a b => a.span.before b.span).Pairwise
      fun a b => a.span.before b.span = true := by
  let before (a b : Replacement) : Bool := a.span.before b.span
  have htrans : ∀ a b c, before a b → before b c → before a c := fun _ _ _ => before_trans
  have htotal : ∀ a b, before a b || before b a := fun a b => before_total a.span b.span
  exact List.pairwise_mergeSort htrans htotal rs

namespace Renaming

/-- The calls that a renaming changes, in the order of the walk. -/
def matching (r : Renaming) (s : Statement) : List Sql.Call :=
  s.calls.filter fun c => r.pattern.matches (Name.dotted c.name)

theorem renames_of_replacement {r : Renaming} {sql : String} {c : Sql.Call} {x : Replacement}
    (h : r.replacement sql c = .ok x) : Renames r sql c x := by
  simp only [replacement] at h
  split at h
  · next first last hfirst hlast =>
    split at h
    · cases h
    · next span hspan =>
      split at h
      · cases h
        exact ⟨first, last, hfirst, hlast, hspan, rfl⟩
      · cases h
  · cases h

theorem part_of_renames {r : Renaming} {sql : String} {c : Sql.Call} {x : Replacement}
    (h : Renames r sql c x) : x.span.PartOf sql.toList ∧ x.span.start < x.span.stop := by
  obtain ⟨first, last, -, -, hspan, -⟩ := h
  exact spanOf?_part hspan

theorem parts_of_forall₂ {r : Renaming} {sql : String} {calls : List Sql.Call}
    {all : List Replacement} (h : List.Forall₂ (Renames r sql) calls all) :
    ∀ x ∈ all, x.span.PartOf sql.toList ∧ x.span.start < x.span.stop := by
  intro x hx
  obtain ⟨c, -, hc⟩ := exists_of_forall₂ h x hx
  exact part_of_renames hc

/-- The replacements for the calls of a statement are found, those that are chosen are made, and the
text has the same gaps. -/
theorem exists_chosen_of_apply {r : Renaming} {sql : String} {s : Statement} {t : Renamed}
    (h : r.apply sql s = .ok t) :
    ∃ all back, (r.matching s).mapM (r.replacement sql) = .ok all ∧ Kept all (chosen all) ∧
      Parallel 0 0 sql.toList t.text.toList (chosen all) back ∧
        t.changes = back.map Replacement.span := by
  obtain ⟨all, hall, h⟩ := exists_of_bind_eq_ok h
  have hrenames : List.Forall₂ (Renames r sql) (r.matching s) all :=
    (forall₂_of_mapM hall).imp fun _ _ => renames_of_replacement
  let before (a b : Replacement) : Bool := a.span.before b.span
  let sorted := all.mergeSort before
  have hsorted : sorted.Pairwise fun a b => before a b = true := pairwise_mergeSort_before all
  have hparts : ∀ x ∈ sorted, x.span.PartOf ([] ++ sql.toList) :=
    fun x hx => (parts_of_forall₂ hrenames x (List.mem_mergeSort.mp hx)).1
  obtain ⟨new, back, hsplice, hback⟩ := splice_parallel [] 0 hparts
  rw [byteCount_nil] at hsplice hback
  simp only [sorted, before, hsplice, pure, Except.pure, Except.ok.injEq] at h
  subst h
  refine ⟨all, back, hall, ⟨made_sublist 0 sorted, hback.apart, ?_⟩, ?_, rfl⟩
  · intro x hx hleft
    have := exists_made_of_not_mem hsorted x (List.mem_mergeSort.mpr hx) hleft
    exact this.resolve_left (Nat.not_lt_zero _)
  · rwa [String.toList_ofList]

/-- A renaming makes a text with the same gaps. The names of the calls that match are replaced, but
for those that overlap others. -/
theorem exists_parallel_of_apply {r : Renaming} {sql : String} {s : Statement} {t : Renamed}
    (h : r.apply sql s = .ok t) :
    ∃ all kept back, List.Forall₂ (Renames r sql) (r.matching s) all ∧ Kept all kept ∧
      Parallel 0 0 sql.toList t.text.toList kept back ∧ t.changes = back.map Replacement.span := by
  obtain ⟨all, back, hall, hkept, hparallel, hchanges⟩ := exists_chosen_of_apply h
  exact ⟨all, chosen all, back, (forall₂_of_mapM hall).imp fun _ _ => renames_of_replacement, hkept,
    hparallel, hchanges⟩

/-- **Renaming is an exact splice that can be undone.** The calls that match are found in the
order of the walk; of those that overlap the later ones are left out; and nothing but the words
of the kept names changes. -/
theorem apply_exact {r : Renaming} {sql : String} {s : Statement} {t : Renamed}
    (h : r.apply sql s = .ok t) :
    ∃ all kept, List.Forall₂ (Renames r sql) (r.matching s) all ∧ Kept all kept ∧
      ExactSplice sql kept t := by
  obtain ⟨all, kept, back, hrenames, hkept, hparallel, hchanges⟩ := exists_parallel_of_apply h
  exact ⟨all, kept, hrenames, hkept, hparallel.exactSplice hchanges⟩

/-- A call inside a call, both behind a letter of two bytes. -/
theorem apply_exact_nested :
    ∃ (r : Renaming) (s : Statement) (t : Renamed),
      r.apply "CALL 'é', nvl(nvl())" s = .ok t ∧ t.text = "CALL 'é', coalesce(coalesce())" ∧
        t.changes = [⟨11, 19⟩, ⟨20, 28⟩] ∧
        ∃ all kept, List.Forall₂ (Renames r "CALL 'é', nvl(nvl())") (r.matching s) all ∧
          Kept all kept ∧ ExactSplice "CALL 'é', nvl(nvl())" kept t := by
  let inner : Sql.Call :=
    ⟨[.ident ⟨"nvl", none, some (⟨1, 15⟩, ⟨1, 18⟩)⟩], [], [], [], [], "", [], false⟩
  let outer : Sql.Call :=
    ⟨[.ident ⟨"nvl", none, some (⟨1, 11⟩, ⟨1, 14⟩)⟩], [], [.expr (.call inner)], [], [], "", [],
      false⟩
  let r : Renaming := ⟨⟨"nvl", [.char 'n', .char 'v', .char 'l']⟩, "coalesce"⟩
  have h : r.apply "CALL 'é', nvl(nvl())" (.other [.expr (.call outer)]) =
      .ok ⟨"CALL 'é', coalesce(coalesce())", [⟨11, 19⟩, ⟨20, 28⟩]⟩ := by cbv
  exact ⟨r, _, _, h, rfl, rfl, apply_exact h⟩

end Renaming

end EmbeddedSql.Call
