import EmbeddedSql.Call.Pattern
import EmbeddedSql.Proofs.Outcome
import EmbeddedSql.Proofs.Text.Casing
import Mathlib.Data.List.Forall2

/-! Laws of patterns that are the same but for case.

Such patterns are divided into parts in the same way (`dividedAlike_of_recased`). The shortest texts
that a pattern matches have one character for each of its parts that stands for a single one, and
there the characters can be chosen apart from each other. So two patterns match the same texts if
and only if their parts take the same characters, one by one, or if they match no text at all. -/
namespace EmbeddedSql.Call

open Text

/-! ### Parts with a single character -/

def PatternPart.isSingle : PatternPart → Bool
  | .run | .components => false
  | _ => true

/-- What a part takes from a text if it stands for one character. -/
def PatternPart.Takes (part : PatternPart) (c : Char) : Prop := part.matchesChar c = true

/-- The parts that stand for one character each. -/
def singles (parts : List PatternPart) : List PatternPart := parts.filter PatternPart.isSingle

@[simp] theorem singles_nil : singles [] = [] := rfl

@[simp] theorem singles_run (parts : List PatternPart) :
    singles (.run :: parts) = singles parts := rfl

@[simp] theorem singles_components (parts : List PatternPart) :
    singles (.components :: parts) = singles parts := rfl

theorem singles_cons {part : PatternPart} (h : part.isSingle = true) (parts : List PatternPart) :
    singles (part :: parts) = part :: singles parts := List.filter_cons_of_pos h

theorem matchParts_single {part : PatternPart} (h : part.isSingle = true)
    (parts : List PatternPart) {cs : List Char} :
    matchParts (part :: parts) cs = true ↔
      ∃ c rest, cs = c :: rest ∧ part.Takes c ∧ matchParts parts rest = true := by
  cases part <;> simp_all [PatternPart.isSingle, PatternPart.Takes] <;> cases cs <;>
    simp [matchParts]

theorem exists_of_anySuffix {p : List Char → Bool} {cs : List Char} (h : anySuffix p cs = true) :
    ∃ rest, rest <:+ cs ∧ p rest = true := by
  induction cs with
  | nil => exact ⟨[], List.suffix_rfl, h⟩
  | cons c cs ih =>
    rcases Bool.or_eq_true_iff.mp h with hp | hrest
    · exact ⟨_, List.suffix_rfl, hp⟩
    · obtain ⟨rest, hsuffix, hp⟩ := ih hrest
      exact ⟨rest, hsuffix.trans (List.suffix_cons c cs), hp⟩

theorem anySuffix_of_self {p : List Char → Bool} {cs : List Char} (h : p cs = true) :
    anySuffix p cs = true := by
  cases cs <;> simp [anySuffix, h]

theorem exists_of_anyComponent {p : List Char → Bool} {cs : List Char}
    (h : anyComponent p cs = true) : ∃ rest, rest <:+ cs ∧ p rest = true := by
  induction cs with
  | nil => exact ⟨[], List.suffix_rfl, h⟩
  | cons c cs ih =>
    rcases Bool.or_eq_true_iff.mp h with hp | hrest
    · exact ⟨cs, List.suffix_cons c cs, (Bool.and_eq_true_iff.mp hp).2⟩
    · obtain ⟨rest, hsuffix, hp⟩ := ih hrest
      exact ⟨rest, hsuffix.trans (List.suffix_cons c cs), hp⟩

/-- Stars may stand for nothing, and whatever they stand for, the other parts match the rest. -/
theorem matchParts_star {star : PatternPart} (h : star.isSingle = false)
    {parts : List PatternPart} {cs : List Char} :
    (matchParts parts cs = true → matchParts (star :: parts) cs = true) ∧
      (matchParts (star :: parts) cs = true →
        ∃ rest, rest <:+ cs ∧ matchParts parts rest = true) := by
  cases star with
  | run => exact ⟨anySuffix_of_self, exists_of_anySuffix⟩
  | components =>
    simp only [matchParts, Bool.or_eq_true]
    exact ⟨.inl, fun h => h.elim (⟨cs, List.suffix_rfl, ·⟩) exists_of_anyComponent⟩
  | _ => cases h

/-! ### The shortest texts -/

/-- A text that is matched has a character for every part that stands for one. -/
theorem exists_sublist_of_matchParts {parts : List PatternPart} {cs : List Char}
    (h : matchParts parts cs = true) :
    ∃ ds, ds.Sublist cs ∧ List.Forall₂ PatternPart.Takes (singles parts) ds := by
  induction parts generalizing cs with
  | nil => exact ⟨[], List.nil_sublist cs, .nil⟩
  | cons part parts ih =>
    cases hpart : part.isSingle with
    | true =>
      obtain ⟨c, rest, rfl, hc, hrest⟩ := (matchParts_single hpart parts).mp h
      obtain ⟨ds, hsub, hds⟩ := ih hrest
      exact ⟨c :: ds, hsub.cons_cons c, by rw [singles_cons hpart]; exact .cons hc hds⟩
    | false =>
      obtain ⟨rest, hsuffix, hrest⟩ := (matchParts_star hpart).2 h
      obtain ⟨ds, hsub, hds⟩ := ih hrest
      refine ⟨ds, hsub.trans hsuffix.sublist, ?_⟩
      rwa [singles, List.filter_cons_of_neg (by simp [hpart])]

/-- Characters for these parts are a text that is matched: the stars stand for nothing. -/
theorem matchParts_of_forall₂ {parts : List PatternPart} {cs : List Char}
    (h : List.Forall₂ PatternPart.Takes (singles parts) cs) : matchParts parts cs = true := by
  induction parts generalizing cs with
  | nil =>
    cases h
    rfl
  | cons part parts ih =>
    cases hpart : part.isSingle with
    | true =>
      rw [singles_cons hpart] at h
      cases h with
      | cons hc hrest => exact (matchParts_single hpart parts).mpr ⟨_, _, rfl, hc, ih hrest⟩
    | false =>
      rw [singles, List.filter_cons_of_neg (by simp [hpart])] at h
      exact (matchParts_star hpart).1 (ih h)

/-- At this length nothing is left for the stars. -/
theorem matchParts_iff_of_length {parts : List PatternPart} {cs : List Char}
    (h : (singles parts).length = cs.length) :
    matchParts parts cs = true ↔ List.Forall₂ PatternPart.Takes (singles parts) cs := by
  refine ⟨fun hmatch => ?_, matchParts_of_forall₂⟩
  obtain ⟨ds, hsub, hds⟩ := exists_sublist_of_matchParts hmatch
  rwa [← hsub.eq_of_length (hds.length_eq.symm.trans h)]

/-! ### Choosing the characters -/

/-- Single parts that take the same characters, and the same stars otherwise. -/
inductive PatternPart.Agrees : PatternPart → PatternPart → Prop
  | run : Agrees .run .run
  | components : Agrees .components .components
  | single {x y} : x.isSingle = true → y.isSingle = true → (∀ c, x.Takes c ↔ y.Takes c) →
      Agrees x y

/-- Patterns whose parts agree match the same texts. -/
theorem matchParts_congr {ps qs : List PatternPart}
    (h : List.Forall₂ PatternPart.Agrees ps qs) : matchParts ps = matchParts qs := by
  induction h with
  | nil => rfl
  | cons hpart _ ih =>
    funext cs
    cases hpart with
    | run => simp only [matchParts, ih]
    | components => simp only [matchParts, ih]
    | single hx hy htakes =>
      rw [Bool.eq_iff_iff, matchParts_single hx, matchParts_single hy]
      simp only [htakes, ih]

/-- If two lists of parts take the same texts, and one at all, each part takes the same
characters as the other: they can be put into that text one at a time. -/
theorem takes_of_forall₂ {xs ys : List PatternPart} {ds : List Char}
    (hx : List.Forall₂ PatternPart.Takes xs ds) (hy : List.Forall₂ PatternPart.Takes ys ds)
    (h : ∀ cs, List.Forall₂ PatternPart.Takes xs cs ↔ List.Forall₂ PatternPart.Takes ys cs) :
    List.Forall₂ (fun x y => ∀ c, x.Takes c ↔ y.Takes c) xs ys := by
  induction hx generalizing ys with
  | nil =>
    cases hy
    exact .nil
  | @cons x d xs ds hd hds ih =>
    cases hy with
    | @cons y _ ys _ hd' hds' =>
      refine .cons (fun c => ?_) (ih hds' fun cs => ?_)
      · simpa [hds, hds'] using h (c :: ds)
      · simpa [hd, hd'] using h (d :: cs)

theorem forall₂_of_matchParts {ps qs : List PatternPart} {cs : List Char}
    (hcs : matchParts ps cs = true) (h : matchParts ps = matchParts qs) :
    List.Forall₂ (fun x y => ∀ c, x.Takes c ↔ y.Takes c) (singles ps) (singles qs) := by
  obtain ⟨ds, -, hds⟩ := exists_sublist_of_matchParts hcs
  obtain ⟨es, -, hes⟩ := exists_sublist_of_matchParts (h ▸ hcs)
  -- Neither shortest text is shorter than the other.
  obtain ⟨ds', hdsub, hds'⟩ := exists_sublist_of_matchParts (h ▸ matchParts_of_forall₂ hds)
  obtain ⟨es', hesub, hes'⟩ := exists_sublist_of_matchParts (h.symm ▸ matchParts_of_forall₂ hes)
  have hlen : (singles ps).length = (singles qs).length := by
    have := hdsub.length_le
    have := hesub.length_le
    rw [← hds.length_eq, ← hds'.length_eq] at *
    rw [← hes.length_eq, ← hes'.length_eq] at *
    omega
  have hsame : ∀ cs, List.Forall₂ PatternPart.Takes (singles ps) cs ↔
      List.Forall₂ PatternPart.Takes (singles qs) cs := by
    intro cs
    by_cases hcs : (singles ps).length = cs.length
    · rw [← matchParts_iff_of_length hcs, ← matchParts_iff_of_length (hlen ▸ hcs), h]
    · exact ⟨fun hps => absurd hps.length_eq hcs, fun hqs => absurd (hlen.trans hqs.length_eq) hcs⟩
  exact takes_of_forall₂ hds ((hsame ds).mp hds) hsame

/-! ### Patterns that differ in case -/

/-- The parts of two patterns that differ in case: a part with a single character stands against
another one, but `İ` may stand against two characters. -/
inductive Aligned : List PatternPart → List PatternPart → Prop
  | nil : Aligned [] []
  | run {ps qs} : Aligned ps qs → Aligned (.run :: ps) (.run :: qs)
  | components {ps qs} : Aligned ps qs → Aligned (.components :: ps) (.components :: qs)
  | single {x y ps qs} : x.isSingle = true → y.isSingle = true →
      Aligned ps qs → Aligned (x :: ps) (y :: qs)
  | split {d e ps qs} : d ≠ 'İ' →
      Aligned ps qs → Aligned (.char 'İ' :: ps) (.char d :: .char e :: qs)
  | merge {d e ps qs} : d ≠ 'İ' →
      Aligned ps qs → Aligned (.char d :: .char e :: ps) (.char 'İ' :: qs)

/-- No other character matches `İ`. -/
theorem sameChar_dotted {d : Char} (h : sameChar d 'İ' = true) : d = 'İ' := by
  simpa [sameChar, isAscii] using h

theorem sameChar_self (c : Char) : sameChar c c = true := by
  simp [sameChar]

theorem agrees_of_aligned {ps qs : List PatternPart} (h : Aligned ps qs)
    (hsingles : List.Forall₂ (fun x y => ∀ c, x.Takes c ↔ y.Takes c) (singles ps) (singles qs)) :
    List.Forall₂ PatternPart.Agrees ps qs := by
  induction h with
  | nil => exact .nil
  | run _ ih => exact .cons .run (ih hsingles)
  | components _ ih => exact .cons .components (ih hsingles)
  | single hx hy _ ih =>
    rw [singles_cons hx, singles_cons hy] at hsingles
    cases hsingles with
    | cons htakes hrest => exact .cons (.single hx hy htakes) (ih hrest)
  | @split d _ _ _ hne _ _ =>
    cases hsingles with
    | cons htakes _ => exact absurd (sameChar_dotted ((htakes d).mpr (sameChar_self d))) hne
  | @merge d _ _ _ hne _ _ =>
    cases hsingles with
    | cons htakes _ => exact absurd (sameChar_dotted ((htakes d).mp (sameChar_self d))) hne

/-! ### Reading patterns that differ in case -/

theorem OpenClass.isSingle_part (o : OpenClass) : o.part.isSingle = true := by
  unfold OpenClass.part
  cases o.negated <;> rfl

/-- Two classes that are read side by side: an exclamation mark and a bracket mean the same in
both. -/
structure OpenClass.Beside (place place' : Nat) (o o' : OpenClass) : Prop where
  negated : o.negated = o'.negated
  read : o.read = [] ↔ o'.read = []
  start : o.read = [] → o.negated = false → place = o.start + 1
  start' : o'.read = [] → o'.negated = false → place' = o'.start + 1

/-- Behind a first member neither an exclamation mark nor a bracket means anything else. -/
theorem OpenClass.beside_of_read {start start' : Nat} {negated negated' : Bool} {c d : Char}
    {cs ds : List Char} (h : negated = negated') (place place' : Nat) :
    OpenClass.Beside place place' ⟨start, negated, c :: cs⟩ ⟨start', negated', d :: ds⟩ where
  negated := h
  read := by simp
  start := by simp
  start' := by simp

theorem OpenClass.Beside.symm {place place' : Nat} {o o' : OpenClass}
    (h : o.Beside place place' o') : o'.Beside place' place o :=
  ⟨h.negated.symm, h.read.symm, h.start', h.start⟩

theorem OpenClass.Beside.isEmpty {place place' : Nat} {o o' : OpenClass}
    (h : o.Beside place place' o') : o.read.isEmpty = o'.read.isEmpty := by
  rw [Bool.eq_iff_iff, List.isEmpty_iff, List.isEmpty_iff, h.read]

/-- The exclamation mark that negates a class stands at the same place in both. -/
theorem OpenClass.Beside.negates {place place' : Nat} {o o' : OpenClass}
    (h : o.Beside place place' o') (c : Char) :
    (c = '!' && o.read.isEmpty && !o.negated && place = o.start + 1) =
      (c = '!' && o'.read.isEmpty && !o'.negated && place' = o'.start + 1) := by
  rw [← h.isEmpty, ← h.negated]
  cases hread : o.read.isEmpty with
  | false => simp
  | true =>
    have hempty : o.read = [] := List.isEmpty_iff.mp hread
    cases hneg : o.negated with
    | true => simp
    | false => simp [h.start hempty hneg, h.start' (h.read.mp hempty) (h.negated ▸ hneg)]

theorem OpenClass.Beside.negate {place place' next next' : Nat} {o o' : OpenClass}
    (h : o.Beside place place' o') :
    OpenClass.Beside next next' {o with negated := true} {o' with negated := true} where
  negated := rfl
  read := h.read
  start := by simp
  start' := by simp

/-- Inside a class a character ends it, negates it or is a member. -/
theorem partsFrom_inside (place : Nat) (before : Option Char) (o : OpenClass) (c : Char)
    (cs : List Char) :
    partsFrom place before (some o) (c :: cs) =
      if c = ']' && !o.read.isEmpty then (partsFrom (place + 1) (some c) none cs).map (o.part :: ·)
      else if c = '!' && o.read.isEmpty && !o.negated && place = o.start + 1 then
        partsFrom (place + 1) (some c) (some {o with negated := true}) cs
      else partsFrom (place + 1) (some c) (some {o with read := c :: o.read}) cs := rfl

theorem partsFrom_member {c : Char} (hc : caseless c = false) (place : Nat) (before : Option Char)
    (o : OpenClass) (cs : List Char) :
    partsFrom place before (some o) (c :: cs) =
      partsFrom (place + 1) (some c) (some {o with read := c :: o.read}) cs := by
  have hclose : c ≠ ']' := fun h => by simp [h, caseless] at hc
  have hnot : c ≠ '!' := fun h => by simp [h, caseless] at hc
  simp [partsFrom_inside, hclose, hnot]

theorem partsFrom_char {c : Char} (hopen : c ≠ '[') (hone : c ≠ '?') (hstar : c ≠ '*')
    (place : Nat) (before : Option Char) (cs : List Char) :
    partsFrom place before none (c :: cs) =
      (partsFrom (place + 1) (some c) none cs).map (.char c :: ·) := by
  rw [partsFrom.eq_def]
  simp only
  split <;> simp_all

theorem partsFrom_letter {c : Char} (hc : caseless c = false) (place : Nat)
    (before : Option Char) (cs : List Char) :
    partsFrom place before none (c :: cs) =
      (partsFrom (place + 1) (some c) none cs).map (.char c :: ·) := by
  refine partsFrom_char ?_ ?_ ?_ place before cs <;> rintro rfl <;> simp [caseless] at hc

theorem partsFrom_star {cs : List Char} (h : cs.head? ≠ some '*') (place : Nat)
    (before : Option Char) :
    partsFrom place before none ('*' :: cs) =
      (partsFrom (place + 1) (some '*') none cs).map (.run :: ·) := by
  rw [partsFrom.eq_def]
  simp only
  split <;> simp_all

theorem exists_of_partsFrom_stars {place : Nat} {before : Option Char} {cs : List Char}
    {parts : List PatternPart} (h : partsFrom place before none ('*' :: '*' :: cs) = .ok parts) :
    cs = [] ∧ parts = [.components] ∨ ∃ rest ps, cs = '/' :: rest ∧
      partsFrom (place + 3) (some '/') none rest = .ok ps ∧ parts = .components :: ps := by
  rw [partsFrom.eq_def] at h
  simp only at h
  split at h
  next heq => exact absurd heq (by decide)
  next heq => exact absurd heq (by decide)
  next => cases h
  next rest _ _ heq =>
    obtain ⟨-, rfl⟩ := List.cons.inj heq
    -- The stars are read alike at the start of a pattern and behind a slash.
    split at h
    rotate_right
    · cases h
    all_goals
      split at h
      next => exact .inl ⟨rfl, (Except.ok.inj h).symm⟩
      next rest _ =>
        obtain ⟨ps, hps, rfl⟩ := exists_of_map_eq_ok h
        exact .inr ⟨rest, ps, rfl, hps, rfl⟩
      next => cases h
  next hstars => exact absurd rfl (hstars cs)
  next hstar _ _ => exact absurd rfl hstar

/-- However two texts are read from here on, their parts are aligned. They may stand at places of
their own, and inside classes that are read side by side. -/
def DividedAlike (cs ds : List Char) : Prop :=
  ∀ ⦃place place' : Nat⦄ ⦃before before' : Option Char⦄ ⦃opened opened' : Option OpenClass⦄
    ⦃ps qs : List PatternPart⦄, Option.Rel (OpenClass.Beside place place') opened opened' →
    partsFrom place before opened cs = .ok ps → partsFrom place' before' opened' ds = .ok qs →
      Aligned ps qs

/-- Single parts in front of what is aligned. -/
theorem Aligned.of_map {x y : PatternPart} {p q : Except PatternError (List PatternPart)}
    {ps qs : List PatternPart} (hx : x.isSingle = true) (hy : y.isSingle = true)
    (h : ∀ ⦃ps qs⦄, p = .ok ps → q = .ok qs → Aligned ps qs)
    (hp : p.map (x :: ·) = .ok ps) (hq : q.map (y :: ·) = .ok qs) : Aligned ps qs := by
  obtain ⟨ps, hps, rfl⟩ := exists_of_map_eq_ok hp
  obtain ⟨qs, hqs, rfl⟩ := exists_of_map_eq_ok hq
  exact .single hx hy (h hps hqs)

theorem Aligned.symm {ps qs : List PatternPart} (h : Aligned ps qs) : Aligned qs ps := by
  induction h with
  | nil => exact .nil
  | run _ ih => exact .run ih
  | components _ ih => exact .components ih
  | single hx hy _ ih => exact .single hy hx ih
  | split hne _ ih => exact .merge hne ih
  | merge hne _ ih => exact .split hne ih

/-- A star, if all that is behind it is divided in the same way. -/
theorem aligned_of_star {cs ds : List Char} (h : Recased cs ds)
    (ih : ∀ ⦃cs' ds'⦄, Recased cs' ds' → cs'.length < cs.length + 1 → DividedAlike cs' ds')
    {place place' : Nat} {before before' : Option Char} {ps qs : List PatternPart}
    (hp : partsFrom place before none ('*' :: cs) = .ok ps)
    (hq : partsFrom place' before' none ('*' :: ds) = .ok qs) : Aligned ps qs := by
  by_cases hstars : cs.head? = some '*'
  · obtain ⟨cs, rfl⟩ := List.head?_eq_some_iff.mp hstars
    obtain ⟨ds, rfl, hbehind⟩ := h.exists_of_caseless rfl
    rcases exists_of_partsFrom_stars hp with ⟨rfl, rfl⟩ | ⟨cs, ps, rfl, hps, rfl⟩
    · cases hbehind
      rcases exists_of_partsFrom_stars hq with ⟨-, rfl⟩ | ⟨_, _, heq, -, -⟩
      · exact .components .nil
      · cases heq
    · obtain ⟨ds, rfl, hrest⟩ := hbehind.exists_of_caseless rfl
      obtain ⟨_, qs, heq, hqs, rfl⟩ :=
        (exists_of_partsFrom_stars hq).resolve_left fun h => List.cons_ne_nil _ _ h.1
      obtain ⟨-, rfl⟩ := List.cons.inj heq
      exact .components (ih hrest (by simp only [List.length_cons]; omega) .none hps hqs)
  · have hstars' : ds.head? ≠ some '*' := by
      intro hds
      obtain ⟨ds, rfl⟩ := List.head?_eq_some_iff.mp hds
      obtain ⟨cs, rfl, -⟩ := h.symm.exists_of_caseless rfl
      exact hstars rfl
    rw [partsFrom_star hstars] at hp
    rw [partsFrom_star hstars'] at hq
    obtain ⟨ps, hps, rfl⟩ := exists_of_map_eq_ok hp
    obtain ⟨qs, hqs, rfl⟩ := exists_of_map_eq_ok hq
    exact .run (ih h (Nat.lt_succ_self _) .none hps hqs)

/-- The same character inside two classes ends both, negates both or is a member of both. -/
theorem aligned_of_same_inside {c : Char} {cs ds : List Char} (h : DividedAlike cs ds)
    {place place' : Nat} {before before' : Option Char} {o o' : OpenClass}
    {ps qs : List PatternPart} (hbeside : o.Beside place place' o')
    (hp : partsFrom place before (some o) (c :: cs) = .ok ps)
    (hq : partsFrom place' before' (some o') (c :: ds) = .ok qs) : Aligned ps qs := by
  rw [partsFrom_inside] at hp hq
  rw [← hbeside.negates, ← hbeside.isEmpty] at hq
  split at hp
  next hclose =>
    rw [if_pos hclose] at hq
    exact .of_map o.isSingle_part o'.isSingle_part (fun _ _ => h .none) hp hq
  next hclose =>
    rw [if_neg hclose] at hq
    split at hp
    next hnot =>
      rw [if_pos hnot] at hq
      exact h (.some hbeside.negate) hp hq
    next hnot =>
      rw [if_neg hnot] at hq
      exact h (.some (OpenClass.beside_of_read hbeside.negated _ _)) hp hq

/-- The same character outside of classes opens one in both texts, or stands for the same part. -/
theorem aligned_of_same_outside {c : Char} {cs ds : List Char} (h : Recased cs ds)
    (ih : ∀ ⦃cs' ds'⦄, Recased cs' ds' → cs'.length < cs.length + 1 → DividedAlike cs' ds')
    {place place' : Nat} {before before' : Option Char} {ps qs : List PatternPart}
    (hp : partsFrom place before none (c :: cs) = .ok ps)
    (hq : partsFrom place' before' none (c :: ds) = .ok qs) : Aligned ps qs := by
  have hbehind : DividedAlike cs ds := ih h (Nat.lt_succ_self _)
  by_cases hopen : c = '['
  · subst hopen
    have hbeside : OpenClass.Beside (place + 1) (place' + 1) ⟨place, false, []⟩
        ⟨place', false, []⟩ := ⟨rfl, .rfl, fun _ _ => rfl, fun _ _ => rfl⟩
    exact hbehind (.some hbeside) hp hq
  by_cases hone : c = '?'
  · subst hone
    exact .of_map rfl rfl (fun _ _ => hbehind .none) hp hq
  by_cases hstar : c = '*'
  · subst hstar
    exact aligned_of_star h ih hp hq
  · rw [partsFrom_char hopen hone hstar] at hp hq
    exact .of_map rfl rfl (fun _ _ => hbehind .none) hp hq

namespace DividedAlike
variable {cs ds : List Char}

theorem nil : DividedAlike [] [] := by
  intro _ _ _ _ _ _ ps qs hopened hp hq
  cases hopened with
  | none =>
    cases hp
    cases hq
    exact .nil
  | some _ => cases hp

theorem symm (h : DividedAlike cs ds) : DividedAlike ds cs := by
  intro _ _ _ _ _ _ ps qs hopened hp hq
  cases hopened with
  | none => exact (h .none hq hp).symm
  | some hbeside => exact (h (.some hbeside.symm) hq hp).symm

theorem letter {c d : Char} (h : DividedAlike cs ds) (hc : caseless c = false)
    (hd : caseless d = false) : DividedAlike (c :: cs) (d :: ds) := by
  intro _ _ _ _ _ _ ps qs hopened hp hq
  cases hopened with
  | none =>
    rw [partsFrom_letter hc] at hp
    rw [partsFrom_letter hd] at hq
    exact .of_map rfl rfl (fun _ _ => h .none) hp hq
  | some hbeside =>
    rw [partsFrom_member hc] at hp
    rw [partsFrom_member hd] at hq
    exact h (.some (OpenClass.beside_of_read hbeside.negated _ _)) hp hq

theorem split {d e : Char} (h : DividedAlike cs ds) (hne : d ≠ 'İ') (hd : caseless d = false)
    (he : caseless e = false) : DividedAlike ('İ' :: cs) (d :: e :: ds) := by
  intro _ _ _ _ _ _ ps qs hopened hp hq
  cases hopened with
  | none =>
    rw [partsFrom_letter (by decide)] at hp
    rw [partsFrom_letter hd, partsFrom_letter he] at hq
    obtain ⟨ps, hps, rfl⟩ := exists_of_map_eq_ok hp
    obtain ⟨_, htail, rfl⟩ := exists_of_map_eq_ok hq
    obtain ⟨qs, hqs, rfl⟩ := exists_of_map_eq_ok htail
    exact .split hne (h .none hps hqs)
  | some hbeside =>
    rw [partsFrom_member (by decide)] at hp
    rw [partsFrom_member hd, partsFrom_member he] at hq
    exact h (.some (OpenClass.beside_of_read hbeside.negated _ _)) hp hq

end DividedAlike

/-- Patterns that differ in case are divided into parts in the same way. The induction is on the
length, since two stars are read together with the slash behind them. -/
theorem dividedAlike_of_recased : ∀ {cs ds : List Char}, Recased cs ds → DividedAlike cs ds
  | _, _, .nil => .nil
  | _, _, .same h => by
    intro _ _ _ _ _ _ ps qs hopened hp hq
    cases hopened with
    | none =>
      exact aligned_of_same_outside h (fun _ _ h' hshorter => dividedAlike_of_recased h') hp hq
    | some hbeside => exact aligned_of_same_inside (dividedAlike_of_recased h) hbeside hp hq
  | _, _, .letter hc hd h => (dividedAlike_of_recased h).letter hc hd
  | _, _, .split hne hd he h => (dividedAlike_of_recased h).split hne hd he
  | _, _, .merge hne hd he h => ((dividedAlike_of_recased h).symm.split hne hd he).symm
termination_by cs => cs.length

/-! ### Equal patterns -/

/-- **Equal patterns match the same names if and only if their parts take the same characters, one
by one, or if both match no name at all.** -/
theorem Pattern.matches_eq_iff {s t : String} {p q : Pattern} (hp : Pattern.read s = .ok p)
    (hq : Pattern.read t = .ok q) (heq : (p == q) = true) :
    (∀ name, p.matches name = q.matches name) ↔
      List.Forall₂ PatternPart.Agrees p.parts q.parts ∨
        ∀ name, p.matches name = false ∧ q.matches name = false := by
  obtain ⟨ps, hps, rfl⟩ := exists_of_map_eq_ok hp
  obtain ⟨qs, hqs, rfl⟩ := exists_of_map_eq_ok hq
  have haligned : Aligned ps qs :=
    dividedAlike_of_recased (recased_of_lower (eq_of_beq heq)) .none hps hqs
  constructor
  · intro hsame
    have hsame' : matchParts ps = matchParts qs := by
      funext cs
      simpa [Pattern.matches] using hsame (String.ofList cs)
    by_cases hany : ∃ cs, matchParts ps cs = true
    · obtain ⟨cs, hcs⟩ := hany
      exact .inl (agrees_of_aligned haligned (forall₂_of_matchParts hcs hsame'))
    · right
      intro name
      have hnone : matchParts ps name.toList = false :=
        Bool.eq_false_iff.mpr fun h => hany ⟨_, h⟩
      exact ⟨hnone, (congrFun hsame' name.toList).symm.trans hnone⟩
  · rintro (hagrees | hnone) name
    · exact congrFun (matchParts_congr hagrees) name.toList
    · rw [(hnone name).1, (hnone name).2]

/-- Two letters of ASCII that differ in case take the same characters. -/
theorem PatternPart.Agrees.letter {c d : Char} (hc : isAscii c = true) (hd : isAscii d = true)
    (h : c.toLower = d.toLower) : PatternPart.Agrees (.char c) (.char d) := by
  refine .single rfl rfl fun x => ?_
  have hsame : sameChar x c = sameChar x d := by
    unfold sameChar
    by_cases hx : isAscii x = true
    · simp [hx, hc, hd, h]
    · have hxc : x ≠ c := fun h => hx (h ▸ hc)
      have hxd : x ≠ d := fun h => hx (h ▸ hd)
      simp [hx, hxc, hxd]
  exact iff_of_eq (congrArg (· = true) hsame)

theorem Pattern.matches_eq_iff_letters :
    Pattern.read "NV?" = .ok ⟨"NV?", [.char 'N', .char 'V', .one]⟩ ∧
      Pattern.read "nv?" = .ok ⟨"nv?", [.char 'n', .char 'v', .one]⟩ ∧
      ((⟨"NV?", [.char 'N', .char 'V', .one]⟩ : Pattern) ==
        ⟨"nv?", [.char 'n', .char 'v', .one]⟩) = true ∧
      ∀ name, (⟨"NV?", [.char 'N', .char 'V', .one]⟩ : Pattern).matches name =
        (⟨"nv?", [.char 'n', .char 'v', .one]⟩ : Pattern).matches name :=
  ⟨rfl, rfl, by decide +kernel,
    (Pattern.matches_eq_iff (s := "NV?") (t := "nv?") rfl rfl (by decide +kernel)).mpr (.inl
      (.cons (.letter rfl rfl rfl) (.cons (.letter rfl rfl rfl)
        (.cons (.single rfl rfl fun _ => .rfl) .nil))))⟩

/-- Letters beyond ASCII are equal in either case, but match only as they are written. -/
theorem Pattern.accents_differ :
    ∃ p q, Pattern.read "É" = .ok p ∧ Pattern.read "é" = .ok q ∧ (p == q) = true ∧
      p.matches "é" = false ∧ q.matches "é" = true :=
  ⟨⟨"É", [.char 'É']⟩, ⟨"é", [.char 'é']⟩, rfl, rfl, by decide +kernel, by decide, by decide⟩

/-- Neither do ranges whose ends differ in case: between `A` and `z` there is more than letters. -/
example : ∃ p q, Pattern.read "[A-z]" = .ok p ∧ Pattern.read "[a-z]" = .ok q ∧ (p == q) = true ∧
    p.matches "_" = true ∧ q.matches "_" = false :=
  ⟨⟨"[A-z]", [.oneOf [.range 'A' 'z']]⟩, ⟨"[a-z]", [.oneOf [.range 'a' 'z']]⟩, rfl, rfl,
    by decide +kernel, by decide, by decide⟩

end EmbeddedSql.Call
