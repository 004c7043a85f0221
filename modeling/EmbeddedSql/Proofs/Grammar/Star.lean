import EmbeddedSql.Proofs.Grammar.Opening

/-! Stars among the items of a `SELECT`.

Whatever stands in front of a star ends in a dot, and every clause behind it starts with a blank.
`yields_select` says so of all items that the grammar reads. -/
namespace EmbeddedSql.Sql.Grammar

/-- What a reading gives has a property, whatever it reads. -/
def Yields {α : Type} (P : α → Prop) (p : Parser α) : Prop :=
  ∀ setting left a rest, p setting left = .ok (a, rest) → P a

namespace Yields
variable {α β : Type} {P : α → Prop} {Q : β → Prop}

theorem pure {a : α} (h : P a) : Yields P (pure a) := by
  rintro setting left _ _ ⟨⟩
  exact h

theorem bind_of {p : Parser β} {f : β → Parser α} (hp : Yields Q p)
    (hf : ∀ b, Q b → Yields P (f b)) : Yields P (p >>= f) := by
  intro setting left a rest h
  obtain ⟨b, behind, hb, h⟩ := exists_of_reading_bind h
  exact hf b (hp setting left b behind hb) setting behind a rest h

theorem bind {p : Parser β} {f : β → Parser α} (hf : ∀ b, Yields P (f b)) :
    Yields P (p >>= f) :=
  bind_of (Q := fun _ => True) (fun _ _ _ _ _ => trivial) fun b _ => hf b

theorem ite {c : Prop} [Decidable c] {p q : Parser α} (hp : Yields P p) (hq : Yields P q) :
    Yields P (if c then p else q) := by
  split
  · exact hp
  · exact hq

/-- Two readings go on alike. -/
theorem bind_ite {c : Prop} [Decidable c] {p q : Parser β} {f : β → Parser α}
    (hf : ∀ b, Yields P (f b)) : Yields P (if c then p >>= f else q >>= f) :=
  ite (bind hf) (bind hf)

theorem expected (what : String) : Yields P (expected what) := by
  intro setting left a rest h
  cases h

theorem failHere (text : String) : Yields P (failHere text) := by
  intro setting left a rest h
  cases h

/-- What holds of each member holds of a list. -/
theorem repeatWhile {p : Parser α} (hp : Yields P p) (more : Parser Bool) (fuel : Nat) :
    Yields (fun as => ∀ a ∈ as, P a) (repeatWhile p more fuel) := by
  induction fuel with
  | zero => exact .pure nofun
  | succ fuel ih =>
    refine bind_of hp fun a ha => bind fun b => ite ?_ ?_
    · exact bind_of ih fun as has => .pure (List.forall_mem_cons.mpr ⟨ha, has⟩)
    · exact .pure (by simpa using ha)

theorem separated {p : Parser α} (hp : Yields P p) (more : Parser Bool) :
    Yields (fun as => ∀ a ∈ as, P a) (separated p more) :=
  bind fun fuel => repeatWhile hp more fuel

end Yields

/-! ### Clauses behind a star -/

/-- A wording that is empty or starts with a blank. -/
def OpensBlank (w : Wording) : Prop := ∀ c ∈ (writePieces false 0 w).head?, c = ' '

theorem writePieces_append (v w : Wording) :
    writePieces false 0 (v ++ w) = writePieces false 0 v ++ writePieces false 0 w := by
  induction v with
  | nil => rfl
  | cons p v ih => rw [List.cons_append, writePieces, writePieces, ih, List.append_assoc]

theorem OpensBlank.nil : OpensBlank [] := nofun

theorem OpensBlank.append {v w : Wording} (hv : OpensBlank v) (hw : OpensBlank w) :
    OpensBlank (v ++ w) := by
  intro c hc
  rw [writePieces_append, List.head?_append] at hc
  cases hfirst : (writePieces false 0 v).head? with
  | none => exact hw c (by simpa [hfirst] using hc)
  | some d => exact hv c (by simpa [hfirst] using hc)

theorem OpensBlank.say {s : String} (hs : s.toList.head? = some ' ') (w : Wording) :
    OpensBlank (say s ++ w) := by
  have hline : s ≠ "\n" := by
    rintro rfl
    cases hs
  intro c hc
  have hfirst : (writePieces false 0 (Sql.say s)).head? = some ' ' := by
    simpa [Sql.say, writePieces, Piece.write, hline] using hs
  rw [writePieces_append, List.head?_append, hfirst] at hc
  exact (Option.some.inj hc).symm

/-- A star with a dot behind what stands in front of it, if anything does, and a blank in front of
what stands behind it. -/
def Item.SetApart : Item → Prop
  | .expr .. => True
  | .star qualifier options =>
    (qualifier = [] ∨ ∃ w, qualifier = w ++ say ".") ∧ OpensBlank options

/-- All stars among the items are set apart. -/
def Select.SetApart (s : Select) : Prop := ∀ i ∈ s.items, Item.SetApart i

section
variable (n : Nested)

theorem yields_excluded : Yields OpensBlank excluded := by
  unfold excluded
  refine .bind fun _ => .ite (.bind fun _ => .ite ?_ ?_) (.pure .nil)
  · exact .bind fun _ => .pure (.say (by decide) _)
  · exact .bind fun _ => .pure (.say (by decide) _)

theorem yields_starOptions : Yields OpensBlank (starOptions n) := by
  -- Each clause is read, or left out, and the reading goes on behind it.
  have clause {s : String} (hs : s.toList.head? = some ' ') (w : Wording)
      {behind : Wording → Parser Wording}
      (h : ∀ w, OpensBlank w → Yields OpensBlank (behind w)) :
      Yields OpensBlank (pure (say s ++ w) >>= behind) := .bind_of (.pure (.say hs w)) h
  have none {behind : Wording → Parser Wording}
      (h : ∀ w, OpensBlank w → Yields OpensBlank (behind w)) :
      Yields OpensBlank (pure [] >>= behind) := .bind_of (.pure .nil) h
  unfold starOptions
  refine .bind fun d => .bind fun _ => ?_
  extract_lets behindPattern
  suffices h : ∀ w, OpensBlank w → Yields OpensBlank (behindPattern w) by
    refine .ite (.bind fun t => ?_) (none h)
    split
    · exact .bind fun _ => clause (by decide) _ h
    · exact .bind_of (.expected _) h
  intro pattern hpattern
  unfold behindPattern
  extract_lets behindExclude
  suffices h : ∀ w, OpensBlank w → Yields OpensBlank (behindExclude w) from
    .ite (.bind_of yields_excluded h) (none h)
  intro exclude hexclude
  refine .bind fun _ => ?_
  extract_lets behindExcept
  suffices h : ∀ w, OpensBlank w → Yields OpensBlank (behindExcept w) from
    .ite (.bind fun _ => .ite (.bind fun _ => clause (by decide) _ h)
      (.bind fun _ => clause (by decide) _ h)) (none h)
  intro except hexcept
  refine .bind fun _ => ?_
  extract_lets behindReplace
  suffices h : ∀ w, OpensBlank w → Yields OpensBlank (behindReplace w) from
    .ite (.bind fun _ => .ite (.bind fun _ => .bind fun _ => clause (by decide) _ h)
      (.bind_of (.expected _) h)) (none h)
  intro replace hreplace
  refine .bind fun _ => ?_
  extract_lets behindRename
  suffices h : ∀ w, OpensBlank w → Yields OpensBlank (behindRename w) from
    .ite (.bind fun _ => .ite (.bind fun _ => clause (by decide) _ h)
      (.bind fun _ => clause (by decide) _ h)) (none h)
  intro rename hrename
  exact .pure ((((hpattern.append hexclude).append hexcept).append hreplace).append hrename)

theorem yields_item : Yields Item.SetApart (item n) := by
  have star {q : Wording} (hq : q = [] ∨ ∃ w, q = w ++ say ".") :
      Yields Item.SetApart (do return .star q (← starOptions n)) :=
    .bind_of (yields_starOptions n) fun options h => .pure ⟨hq, h⟩
  have labelled (root : Bool) (e : Expr) : Yields Item.SetApart (item.labelled root e) := by
    unfold item.labelled
    exact .bind fun _ => .pure trivial
  unfold item
  refine .bind fun d => .bind fun root => .bind fun s => ?_
  cases s with
  | star => exact star (.inl rfl)
  | starOf q => exact star (.inr ⟨_, rfl⟩)
  | expr e =>
    dsimp only
    split
    · exact .ite (.failHere _) (labelled root _)
    · exact .ite (.pure trivial) (labelled root _)
    · exact .bind fun _ => .ite (star (.inr ⟨_, rfl⟩)) (labelled root _)

theorem yields_items : Yields (fun is => ∀ i ∈ is, Item.SetApart i) (items n) :=
  .bind fun _ => .bind fun _ => .bind fun _ => .separated (yields_item n) _

theorem yields_select_withItems (early : Option (List Source)) :
    Yields Select.SetApart (select.withItems n early) := by
  unfold select.withItems
  refine .bind fun d => .bind fun _ => .bind fun mode => ?_
  extract_lets behindFirst
  refine .bind_ite fun first => ?_
  unfold behindFirst
  refine .bind fun distinct => ?_
  extract_lets behindSecond
  refine .bind_ite fun second => ?_
  unfold behindSecond
  refine .bind fun _ => ?_
  extract_lets behindItems
  suffices h : ∀ is : List Item, (∀ i ∈ is, Item.SetApart i) →
      Yields Select.SetApart (behindItems is) from
    .ite (.bind_of (.pure nofun) h) (.bind_of (yields_items n) h)
  -- Nothing that is read behind the items changes them.
  intro is his
  unfold behindItems
  extract_lets behindExclude
  refine .bind_ite fun exclude => ?_
  unfold behindExclude
  refine .bind fun target => ?_
  extract_lets behindSources
  suffices h : ∀ found, Yields Select.SetApart (behindSources found) by
    split
    · exact .bind h
    · exact .bind fun _ => .bind_ite h
  intro found
  unfold behindSources
  refine .bind fun views => .bind fun _ => ?_
  extract_lets behindPrewhere
  suffices h : ∀ prewhere, Yields Select.SetApart (behindPrewhere prewhere) from
    .ite (.bind fun _ => .bind h) (.bind h)
  intro prewhere
  unfold behindPrewhere
  refine .bind fun condition => .bind fun groups => .bind fun cluster => .bind fun distribute =>
    .bind fun sort => .bind fun having => .bind fun before => .bind fun qualify => ?_
  extract_lets behindWindows
  refine .bind_ite fun after => ?_
  unfold behindWindows
  exact .bind fun connect => .pure his

/-- **All stars that the grammar reads among the items of a `SELECT` are set apart.** -/
theorem yields_select : Yields Select.SetApart (select n) := by
  unfold select
  refine .bind fun d => .bind fun _ => ?_
  extract_lets behindSources
  suffices h : ∀ early, Yields Select.SetApart (behindSources early) from
    .ite (.bind fun _ => .bind h) (.bind h)
  intro early
  unfold behindSources
  split
  · exact .bind fun _ => .ite (.pure nofun) (yields_select_withItems n _)
  · exact yields_select_withItems n _

end

end EmbeddedSql.Sql.Grammar
