import EmbeddedSql.Text.Casing
import Mathlib.Data.List.Basic

/-! Laws of lower and upper case.

Characters of ASCII that are no letters are lowered to themselves, and no other character is
lowered to one of them. So two texts with the same lower case have them at the same places
(`recased_of_lower`), although a character between them may have become two.

A word in capitals of ASCII is the upper case of few others (`spelled_of_upper`): of its own letters
in either case, of the long `s`, of the `i` without a dot, and of ligatures. -/
namespace EmbeddedSql.Text

/-- Characters of ASCII that are no letters. -/
def caseless (c : Char) : Bool := c.toNat < 128 && !c.isAlpha

/-! ### One character -/

theorem toNat_ofNat {n : Nat} (h : n.isValidChar) : (Char.ofNat n).toNat = n := by
  rw [Char.ofNat, dif_pos h]
  exact UInt32.toNat_ofNatLT

/-- What holds of all characters of ASCII can be found out one by one. -/
theorem ascii_forall {P : Char → Prop} (h : ∀ n : Fin 128, P (Char.ofNat n)) {c : Char}
    (hc : c.toNat < 128) : P c := by
  have := h ⟨c.toNat, hc⟩
  rwa [Char.ofNat_toNat] at this

/-- What a run maps to is beyond ASCII, as what it maps; only the sign of the kelvin becomes
`k`. -/
theorem lowerRuns_beyond : ∀ run ∈ lowerRuns,
    128 ≤ run.first + run.shift ∧ run.last + run.shift < 0xd800 ∨
      0xdfff < run.first + run.shift ∧ run.last + run.shift < 0x110000 ∨
      run.first = run.last ∧ run.first + run.shift = 0x6b := by
  decide +kernel

theorem exists_run_of_findSome? {runs : List CaseRun} {n m : Nat}
    (h : runs.findSome? (·.map? n) = some m) :
    ∃ run ∈ runs, run.first ≤ n ∧ n ≤ run.last ∧ (n + run.shift).toNat = m := by
  obtain ⟨run, hrun, hm⟩ := List.exists_of_findSome?_eq_some h
  simp only [CaseRun.map?, Option.ite_none_right_eq_some, Option.some.injEq] at hm
  obtain ⟨⟨hfirst, hlast, -⟩, hm⟩ := hm
  exact ⟨run, hrun, hfirst, hlast, hm⟩

theorem caseless_of_lowerRuns {n m : Nat} (h : lowerRuns.findSome? (·.map? n) = some m) :
    caseless (Char.ofNat m) = false := by
  obtain ⟨run, hrun, hfirst, hlast, rfl⟩ := exists_run_of_findSome? h
  have beyond {m : Nat} (hm : m.isValidChar) (h : 128 ≤ m) : caseless (Char.ofNat m) = false := by
    simp only [caseless, toNat_ofNat hm, Bool.and_eq_false_iff, decide_eq_false_iff_not]
    omega
  rcases lowerRuns_beyond run hrun with hlow | hhigh | ⟨honly, hk⟩
  · exact beyond (.inl (by omega)) (by omega)
  · exact beyond (.inr (by omega)) (by omega)
  · have : (n + run.shift).toNat = 0x6b := by omega
    rw [this]
    rfl

theorem toLower_of_ascii {c : Char} (h : c.toNat < 128) :
    caseless c.toLower = caseless c ∧ (caseless c = true → c.toLower = c) :=
  ascii_forall (P := fun c => caseless c.toLower = caseless c ∧ (caseless c = true → c.toLower = c))
    (by decide +kernel) h

/-- Lower case makes one character of one, except for a capital `I` with a dot. -/
theorem lowerChar_of_beyond {c : Char} (h : ¬ c.toNat < 128) :
    (c ≠ 'İ' ∧ ∃ d, lowerChar c = [d] ∧ caseless d = false) ∨ c = 'İ' := by
  simp only [lowerChar, if_neg h, mapCase, lowerSequences, List.lookup_cons, List.lookup_nil]
  by_cases hdot : c.toNat = 0x130
  · exact .inr (Char.toNat_inj.mp hdot)
  · left
    simp only [beq_eq_false_iff_ne.mpr hdot]
    refine ⟨fun h => hdot (h ▸ rfl), _, rfl, ?_⟩
    cases hrun : lowerRuns.findSome? (·.map? c.toNat) with
    | none => simp [caseless, h]
    | some m => simpa using caseless_of_lowerRuns hrun

/-- What a character may be lowered to. -/
inductive Lowered : Char → List Char → Prop
  | same {c} : caseless c = true → Lowered c [c]
  | letter {c d} : c ≠ 'İ' → caseless c = false → caseless d = false → Lowered c [d]
  | dotted : Lowered 'İ' ['i', '\u0307']

theorem lowered_lowerChar (c : Char) : Lowered c (lowerChar c) := by
  by_cases hascii : c.toNat < 128
  · obtain ⟨hcaseless, hsame⟩ := toLower_of_ascii hascii
    rw [lowerChar, if_pos hascii]
    cases hc : caseless c with
    | true =>
      rw [hsame hc]
      exact .same hc
    | false => exact .letter (fun h => absurd hascii (h ▸ by decide)) hc (hcaseless.trans hc)
  · rcases lowerChar_of_beyond hascii with ⟨hne, d, hd, hcaseless⟩ | rfl
    · rw [hd]
      exact .letter hne (by simp [caseless, hascii]) hcaseless
    · exact .dotted

/-- The sigma at the end of a word is a letter too, so the neighbours do not matter. -/
theorem lowerAfter_cons (before : List Char) (c : Char) (cs : List Char) :
    ∃ mapped, Lowered c mapped ∧
      lowerAfter before (c :: cs) = mapped ++ lowerAfter (c :: before) cs := by
  by_cases hc : c = 'Σ'
  · subst hc
    refine ⟨_, ?_, rfl⟩
    rw [if_pos rfl]
    split <;> exact .letter (by decide) rfl rfl
  · exact ⟨lowerChar c, lowered_lowerChar c, by rw [lowerAfter, if_neg hc]⟩

/-! ### Texts -/

/-- Two texts with the same characters without case at the same places. Other characters stand
between them one for one, but `İ` may stand for two. -/
inductive Recased : List Char → List Char → Prop
  | nil : Recased [] []
  | same {c cs ds} : Recased cs ds → Recased (c :: cs) (c :: ds)
  | letter {c d cs ds} : caseless c = false → caseless d = false →
      Recased cs ds → Recased (c :: cs) (d :: ds)
  | split {d e cs ds} : d ≠ 'İ' → caseless d = false → caseless e = false →
      Recased cs ds → Recased ('İ' :: cs) (d :: e :: ds)
  | merge {d e cs ds} : d ≠ 'İ' → caseless d = false → caseless e = false →
      Recased cs ds → Recased (d :: e :: cs) ('İ' :: ds)

theorem Recased.symm {cs ds : List Char} (h : Recased cs ds) : Recased ds cs := by
  induction h with
  | nil => exact .nil
  | same _ ih => exact .same ih
  | letter hc hd _ ih => exact .letter hd hc ih
  | split hne hd he _ ih => exact .merge hne hd he ih
  | merge hne hd he _ ih => exact .split hne hd he ih

theorem Recased.exists_of_caseless {c : Char} {cs ds : List Char} (hc : caseless c = true)
    (h : Recased (c :: cs) ds) : ∃ ds', ds = c :: ds' ∧ Recased cs ds' := by
  cases h with
  | same h => exact ⟨_, rfl, h⟩
  | letter h _ _ => simp [h] at hc
  | split _ _ _ _ => exact absurd hc (by decide)
  | merge _ h _ _ => simp [h] at hc

/-- A dotted `İ` against another character: what it is lowered to comes from two of them. -/
theorem exists_of_dotted {d : Char} {mapped rest before ds : List Char}
    (hne : d ≠ 'İ') (hd : Lowered d mapped)
    (h : 'i' :: '\u0307' :: rest = mapped ++ lowerAfter before ds) :
    caseless d = false ∧ ∃ e ds', ds = e :: ds' ∧ caseless e = false ∧
      rest = lowerAfter (e :: before) ds' := by
  obtain ⟨rfl, hmark⟩ : mapped = ['i'] ∧ '\u0307' :: rest = lowerAfter before ds := by
    cases hd with
    | same _ => exact ⟨by rw [(List.cons.inj h).1], (List.cons.inj h).2⟩
    | letter _ _ _ => exact ⟨by rw [(List.cons.inj h).1], (List.cons.inj h).2⟩
    | dotted => exact absurd rfl hne
  have hcaseless : caseless d = false := by
    cases hd with
    | same hd => exact absurd hd (by decide)
    | letter _ hd _ => exact hd
  cases ds with
  | nil => cases hmark
  | cons e ds =>
    obtain ⟨mapped, he, heq⟩ := lowerAfter_cons before e ds
    rw [heq] at hmark
    cases he with
    | same he => exact absurd ((List.cons.inj hmark).1 ▸ he) (by decide)
    | letter _ he _ => exact ⟨hcaseless, e, ds, rfl, he, (List.cons.inj hmark).2⟩
    | dotted => exact absurd (List.cons.inj hmark).1 (by decide)

theorem recased_of_lowerAfter : ∀ {cs ds before behind : List Char},
    lowerAfter before cs = lowerAfter behind ds → Recased cs ds
  | [], [], _, _, _ => .nil
  | [], d :: ds, _, behind, h => by
    obtain ⟨_, hd, heq⟩ := lowerAfter_cons behind d ds
    rw [heq] at h
    cases hd <;> cases h
  | c :: cs, [], before, _, h => by
    obtain ⟨_, hc, heq⟩ := lowerAfter_cons before c cs
    rw [heq] at h
    cases hc <;> cases h
  | c :: cs, d :: ds, before, behind, h => by
    obtain ⟨mapped, hc, hceq⟩ := lowerAfter_cons before c cs
    obtain ⟨mapped', hd, hdeq⟩ := lowerAfter_cons behind d ds
    rw [hceq, hdeq] at h
    cases hc with
    | same hc =>
      cases hd with
      | same hd =>
        obtain ⟨rfl, h⟩ := List.cons.inj h
        exact .same (recased_of_lowerAfter h)
      | letter _ _ hd => exact absurd ((List.cons.inj h).1 ▸ hc) (by simp [hd])
      | dotted => exact absurd ((List.cons.inj h).1 ▸ hc) (by decide)
    | letter hne hc hmapped =>
      cases hd with
      | same hd => exact absurd ((List.cons.inj h).1 ▸ hd) (by simp [hmapped])
      | letter _ hd _ => exact .letter hc hd (recased_of_lowerAfter (List.cons.inj h).2)
      | dotted =>
        obtain ⟨-, e, cs, rfl, he, hrest⟩ :=
          exists_of_dotted hne (.letter hne hc hmapped) h.symm
        exact .merge hne hc he (recased_of_lowerAfter hrest.symm)
    | dotted =>
      by_cases hne : d = 'İ'
      · subst hne
        obtain ⟨rfl⟩ : mapped' = ['i', '\u0307'] := by
          cases hd with
          | same hd => exact absurd hd (by decide)
          | letter hd _ _ => exact absurd rfl hd
          | dotted => rfl
        exact .same (recased_of_lowerAfter (List.append_cancel_left h))
      · obtain ⟨hd, e, ds, rfl, he, hrest⟩ := exists_of_dotted hne hd h
        exact .split hne hd he (recased_of_lowerAfter hrest)

/-- Texts with the same lower case have the same characters without case at the same places. -/
theorem recased_of_lower {s t : String} (h : lower s = lower t) : Recased s.toList t.toList :=
  recased_of_lowerAfter (String.ofList_injective h)

/-! ### Capitals -/

/-- What a run maps to is beyond ASCII, as what it maps; only the `i` without a dot and the long
`s` become `I` and `S`. -/
theorem upperRuns_beyond : ∀ run ∈ upperRuns,
    128 ≤ run.first + run.shift ∧ run.last + run.shift < 0xd800 ∨
      0xdfff < run.first + run.shift ∧ run.last + run.shift < 0x110000 ∨
      run.first = 0x131 ∧ run.last = 0x131 ∧ run.first + run.shift = 0x49 ∨
      run.first = 0x17f ∧ run.last = 0x17f ∧ run.first + run.shift = 0x53 := by
  decide +kernel

/-- A letter that has this capital as its upper case. -/
def Spells (c capital : Char) : Prop :=
  c.toUpper = capital ∨ c = 'ſ' ∧ capital = 'S' ∨ c = 'ı' ∧ capital = 'I'

theorem spells_of_upperRuns {c : Char} {m : Nat}
    (h : upperRuns.findSome? (·.map? c.toNat) = some m) (hascii : (Char.ofNat m).toNat < 128) :
    Spells c (Char.ofNat m) := by
  obtain ⟨run, hrun, hfirst, hlast, rfl⟩ := exists_run_of_findSome? h
  have beyond {m : Nat} (hm : m.isValidChar) (h : (Char.ofNat m).toNat < 128) : m < 128 := by
    rwa [toNat_ofNat hm] at h
  rcases upperRuns_beyond run hrun with hlow | hhigh | hi | hs
  · have := beyond (.inl (by omega)) hascii
    omega
  · have := beyond (.inr (by omega)) hascii
    omega
  · have hc : c = 'ı' := Char.toNat_inj.mp (show c.toNat = 0x131 by omega)
    have : (c.toNat + run.shift).toNat = 0x49 := by omega
    rw [this]
    exact .inr (.inr ⟨hc, rfl⟩)
  · have hc : c = 'ſ' := Char.toNat_inj.mp (show c.toNat = 0x17f by omega)
    have : (c.toNat + run.shift).toNat = 0x53 := by omega
    rw [this]
    exact .inr (.inl ⟨hc, rfl⟩)

/-- A character is a letter of a capital of ASCII, or becomes several. -/
theorem spells_of_upperChar (c : Char) :
    (∃ x, upperChar c = [x] ∧ (x.toNat < 128 → Spells c x)) ∨
      ∃ ns, (c.toNat, ns) ∈ upperSequences ∧ upperChar c = ns.map Char.ofNat := by
  unfold upperChar mapCase
  split
  · exact .inl ⟨_, rfl, fun _ => .inl rfl⟩
  next hbeyond =>
    split
    next ns h =>
      obtain ⟨front, back, htable, -⟩ := List.lookup_eq_some_iff.mp h
      exact .inr ⟨ns, htable ▸ List.mem_append_right front (List.mem_cons_self ..), rfl⟩
    next =>
      refine .inl ⟨_, rfl, fun hascii => ?_⟩
      cases hrun : upperRuns.findSome? (·.map? c.toNat) with
      | none =>
        rw [hrun] at hascii
        exact absurd hascii hbeyond
      | some m =>
        rw [hrun] at hascii
        exact spells_of_upperRuns hrun hascii

/-- **A word without the capitals of a ligature is the upper case of its own letters only**, one
for one. -/
theorem spelled_of_upper {cs word : List Char} (h : upperChars cs = word)
    (hascii : ∀ x ∈ word, x.toNat < 128)
    (hwhole : ∀ s ∈ upperSequences, ¬ s.2.map Char.ofNat <:+: word) :
    List.Forall₂ Spells cs word := by
  induction cs generalizing word with
  | nil =>
    cases h
    exact .nil
  | cons c cs ih =>
    rw [upperChars, List.flatMap_cons] at h
    rcases spells_of_upperChar c with ⟨x, hx, hspells⟩ | ⟨ns, hns, heq⟩
    · rw [hx] at h
      subst h
      refine .cons (hspells (hascii x (List.mem_cons_self ..))) (ih rfl ?_ ?_)
      · exact fun y hy => hascii y (List.mem_cons_of_mem x hy)
      · exact fun s hs hpart => hwhole s hs (hpart.trans (List.suffix_cons x _).isInfix)
    · rw [heq] at h
      exact absurd ⟨[], _, by simpa using h⟩ (hwhole _ hns)

end EmbeddedSql.Text
