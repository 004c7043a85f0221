import EmbeddedSql.Proofs.Text.Casing
import Mathlib.Data.List.DropRight

/-! Lower case of a part of a text.

A capital sigma is lowered by what stands around it, so a part may read otherwise in the lower case
of the text than it does alone. Only a sigma that opens the part and closes a word can
(`lowerBetween_alone`): in all other places the part itself decides.

Characters of ASCII that are no letters keep their places. So a text in which one of them is written
twice is lowered to one in which it is written twice (`lowerBetween_doubled`). -/
namespace EmbeddedSql.Text

/-! ### Letters ahead -/

@[simp] theorem casedAhead_nil : casedAhead [] = false := rfl

theorem casedAhead_cons (c : Char) (cs : List Char) :
    casedAhead (c :: cs) = if isCaseIgnorable c then casedAhead cs else isCased c := by
  by_cases hc : isCaseIgnorable c = true
  · rw [if_pos hc, casedAhead, List.dropWhile_cons, if_pos hc, casedAhead]
  · rw [if_neg hc, casedAhead, List.dropWhile_cons, if_neg hc]

theorem casedAhead_append {after behind : List Char} (cs : List Char)
    (h : casedAhead after = casedAhead behind) :
    casedAhead (cs ++ after) = casedAhead (cs ++ behind) := by
  induction cs with
  | nil => exact h
  | cons c cs ih => rw [List.cons_append, List.cons_append, casedAhead_cons, casedAhead_cons, ih]

theorem isCaseIgnorable_sigma : isCaseIgnorable 'Σ' = false := by decide +kernel

/-! ### A part of a text -/

/-- The lower case of a part of a text. What stands in front of it is `before`, nearest first, and
what stands behind it is `after`. -/
def lowerBetween (before after : List Char) : List Char → List Char
  | [] => []
  | c :: cs =>
    (if c = 'Σ' then [if casedAhead before && !casedAhead (cs ++ after) then 'ς' else 'σ']
      else lowerChar c) ++ lowerBetween (c :: before) after cs

theorem lowerAfter_append (before cs after : List Char) :
    lowerAfter before (cs ++ after) =
      lowerBetween before after cs ++ lowerAfter (cs.reverse ++ before) after := by
  induction cs generalizing before with
  | nil => rfl
  | cons c cs ih => simp only [List.cons_append, lowerAfter, lowerBetween, ih, List.reverse_cons,
      List.append_assoc, List.nil_append]

theorem lowerChars_eq_lowerBetween (cs : List Char) : lowerChars cs = lowerBetween [] [] cs := by
  have h := lowerAfter_append [] cs []
  rwa [List.append_nil, lowerAfter, List.append_nil] at h

theorem lowerBetween_append (before after cs ds : List Char) :
    lowerBetween before after (cs ++ ds) =
      lowerBetween before (ds ++ after) cs ++ lowerBetween (cs.reverse ++ before) after ds := by
  induction cs generalizing before with
  | nil => rfl
  | cons c cs ih => simp only [List.cons_append, lowerBetween, ih, List.reverse_cons,
      List.append_assoc, List.nil_append]

theorem lowerBetween_cons (before after : List Char) (c : Char) (cs : List Char) :
    ∃ mapped, Lowered c mapped ∧
      lowerBetween before after (c :: cs) = mapped ++ lowerBetween (c :: before) after cs := by
  by_cases hc : c = 'Σ'
  · subst hc
    refine ⟨_, ?_, rfl⟩
    rw [if_pos rfl]
    split <;> exact .letter (by decide) rfl rfl
  · exact ⟨lowerChar c, lowered_lowerChar c, by rw [lowerBetween, if_neg hc]⟩

/-- Whether a capital sigma stands in front, or behind characters that words run across only, and
no letter behind it. -/
def opensInFinalSigma (cs : List Char) : Bool :=
  match cs.dropWhile isCaseIgnorable with
  | c :: rest => c = 'Σ' && !casedAhead rest
  | [] => false

@[simp] theorem opensInFinalSigma_nil : opensInFinalSigma [] = false := rfl

theorem opensInFinalSigma_cons (c : Char) (cs : List Char) :
    opensInFinalSigma (c :: cs) =
      if isCaseIgnorable c then opensInFinalSigma cs else c = 'Σ' && !casedAhead cs := by
  by_cases hc : isCaseIgnorable c = true
  · rw [if_pos hc, opensInFinalSigma, List.dropWhile_cons, if_pos hc, opensInFinalSigma]
  · rw [if_neg hc, opensInFinalSigma, List.dropWhile_cons, if_neg hc]

/-- What stands around a part only matters by whether a letter follows, on either side; and on the
left side only if the part opens in a final sigma. -/
theorem lowerBetween_congr {before before' after after' : List Char} {cs : List Char}
    (hafter : casedAhead after = casedAhead after')
    (hbefore : casedAhead before = casedAhead before' ∨ opensInFinalSigma (cs ++ after) = false) :
    lowerBetween before after cs = lowerBetween before' after' cs := by
  induction cs generalizing before before' with
  | nil => rfl
  | cons c cs ih =>
    have hrest := casedAhead_append cs hafter
    rw [List.cons_append, opensInFinalSigma_cons] at hbefore
    rw [lowerBetween, lowerBetween, hrest]
    by_cases hc : isCaseIgnorable c = true
    · have hsigma : c ≠ 'Σ' := fun h => by simp [h, isCaseIgnorable_sigma] at hc
      rw [if_neg hsigma, if_neg hsigma, ih]
      simpa only [casedAhead_cons, if_pos hc] using hbefore
    · have hsame : casedAhead (c :: before) = casedAhead (c :: before') := by
        rw [casedAhead_cons, casedAhead_cons, if_neg hc, if_neg hc]
      rw [ih (.inl hsame)]
      by_cases hsigma : c = 'Σ'
      · subst hsigma
        rw [if_neg hc] at hbefore
        rcases hbefore with hsame | hcased
        · rw [hsame]
        · have hletter : casedAhead (cs ++ after') = true := by
            simpa [hrest] using hcased
          simp [hletter]
      · rw [if_neg hsigma, if_neg hsigma]

theorem opensInFinalSigma_append {after : List Char} (cs : List Char)
    (hafter : casedAhead after = false) (hsigma : opensInFinalSigma after = false) :
    opensInFinalSigma (cs ++ after) = opensInFinalSigma cs := by
  induction cs with
  | nil => exact hsigma
  | cons c cs ih =>
    have hrest : casedAhead (cs ++ after) = casedAhead cs := by
      simpa using casedAhead_append cs (hafter.trans casedAhead_nil.symm)
    rw [List.cons_append, opensInFinalSigma_cons, opensInFinalSigma_cons, ih, hrest]

/-- A part with no letter behind it reads in the lower case of a text as it does alone, if it does
not open in a final sigma behind a letter. -/
theorem lowerBetween_alone {before cs after : List Char} (hafter : casedAhead after = false)
    (hend : opensInFinalSigma after = false)
    (hbefore : casedAhead before = true → opensInFinalSigma cs = false) :
    lowerBetween before after cs = lowerChars cs := by
  rw [lowerChars_eq_lowerBetween]
  refine lowerBetween_congr hafter ?_
  rw [opensInFinalSigma_append cs hafter hend]
  cases h : casedAhead before with
  | true => exact .inr (hbefore h)
  | false => exact .inl rfl

/-! ### Characters without case -/

theorem Lowered.ne_nil {c : Char} {mapped : List Char} (h : Lowered c mapped) : mapped ≠ [] := by
  cases h <;> simp

variable {q : Char}

theorem Lowered.mem_iff {c : Char} {mapped : List Char} (hq : caseless q = true)
    (h : Lowered c mapped) : q ∈ mapped ↔ c = q := by
  cases h with
  | same _ => rw [List.mem_singleton, eq_comm]
  | letter _ hc hd =>
    rw [List.mem_singleton]
    exact iff_of_false (fun h => by simp [← h, hq] at hd) fun h => by simp [h, hq] at hc
  | dotted =>
    refine iff_of_false ?_ fun h => absurd (h ▸ hq) (by decide)
    simp only [List.mem_cons, List.not_mem_nil, or_false, not_or]
    exact ⟨fun h => absurd (h ▸ hq) (by decide), fun h => absurd (h ▸ hq) (by decide)⟩

theorem Lowered.eq_singleton {mapped : List Char} (hq : caseless q = true) (h : Lowered q mapped) :
    mapped = [q] := by
  cases h with
  | same _ => rfl
  | letter _ h _ => simp [hq] at h
  | dotted => exact absurd hq (by decide)

theorem mem_lowerBetween (hq : caseless q = true) {before after cs : List Char} :
    q ∈ lowerBetween before after cs ↔ q ∈ cs := by
  induction cs generalizing before with
  | nil => exact Iff.rfl
  | cons c cs ih =>
    obtain ⟨mapped, hc, heq⟩ := lowerBetween_cons before after c cs
    rw [heq, List.mem_append, hc.mem_iff hq, ih, List.mem_cons, eq_comm (a := c)]

theorem casedAhead_caseless (hq : caseless q = true) (cs : List Char) :
    casedAhead (q :: cs) = (isCaseIgnorable q && casedAhead cs) := by
  have hcased : isCased q = false := by
    simp only [caseless, Bool.and_eq_true, decide_eq_true_eq, Bool.not_eq_true'] at hq
    rw [isCased, asciiOr, if_pos hq.1, hq.2]
  rw [casedAhead_cons, hcased]
  cases isCaseIgnorable q <;> rfl

theorem opensInFinalSigma_caseless (hq : caseless q = true) : opensInFinalSigma [q] = false := by
  have hne : q ≠ 'Σ' := fun h => absurd (h ▸ hq) (by decide)
  rw [opensInFinalSigma_cons]
  simp [hne, opensInFinalSigma]

/-! ### A character written twice -/

/-- The text with `q` written twice wherever it stands. -/
def doubled (q : Char) (cs : List Char) : List Char :=
  cs.flatMap fun c => if c = q then [q, q] else [c]

theorem doubled_cons_self (q : Char) (cs : List Char) :
    doubled q (q :: cs) = q :: q :: doubled q cs := by
  simp [doubled]

theorem doubled_cons_of_ne {c : Char} (h : c ≠ q) (cs : List Char) :
    doubled q (c :: cs) = c :: doubled q cs := by
  simp [doubled, h]

theorem doubled_append (q : Char) (cs ds : List Char) :
    doubled q (cs ++ ds) = doubled q cs ++ doubled q ds := List.flatMap_append

theorem doubled_eq_self {cs : List Char} (h : q ∉ cs) : doubled q cs = cs := by
  induction cs with
  | nil => rfl
  | cons c cs ih =>
    rw [List.mem_cons, not_or] at h
    rw [doubled_cons_of_ne (Ne.symm h.1), ih h.2]

theorem length_doubled (q : Char) (cs : List Char) :
    (doubled q cs).length = cs.length + cs.count q := by
  induction cs with
  | nil => rfl
  | cons c cs ih =>
    by_cases hc : c = q
    · subst hc
      simp only [doubled_cons_self, List.length_cons, ih, List.count_cons_self]
      omega
    · rw [doubled_cons_of_ne hc, List.length_cons, ih, List.count_cons_of_ne hc, List.length_cons]
      omega

theorem reverse_doubled (q : Char) (cs : List Char) :
    (doubled q cs).reverse = doubled q cs.reverse := by
  induction cs with
  | nil => rfl
  | cons c cs ih =>
    rw [List.reverse_cons, doubled_append, ← ih]
    by_cases hc : c = q
    · subst hc
      simp [doubled]
    · simp [doubled, hc]

theorem casedAhead_doubled (cs after : List Char) :
    casedAhead (doubled q cs ++ after) = casedAhead (cs ++ after) := by
  induction cs with
  | nil => rfl
  | cons c cs ih =>
    by_cases hc : c = q
    · subst hc
      simp only [doubled_cons_self, List.cons_append, casedAhead_cons, ih]
      split <;> rfl
    · rw [doubled_cons_of_ne hc, List.cons_append, List.cons_append, casedAhead_cons,
        casedAhead_cons, ih]

theorem lowerBetween_doubled (hq : caseless q = true) {before before' after : List Char}
    (cs : List Char) (hbefore : casedAhead before = casedAhead before') :
    lowerBetween before after (doubled q cs) = doubled q (lowerBetween before' after cs) := by
  induction cs generalizing before before' with
  | nil => rfl
  | cons c cs ih =>
    have hnext (hbefore : casedAhead before = casedAhead before') :
        casedAhead (c :: before) = casedAhead (c :: before') := by
      rw [casedAhead_cons, casedAhead_cons, hbefore]
    by_cases hc : c = q
    · subst hc
      have hne : c ≠ 'Σ' := fun h => absurd (h ▸ hq) (by decide)
      have htwice : casedAhead (c :: c :: before) = casedAhead (c :: before') := by
        simp only [casedAhead_cons, hbefore]
        split <;> rfl
      have hsame := (lowered_lowerChar c).eq_singleton hq
      simp only [doubled_cons_self, lowerBetween, if_neg hne, hsame, List.cons_append,
        List.nil_append, ih htwice]
    · obtain ⟨mapped, hlowered, heq⟩ := lowerBetween_cons before' after c cs
      have hmapped : doubled q mapped = mapped :=
        doubled_eq_self fun h => hc ((hlowered.mem_iff hq).mp h)
      rw [doubled_cons_of_ne hc, heq, doubled_append, hmapped, ← ih (hnext hbefore)]
      rw [lowerBetween] at heq ⊢
      rw [casedAhead_doubled, hbefore, List.append_cancel_right heq]

/-! ### A character at the ends -/

/-- The text without the `q` at its ends. -/
def stripped (q : Char) (cs : List Char) : List Char :=
  (cs.dropWhile (· = q)).rdropWhile (· = q)

theorem dropWhile_lowerBetween (hq : caseless q = true) (before after cs : List Char) :
    ∃ before', (lowerBetween before after cs).dropWhile (· = q) =
      lowerBetween before' after (cs.dropWhile (· = q)) := by
  induction cs generalizing before with
  | nil => exact ⟨[], rfl⟩
  | cons c cs ih =>
    obtain ⟨mapped, hlowered, heq⟩ := lowerBetween_cons before after c cs
    by_cases hc : c = q
    · subst hc
      rw [heq, hlowered.eq_singleton hq, List.singleton_append,
        List.dropWhile_cons_of_pos (by simp), List.dropWhile_cons_of_pos (by simp)]
      exact ih (c :: before)
    · rw [List.dropWhile_cons_of_neg (by simpa using hc)]
      refine ⟨before, ?_⟩
      obtain ⟨d, rest, rfl⟩ := List.exists_cons_of_ne_nil hlowered.ne_nil
      have hd : d ≠ q := fun hd => hc ((hlowered.mem_iff hq).mp (hd ▸ List.mem_cons_self ..))
      rw [heq, List.cons_append, List.dropWhile_cons_of_neg (by simpa using hd)]

theorem rdropWhile_lowerBetween (hq : caseless q = true) (before after cs : List Char) :
    ∃ after', (lowerBetween before after cs).rdropWhile (· = q) =
      lowerBetween before after' (cs.rdropWhile (· = q)) := by
  induction cs using List.reverseRecOn generalizing after with
  | nil => exact ⟨[], rfl⟩
  | append_singleton cs c ih =>
    obtain ⟨mapped, hlowered, heq⟩ := lowerBetween_cons (cs.reverse ++ before) after c []
    rw [lowerBetween, List.append_nil] at heq
    by_cases hc : c = q
    · subst hc
      rw [lowerBetween_append, heq, hlowered.eq_singleton hq, List.rdropWhile_concat_pos _ _ _ (by simp),
        List.rdropWhile_concat_pos _ _ _ (by simp)]
      exact ih ([c] ++ after)
    · rw [List.rdropWhile_concat_neg _ _ _ (by simpa using hc)]
      refine ⟨after, ?_⟩
      obtain ⟨rest, d, rfl⟩ := (List.eq_nil_or_concat' mapped).resolve_left hlowered.ne_nil
      have hd : d ≠ q := fun hd => hc ((hlowered.mem_iff hq).mp (by simp [hd]))
      rw [lowerBetween_append, heq, ← List.append_assoc,
        List.rdropWhile_concat_neg _ _ _ (by simpa using hd)]

theorem mem_stripped_lowerChars (hq : caseless q = true) (cs : List Char) :
    q ∈ stripped q (lowerChars cs) ↔ q ∈ stripped q cs := by
  obtain ⟨before, hfront⟩ := dropWhile_lowerBetween hq [] [] cs
  obtain ⟨after, hback⟩ := rdropWhile_lowerBetween hq before [] (cs.dropWhile (· = q))
  rw [stripped, lowerChars_eq_lowerBetween, hfront, hback, mem_lowerBetween hq, stripped]

theorem doubled_replicate (q : Char) (n : Nat) :
    doubled q (List.replicate n q) = List.replicate n q ++ List.replicate n q := by
  rw [List.replicate_append_replicate, List.eq_replicate_iff, length_doubled]
  simp [doubled]

theorem dropWhile_doubled (q : Char) (cs : List Char) :
    (doubled q cs).dropWhile (· = q) = doubled q (cs.dropWhile (· = q)) := by
  induction cs with
  | nil => rfl
  | cons c cs ih =>
    by_cases hc : c = q
    · subst hc
      simpa [doubled_cons_self] using ih
    · simp [doubled_cons_of_ne hc, hc]

theorem stripped_doubled (q : Char) (cs : List Char) :
    stripped q (doubled q cs) = doubled q (stripped q cs) := by
  rw [stripped, dropWhile_doubled, stripped, List.rdropWhile, reverse_doubled, dropWhile_doubled,
    reverse_doubled, List.rdropWhile]

/-- A text is what is left of it between any number of `q`. -/
theorem exists_eq_stripped (q : Char) (cs : List Char) :
    ∃ m n, cs = List.replicate m q ++ stripped q cs ++ List.replicate n q := by
  have hfront (ds : List Char) : ∃ m, ds = List.replicate m q ++ ds.dropWhile (· = q) := by
    have hall : ds.takeWhile (· = q) = List.replicate (ds.takeWhile (· = q)).length q :=
      List.eq_replicate_of_mem fun c hc => by simpa using List.mem_takeWhile_imp hc
    exact ⟨_, hall ▸ List.takeWhile_append_dropWhile.symm⟩
  obtain ⟨m, hm⟩ := hfront cs
  obtain ⟨n, hn⟩ := hfront (cs.dropWhile (· = q)).reverse
  refine ⟨m, n, ?_⟩
  rw [stripped, List.rdropWhile, List.append_assoc]
  have := congrArg List.reverse hn
  rw [List.reverse_reverse, List.reverse_append, List.reverse_replicate] at this
  rwa [← this]

theorem mem_of_mem_stripped {cs : List Char} (h : q ∈ stripped q cs) : q ∈ cs :=
  (List.dropWhile_suffix _).subset ((List.rdropWhile_prefix _ _).subset h)

/-- Any number of `q` around a text that is more than such makes no difference. -/
theorem stripped_append {cs front back : List Char} (hfront : ∀ c ∈ front, c = q)
    (hback : ∀ c ∈ back, c = q) (h : q ∈ stripped q cs) :
    stripped q (front ++ cs ++ back) = stripped q cs := by
  have hmore : (cs.dropWhile (· = q)).isEmpty = false := by
    rw [List.isEmpty_eq_false_iff]
    intro hempty
    simp [stripped, hempty] at h
  rw [stripped, List.append_assoc, List.dropWhile_append_of_pos (by simpa using hfront),
    List.dropWhile_append, hmore, if_neg Bool.false_ne_true, stripped, List.rdropWhile,
    List.reverse_append, List.dropWhile_append_of_pos (by simpa using hback), List.rdropWhile]

theorem filter_doubled (q : Char) (cs : List Char) :
    (doubled q cs).filter (· ≠ q) = cs.filter (· ≠ q) := by
  induction cs with
  | nil => rfl
  | cons c cs ih =>
    by_cases hc : c = q
    · subst hc
      simpa [doubled_cons_self] using ih
    · simpa [doubled_cons_of_ne hc, hc] using ih

/-- Both texts have the same characters beside `q`, so only `q` can stand in front and behind. But
then each `q` between other characters stands there twice. -/
theorem not_infix_of_mem_stripped {front cs back : List Char} (lead : List Char) (hlead : ∀ c ∈ lead, c = q)
    (hinner : q ∈ stripped q cs) : front ++ cs ++ back ≠ lead ++ doubled q cs ++ [q] := by
  intro h
  have hothers := congrArg (List.filter (· ≠ q)) h
  have hnone : lead.filter (· ≠ q) = [] := by simpa using hlead
  have hself : [q].filter (· ≠ q) = [] := by simp
  rw [List.filter_append, List.filter_append, List.filter_append, List.filter_append, hnone, hself,
    filter_doubled, List.nil_append, List.append_nil] at hothers
  have hlengths := congrArg List.length hothers
  rw [List.length_append, List.length_append] at hlengths
  have hfront : ∀ c ∈ front, c = q := by
    simpa using List.eq_nil_of_length_eq_zero (l := front.filter (· ≠ q)) (by omega)
  have hback : ∀ c ∈ back, c = q := by
    simpa using List.eq_nil_of_length_eq_zero (l := back.filter (· ≠ q)) (by omega)
  have htwice : q ∈ doubled q (stripped q cs) := List.mem_flatMap.mpr ⟨q, hinner, by simp⟩
  rw [← stripped_doubled] at htwice
  have hsame := congrArg (stripped q) h
  rw [stripped_append hfront hback hinner, stripped_append hlead (by simp) htwice,
    stripped_doubled] at hsame
  have hlength := congrArg List.length hsame
  rw [length_doubled] at hlength
  have := List.count_pos_iff.mpr hinner
  omega

/-- It stands in itself with `q` written twice, if `q` is found at its ends only. -/
theorem infix_doubled {cs : List Char} (h : q ∉ stripped q cs) : cs <:+: doubled q cs := by
  obtain ⟨m, n, hcs⟩ := exists_eq_stripped q cs
  refine ⟨List.replicate m q, List.replicate n q, ?_⟩
  conv_rhs => rw [hcs]
  simp only [doubled_append, doubled_replicate, doubled_eq_self h]
  conv_lhs => rw [hcs]
  simp only [List.append_assoc]

/-- **A text stands in itself between quotes, where the closing one is written twice, exactly if
that one is found at its ends only.** -/
theorem infix_doubled_iff (o q : Char) (cs : List Char) :
    cs <:+: o :: doubled q cs ++ [q] ↔ q ∉ stripped q cs := by
  refine ⟨?_, fun h => (infix_doubled h).trans ⟨[o], [q], rfl⟩⟩
  rintro ⟨front, back, h⟩ hinner
  by_cases ho : o = q
  · exact not_infix_of_mem_stripped [o] (by simpa using ho) hinner h
  · cases front with
    | cons x front => exact not_infix_of_mem_stripped [] nofun hinner (List.cons.inj h).2
    | nil =>
      obtain ⟨u, v, rfl, hu⟩ := List.eq_append_cons_of_mem (mem_of_mem_stripped hinner)
      rw [doubled_append, doubled_eq_self hu] at h
      have hparts : (u ++ [q]) ++ (v ++ back) = (o :: u) ++ (doubled q (q :: v) ++ [q]) := by
        simpa using h
      have hfirst := (List.append_inj hparts (by simp)).1
      have : q ∈ o :: u := hfirst ▸ List.mem_append_right u (List.mem_singleton_self q)
      simp [hu, Ne.symm ho] at this

end EmbeddedSql.Text
