import EmbeddedSql.Call.Rename
import EmbeddedSql.Proofs.Outcome
import EmbeddedSql.Proofs.Text.Casing
import Mathlib.Data.List.Forall2

/-! Words as patterns, and as new names.

A word has letters, digits and underscores and opens with a letter. As a pattern it matches the
names that are spelled like it, letters of ASCII in either case; so those names are of one word too.
As a new name it is written as it is, or in capitals where the old name was. What becomes of a name
that is given a new one and then the old one again is `thereAndBack`: names in capitals come back,
and so does the old name itself if the new one is not in capitals (`thereAndBack_eq_iff`). -/
namespace EmbeddedSql.Call

open Sql Text

/-! ### Words -/

def isWordChar (c : Char) : Bool := isAlphanumeric c || c = '_'

/-- Letters, digits and underscores, with a letter in front. -/
structure IsWord (w : String) : Prop where
  letter : ∃ c cs, w.toList = c :: cs ∧ isAlphabetic c = true
  all : ∀ c ∈ w.toList, isWordChar c = true

theorem isWordChar_of_ascii {c : Char} (h : c.toNat < 128) :
    isWordChar c = (c.isAlphanum || c = '_') := by
  rw [isWordChar, isAlphanumeric, isAlphabetic, isNumeric, asciiOr, asciiOr, if_pos h, if_pos h,
    Char.isAlphanum]

theorem eq_or_toLower_of_sameChar {c d : Char} (h : sameChar c d = true) :
    c = d ∨ c.toNat < 128 ∧ d.toNat < 128 ∧ c.toLower = d.toLower := by
  rw [sameChar] at h
  split at h
  next hascii =>
    rw [Bool.and_eq_true, isAscii, isAscii, decide_eq_true_eq, decide_eq_true_eq] at hascii
    exact .inr ⟨hascii.1, hascii.2, of_decide_eq_true h⟩
  next => exact .inl (of_decide_eq_true h)

/-- The characters of a name that is spelled like a word are those of a word. -/
theorem isWordChar_of_sameChar {c d : Char} (hsame : sameChar c d = true)
    (hd : isWordChar d = true) : isWordChar c = true := by
  rcases eq_or_toLower_of_sameChar hsame with rfl | ⟨hc, hascii, hsame⟩
  · exact hd
  · have hlower {c : Char} (hc : c.toNat < 128) :
        (c.isAlphanum || c = '_') = (c.toLower.isAlphanum || c.toLower = '_') :=
      ascii_forall (P := fun c => (c.isAlphanum || c = '_') =
        (c.toLower.isAlphanum || c.toLower = '_')) (by decide +kernel) hc
    rw [isWordChar_of_ascii hascii, hlower hascii] at hd
    rwa [isWordChar_of_ascii hc, hlower hc, hsame]

/-! ### Patterns -/

/-- The pattern of a word. -/
def wordPattern (w : String) : Pattern := ⟨w, w.toList.map .char⟩

theorem partsFrom_word {cs : List Char} (h : ∀ c ∈ cs, isWordChar c = true) (place : Nat)
    (before : Option Char) : partsFrom place before none cs = .ok (cs.map .char) := by
  induction cs generalizing place before with
  | nil => rw [partsFrom]; rfl
  | cons c cs ih =>
    rw [List.forall_mem_cons] at h
    have hsign {d : Char} (hd : isWordChar d = false) : c ≠ d := fun he => by simp [he, hd] at h
    have hopen : c ≠ '[' := hsign rfl
    have hone : c ≠ '?' := hsign rfl
    have hstar : c ≠ '*' := hsign rfl
    rw [partsFrom, ih h.2]
    · rfl
    all_goals simp_all

theorem Pattern.read_word {w : String} (h : IsWord w) : Pattern.read w = .ok (wordPattern w) := by
  rw [Pattern.read, partsFrom_word h.all]
  rfl

theorem matchParts_chars {cs ds : List Char} :
    matchParts (cs.map .char) ds = true ↔ List.Forall₂ (fun c d => sameChar d c = true) cs ds := by
  induction cs generalizing ds with
  | nil => simp [matchParts]
  | cons c cs ih =>
    cases ds with
    | nil => simp [matchParts]
    | cons d ds =>
      rw [List.map_cons, matchParts, Bool.and_eq_true, ih, List.forall₂_cons]
      · rfl
      · nofun
      · nofun

/-- **A word matches names of one word that are spelled like it.** -/
theorem idents_of_matches {w : String} {n : Name} (hw : IsWord w)
    (h : (wordPattern w).matches (Name.dotted n) = true) :
    ∃ i, Name.idents n = [i] ∧ Name.dotted n = i.value ∧
      List.Forall₂ (fun c d => sameChar d c = true) w.toList i.value.toList := by
  have hsame := matchParts_chars.mp h
  have hdotted : Name.dotted n = ".".intercalate ((Name.idents n).map Ident.value) := rfl
  obtain ⟨c, cs, hc, -⟩ := hw.letter
  rcases hidents : Name.idents n with _ | ⟨i, _ | ⟨j, rest⟩⟩
  · rw [hdotted, hidents, hc] at hsame
    cases hsame
  · have hvalue : Name.dotted n = i.value := by rw [hdotted, hidents]; exact String.intercalate_singleton
    exact ⟨i, rfl, hvalue, hvalue ▸ hsame⟩
  · have hdot : '.' ∈ (Name.dotted n).toList := by
      rw [hdotted, hidents, List.map_cons, List.map_cons, String.intercalate_cons_cons]
      simp
    obtain ⟨d, hd, hdot⟩ := exists_of_forall₂ hsame '.' hdot
    exact absurd (isWordChar_of_sameChar hdot (hw.all d hd)) (by decide)

/-! ### Capitals -/

/-- Signs around a name do not count. -/
theorem inCapitals_quoted {o q : Char} (ho : isAlphabetic o = false) (hq : isAlphabetic q = false)
    (cs : List Char) : inCapitals (o :: cs ++ [q]) = inCapitals cs := by
  simp [inCapitals, List.filter_append, ho, hq]

theorem upperSequences_letters :
    ∀ s ∈ upperSequences, s.2 ≠ [] ∧ ∀ n ∈ s.2, caseless (Char.ofNat n) = false := by
  decide +kernel

theorem upperChar_ne_nil (c : Char) : upperChar c ≠ [] := by
  rcases spells_of_upperChar c with ⟨x, hx, -⟩ | ⟨ns, hns, heq⟩
  · rw [hx]
    exact List.cons_ne_nil x []
  · rw [heq]
    simpa using (upperSequences_letters _ hns).1

theorem length_le_upperChars (cs : List Char) : cs.length ≤ (upperChars cs).length := by
  induction cs with
  | nil => exact Nat.le_refl 0
  | cons c cs ih =>
    have := List.length_pos_of_ne_nil (upperChar_ne_nil c)
    rw [upperChars, List.flatMap_cons, List.length_append, List.length_cons, ← upperChars]
    omega

theorem eq_of_toUpper_caseless {c q : Char} (hq : caseless q = true) (h : c.toUpper = q) :
    c = q := by
  subst h
  by_cases hc : c.toNat < 128
  · exact ascii_forall (P := fun c => caseless c.toUpper = true → c = c.toUpper)
      (by decide +kernel) hc hq
  · refine (dif_neg ?_ : c.toUpper = c).symm
    rintro ⟨-, hle⟩
    exact hc (Nat.lt_of_le_of_lt (UInt32.le_iff_toNat_le.mp hle) (by decide))

/-- Upper case makes no character without case of another one. -/
theorem mem_of_mem_upperChars {q : Char} (hq : caseless q = true) {cs : List Char}
    (h : q ∈ upperChars cs) : q ∈ cs := by
  obtain ⟨c, hc, hmem⟩ := List.mem_flatMap.mp h
  rcases spells_of_upperChar c with ⟨x, hx, hspells⟩ | ⟨ns, hns, heq⟩
  · rw [hx, List.mem_singleton] at hmem
    subst hmem
    have hascii : q.toNat < 128 := by
      simp only [caseless, Bool.and_eq_true, decide_eq_true_eq] at hq
      exact hq.1
    rcases hspells hascii with hupper | ⟨-, rfl⟩ | ⟨-, rfl⟩
    · exact eq_of_toUpper_caseless hq hupper ▸ hc
    · cases hq
    · cases hq
  · rw [heq, List.mem_map] at hmem
    obtain ⟨n, hn, rfl⟩ := hmem
    simp [(upperSequences_letters _ hns).2 n hn] at hq

/-! ### A new name and the old one again -/

theorem length_le_cased (w : String) (written : List Char) :
    w.toList.length ≤ (cased w written).toList.length := by
  rw [cased]
  split
  · rw [upper, String.toList_ofList]
    exact length_le_upperChars w.toList
  · exact Nat.le_refl _

theorem mem_of_mem_cased {q : Char} (hq : caseless q = true) {w : String} {written : List Char}
    (h : q ∈ (cased w written).toList) : q ∈ w.toList := by
  rw [cased] at h
  split at h
  · rw [upper, String.toList_ofList] at h
    exact mem_of_mem_upperChars hq h
  · exact h

/-- What a name is when it has been given the new name `g`, and the old one `f` again. -/
def thereAndBack (f g name : String) : String := cased f (cased g name.toList).toList

def IsAscii (w : String) : Prop := ∀ c ∈ w.toList, c.toNat < 128

theorem upper_of_isAscii {w : String} (h : IsAscii w) :
    (upper w).toList = w.toList.map Char.toUpper := by
  rw [upper, String.toList_ofList, upperChars, List.map_eq_flatMap]
  exact List.flatMap_congr fun c hc => if_pos (h c hc)

/-- All letters are capitals, and there are some. -/
theorem inCapitals_iff {cs : List Char} :
    inCapitals cs = true ↔ (∃ c ∈ cs, isAlphabetic c = true) ∧
      ∀ c ∈ cs, isAlphabetic c = true → isUppercase c = true := by
  rw [inCapitals, Bool.and_eq_true, Bool.not_eq_true', List.isEmpty_eq_false_iff,
    ne_eq, List.filter_eq_nil_iff, List.all_eq_true]
  simp only [List.mem_filter, and_imp, not_forall, not_not, exists_prop]

theorem inCapitals_upper {w : String} (hw : IsWord w) (h : IsAscii w) :
    inCapitals (upper w).toList = true := by
  obtain ⟨c, cs, hc, hletter⟩ := hw.letter
  have hcapital {c : Char} (hc : c.toNat < 128) :
      (isAlphabetic c = true → isAlphabetic c.toUpper = true) ∧
        (isAlphabetic c.toUpper = true → isUppercase c.toUpper = true) :=
    ascii_forall (P := fun c => (isAlphabetic c = true → isAlphabetic c.toUpper = true) ∧
      (isAlphabetic c.toUpper = true → isUppercase c.toUpper = true)) (by decide +kernel) hc
  have hmem : c ∈ w.toList := hc ▸ List.mem_cons_self ..
  rw [inCapitals_iff, upper_of_isAscii h, List.forall_mem_map]
  exact ⟨⟨_, List.mem_map_of_mem hmem, (hcapital (h c hmem)).1 hletter⟩,
    fun d hd => (hcapital (h d hd)).2⟩

theorem eq_toUpper_of_sameChar {c d : Char} (hc : c.toNat < 128) (hsame : sameChar d c = true)
    (hd : isAlphabetic d = true → isUppercase d = true) : d = c.toUpper := by
  have hboth : d.toNat < 128 ∧ d.toLower = c.toLower := by
    rcases eq_or_toLower_of_sameChar hsame with rfl | ⟨hd, -, hlower⟩
    · exact ⟨hc, rfl⟩
    · exact ⟨hd, hlower⟩
  have hupper {c : Char} (hc : c.toNat < 128) : c.toLower.toUpper = c.toUpper :=
    ascii_forall (P := fun c => c.toLower.toUpper = c.toUpper) (by decide +kernel) hc
  have hsame : d.toUpper = d :=
    ascii_forall (P := fun d => (isAlphabetic d = true → isUppercase d = true) → d.toUpper = d)
      (by decide +kernel) hboth.1 hd
  calc d = d.toLower.toUpper := by rw [hupper hboth.1, hsame]
    _ = c.toUpper := by rw [hboth.2, hupper hc]

/-- Of the names that are spelled like a word, the one in capitals is its upper case. -/
theorem eq_upper_of_inCapitals {w name : String} (h : IsAscii w)
    (hsame : List.Forall₂ (fun c d => sameChar d c = true) w.toList name.toList)
    (hcapitals : inCapitals name.toList = true) : name = upper w := by
  have hletters := (inCapitals_iff.mp hcapitals).2
  apply String.toList_injective
  rw [upper_of_isAscii h]
  rw [IsAscii] at h
  generalize w.toList = cs, name.toList = ds at h hsame hletters
  clear hcapitals
  induction hsame with
  | nil => rfl
  | cons hcd _ ih =>
    rw [List.forall_mem_cons] at h hletters
    rw [List.map_cons, ← eq_toUpper_of_sameChar h.1 hcd hletters.1, ← ih h.2 hletters.2]

/-- **A name comes back if it is in capitals, or if it is the word itself and the new one is not in
capitals.** -/
theorem thereAndBack_eq_iff {f g name : String} (hf : IsWord f) (hg : IsWord g) (hfa : IsAscii f)
    (hga : IsAscii g) (hsame : List.Forall₂ (fun c d => sameChar d c = true) f.toList name.toList) :
    thereAndBack f g name = name ↔
      inCapitals name.toList = true ∨ name = f ∧ inCapitals g.toList = false := by
  rw [thereAndBack]
  cases hname : inCapitals name.toList with
  | true =>
    have hnew : cased g name.toList = upper g := if_pos hname
    have hold : cased f (upper g).toList = upper f := if_pos (inCapitals_upper hg hga)
    rw [hnew, hold]
    exact iff_of_true (eq_upper_of_inCapitals hfa hsame hname).symm (.inl rfl)
  | false =>
    have hnew : cased g name.toList = g := if_neg (by simp [hname])
    rw [hnew]
    cases hcapitals : inCapitals g.toList with
    | true =>
      have hold : cased f g.toList = upper f := if_pos hcapitals
      rw [hold]
      refine iff_of_false (fun h => ?_) (by simp)
      rw [← h, inCapitals_upper hf hfa] at hname
      cases hname
    | false =>
      have hold : cased f g.toList = f := if_neg (by simp [hcapitals])
      rw [hold]
      simp [eq_comm]

end EmbeddedSql.Call
