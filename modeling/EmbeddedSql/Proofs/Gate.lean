import EmbeddedSql.Proofs.Grammar.Verbs
import EmbeddedSql.Proofs.Outcome
import EmbeddedSql.Proofs.Revision
import EmbeddedSql.Proofs.Text.Casing
import EmbeddedSql.Proofs.Usage.Nesting

/-! What the gate lets through.

A verb that is read in a text stands in it, in any case, so the gate sees it
(`maybeQuery_of_verb`). A text whose first statement is about rows opens with one of the four
verbs, or with one of the few other words that open a query or a change of rows
(`maybeQuery_of_parseAll`); a text that opens with one of these need not hold any verb. -/
namespace EmbeddedSql.Gate

open Sql Grammar Text

/-! ### Verbs in a text -/

theorem starts_append {cs word : List Char} (rest : List Char)
    (h : List.Forall₂ (fun c x => sameLetter x c = true) cs word) :
    starts word (cs ++ rest) = true := by
  induction h with
  | nil => cases rest <;> rfl
  | cons hc _ ih => exact Bool.and_eq_true_iff.mpr ⟨hc, ih⟩

theorem occurs_of_suffix {word rest text : List Char} (hsuffix : rest <:+ text)
    (h : starts word rest = true) : occurs word text = true := by
  induction text with
  | nil =>
    obtain rfl := List.suffix_nil.mp hsuffix
    cases word with
    | nil => rfl
    | cons _ _ => cases h
  | cons c text ih =>
    rw [occurs, Bool.or_eq_true]
    rcases List.suffix_cons_iff.mp hsuffix with rfl | hrest
    · exact .inl h
    · exact .inr (ih hrest)

theorem sameLetter_of_spells {c x : Char} (h : Spells c x) (hx : x ≠ 'I') :
    sameLetter x c = true := by
  rcases h with h | ⟨rfl, rfl⟩ | ⟨rfl, rfl⟩
  · simp [sameLetter, h]
  · rfl
  · exact absurd rfl hx

theorem forall₂_sameLetter {cs word : List Char} (h : List.Forall₂ Spells cs word)
    (hword : 'I' ∉ word) : List.Forall₂ (fun c x => sameLetter x c = true) cs word := by
  induction h with
  | nil => exact .nil
  | cons hc _ ih =>
    rw [List.mem_cons, not_or] at hword
    exact .cons (sameLetter_of_spells hc (Ne.symm hword.1)) (ih hword.2)

theorem maybeQuery_of_starts {verb : Verb} (hverb : verb ∈ Verb.manipulating) {value text : String}
    (hstands : value.toList <:+: text.toList)
    (h : List.Forall₂ (fun c x => sameLetter x c = true) value.toList verb.spelling.toList) :
    maybeQuery text = true := by
  obtain ⟨front, back, htext⟩ := hstands
  rw [maybeQuery, mentions, List.any_eq_true]
  refine ⟨verb, hverb, occurs_of_suffix ?_ (starts_append back h)⟩
  exact ⟨front, by rw [← htext, List.append_assoc]⟩

theorem spelling_ascii (verb : Verb) : ∀ x ∈ verb.spelling.toList, x.toNat < 128 := by
  have hall : verb.spelling.toList.all (·.toNat < 128) = true := by cases verb <;> decide
  simpa only [List.all_eq_true, decide_eq_true_eq] using hall

/-- No verb holds the capitals of a ligature, and only `INSERT` an `I`. -/
theorem spelling_plain : ∀ verb ∈ Verb.manipulating,
    (∀ s ∈ upperSequences, ¬ s.2.map Char.ofNat <:+: verb.spelling.toList) ∧
      (verb ≠ .insert → 'I' ∉ verb.spelling.toList) := by
  decide +kernel

/-- **The gate sees every verb that is read in a text**, except for an `INSERT` whose first letter
has no dot: its upper case is a capital `I`, but it is none to the gate. -/
theorem maybeQuery_of_verb {verb : Verb} (hverb : verb ∈ Verb.manipulating) {value text : String}
    (hstands : value.toList <:+: text.toList) (hupper : upper value = verb.spelling) :
    maybeQuery text = true ∨ verb = .insert ∧ value.toList.head? = some 'ı' := by
  obtain ⟨hwhole, hletters⟩ := spelling_plain verb hverb
  have hchars : upperChars value.toList = verb.spelling.toList := by
    rw [← hupper, upper, String.toList_ofList]
  have hspelled := spelled_of_upper hchars (spelling_ascii verb) hwhole
  by_cases hinsert : verb = .insert
  · have hspelling : verb.spelling.toList = 'I' :: ['N', 'S', 'E', 'R', 'T'] := by
      rw [hinsert]
      decide
    generalize hvalue : value.toList = cs at hspelled
    rw [hspelling] at hspelled
    cases hspelled with
    | @cons c _ cs _ hc hcs =>
      by_cases hdot : c = 'ı'
      · exact .inr ⟨hinsert, by rw [hdot, List.head?_cons]⟩
      · have hfirst : sameLetter 'I' c = true := by
          rcases hc with h | ⟨-, h⟩ | ⟨h, -⟩
          · simp [sameLetter, h]
          · cases h
          · exact absurd h hdot
        refine .inl (maybeQuery_of_starts hverb hstands ?_)
        rw [hvalue, hspelling]
        exact .cons hfirst (forall₂_sameLetter hcs (by decide))
  · exact .inl (maybeQuery_of_starts hverb hstands (forall₂_sameLetter hspelled (hletters hinsert)))

theorem spelling_ne_empty (verb : Verb) : verb.spelling ≠ "" := by
  cases verb <;> decide

/-! ### Statements about rows -/

/-- The other words that a statement about rows may open with. -/
def silentVerbs : List String := ["REPLACE", "FROM", "VALUES", "VALUE", "TABLE", "WITH", "MERGE"]

/-- Whether a statement may open with a token that is no verb to the gate. -/
def isSilent (t : Token) : Bool :=
  match t with
  | .word value _ keyword =>
    silentVerbs.contains keyword || (keyword = "INSERT" && value.toList.head? = some 'ı')
  | _ => false

/-- Whether such a token stands behind the semicolons and parentheses that a text opens with. -/
def opensSilently (d : Dialect) (text : String) : Bool :=
  match lex d text with
  | .ok tokens => isSilent (openingToken tokens)
  | .error _ => false

theorem silent_or_verb {keyword : String} (h : keyword ∈ rowVerbs) :
    keyword ∈ silentVerbs ∨ ∃ verb ∈ Verb.manipulating, keyword = verb.spelling := by
  revert keyword
  decide

theorem maybeQuery_of_opening {d : Dialect} {text : String} {tokens : List Lexeme}
    (hlex : lex d text = .ok tokens) (h : isKeywordOf rowVerbs (openingToken tokens) = true) :
    maybeQuery text = true ∨ isSilent (openingToken tokens) = true := by
  cases htoken : openingToken tokens with
  | word value quote keyword =>
    rw [htoken] at h
    rw [isSilent, Bool.or_eq_true]
    rcases silent_or_verb (List.contains_iff_mem.mp h) with hsilent | ⟨verb, hverb, hkey⟩
    · exact .inr (.inl (List.contains_iff_mem.mpr hsilent))
    · obtain ⟨l, hl, hfirst⟩ := (openingToken_mem tokens).resolve_left (by simp [htoken])
      have hword := standsWithin_of_lex hlex l hl value quote keyword (hfirst.trans htoken)
      obtain ⟨hstands, hupper⟩ := hword.resolve_left (hkey ▸ spelling_ne_empty verb)
      rcases maybeQuery_of_verb hverb hstands (hupper.symm.trans hkey) with hgate | ⟨rfl, hdot⟩
      · exact .inl hgate
      · exact .inr (.inr (Bool.and_eq_true_iff.mpr ⟨decide_eq_true hkey, decide_eq_true hdot⟩))
  | _ =>
    rw [htoken] at h
    exact absurd h Bool.false_ne_true

theorem maybeQuery_of_parseAll {d : Dialect} {text : String} {s : Statement} {ss : List Statement}
    (h : Statement.parseAll d text = .ok (s :: ss)) (hs : Usage.Kind.of s ≠ .other) :
    maybeQuery text = true ∨ opensSilently d text = true := by
  cases hlex : lex d text with
  | error _ =>
    rw [Statement.parseAll, hlex] at h
    cases h
  | ok tokens =>
    rw [opensSilently, hlex]
    exact maybeQuery_of_opening hlex (opening_of_parseAll hlex h hs)

/-- **The gate lets every statement about rows through that opens with one of its verbs**: if a text
is read as a query, an `UPDATE`, a `DELETE` or an `INSERT`, then the gate accepts the text and there
is a view of whatever holds it, or the text opens with a word that the gate does not look for. -/
theorem view?_of_read {d : Dialect} {style : TextBlock.Style} {h : Host} {s : Statement}
    (hread : (Engine.ofDialect d style).read h.text = .ok s) (hs : Usage.Kind.of s ≠ .other) :
    maybeQuery h.text = true ∧ (Engine.ofDialect d style).view? h = some ⟨h, s⟩ ∨
      opensSilently d h.text = true := by
  obtain ⟨ss, hall⟩ := Engine.ofDialect_read_eq_ok_iff.mp hread
  rcases maybeQuery_of_parseAll (eq_ok_of_mapError hall) hs with hgate | hsilent
  · refine .inl ⟨hgate, ?_⟩
    rw [Engine.view?, if_pos hgate, hread]
  · exact .inr hsilent

/-- A query in parentheses, with a verb behind them. -/
theorem view?_of_read_parenthesized :
    ∃ s, (Engine.ofDialect .generic {}).read (Host.quoted "(SELECT a FROM t)").text = .ok s ∧
      Usage.Kind.of s ≠ .other ∧
      (Engine.ofDialect .generic {}).view? (.quoted "(SELECT a FROM t)") =
        some ⟨.quoted "(SELECT a FROM t)", s⟩ := by
  have hreads : Usage.readsQuery .generic "(SELECT a FROM t)" (fun _ => true) = true := by
    decide +kernel
  obtain ⟨q, hall, -⟩ := Usage.exists_of_readsQuery hreads
  have hread : (Engine.ofDialect .generic {}).read (Host.quoted "(SELECT a FROM t)").text =
      .ok (.query q) := Engine.ofDialect_read_eq_ok_iff.mpr ⟨[], hall⟩
  refine ⟨.query q, hread, nofun, ?_⟩
  rcases view?_of_read hread nofun with ⟨-, hview⟩ | hsilent
  · exact hview
  · exact absurd hsilent (by decide +kernel)

/-- `VALUES` opens a query by itself, and no verb of the gate stands behind it. -/
theorem values_turned_away :
    (∃ q, (Engine.ofDialect .generic {}).read "VALUES (1)" = .ok (.query q)) ∧
      maybeQuery "VALUES (1)" = false := by
  have hreads : Usage.readsQuery .generic "VALUES (1)" (fun _ => true) = true := by decide +kernel
  obtain ⟨q, hall, -⟩ := Usage.exists_of_readsQuery hreads
  exact ⟨⟨q, Engine.ofDialect_read_eq_ok_iff.mpr ⟨[], hall⟩⟩, by decide +kernel⟩

end EmbeddedSql.Gate
