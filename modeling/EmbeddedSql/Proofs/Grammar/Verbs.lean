import EmbeddedSql.Proofs.Grammar.Opening
import EmbeddedSql.Usage

/-! The words that statements about rows open with.

Semicolons may stand in front of a text, and parentheses in front of a query. The first token
behind them decides what is read: only few words open a query or a change of rows
(`opening_of_parseAll`), and every other word opens a statement that is nothing but wording. -/
namespace EmbeddedSql.Sql

open Grammar

/-! ### Steps that look at one token -/

section
variable {α : Type} (setting : Setting) (left : List Lexeme)

theorem peekIs_bind (k : String) (f : Bool → Parser α) :
    (peekIs k >>= f) setting left = f (isKeyword k (tokenAt 0 left)) setting left := rfl

theorem peek_bind (f : Token → Parser α) :
    (peek >>= f) setting left = f (tokenAt 0 left) setting left := rfl

theorem allows_bind (feature : Dialect → Bool) (f : Bool → Parser α) :
    (allows feature >>= f) setting left = f (feature setting.dialect) setting left := rfl

theorem word_bind (k : String) (f : Bool → Parser α) :
    (word k >>= f) setting left = f (isKeyword k (tokenAt 0 left)) setting
      (if isKeyword k (tokenAt 0 left) then left.drop 1 else left) := by
  have hword : word k setting left =
      (if isKeyword k (tokenAt 0 left) = true then (do skip 1; return true : Parser Bool)
        else return false) setting left := rfl
  change (word k setting left >>= fun (b, behind) => f b setting behind) = _
  rw [hword]
  cases isKeyword k (tokenAt 0 left) <;> rfl

theorem sign_bind (s : String) (f : Bool → Parser α) :
    (sign s >>= f) setting left = f (decide (tokenAt 0 left = .sign s)) setting
      (if tokenAt 0 left = .sign s then left.drop 1 else left) := by
  have hsign : sign s setting left =
      (if decide (tokenAt 0 left = .sign s) = true then (do skip 1; return true : Parser Bool)
        else return false) setting left := rfl
  change (sign s setting left >>= fun (b, behind) => f b setting behind) = _
  rw [hsign]
  by_cases h : tokenAt 0 left = .sign s
  · rw [if_pos (decide_eq_true h), decide_eq_true h, if_pos h]
    rfl
  · rw [if_neg (by simpa using h), decide_eq_false h, if_neg h]
    rfl

variable {setting left}

theorem isKeyword_of_not_mem {ks : List String} {k : String} {t : Token}
    (h : isKeywordOf ks t = false) (hk : k ∈ ks) : isKeyword k t = false := by
  cases t with
  | word value quote keyword =>
    simp only [isKeywordOf, List.contains_eq_mem, decide_eq_false_iff_not] at h
    simp only [isKeyword, decide_eq_false_iff_not]
    exact fun heq => h (heq ▸ hk)
  | _ => rfl

theorem isKeywordOf_of_subset {ks ks' : List String} {t : Token}
    (h : isKeywordOf ks t = false) (hsub : ks' ⊆ ks) : isKeywordOf ks' t = false := by
  cases t with
  | word value quote keyword =>
    simp only [isKeywordOf, List.contains_eq_mem, decide_eq_false_iff_not] at h ⊢
    exact fun hmem => h (hsub hmem)
  | _ => rfl

/-- A keyword that is not ahead is not taken. -/
theorem word_bind_absent {k : String} {f : Bool → Parser α}
    (h : isKeyword k (tokenAt 0 left) = false) :
    (word k >>= f) setting left = f false setting left := by
  rw [word_bind, h]
  rfl

theorem oneOf_bind_absent {ks : List String} {f : Option String → Parser α}
    (h : isKeywordOf ks (tokenAt 0 left) = false) :
    (oneOf ks >>= f) setting left = f none setting left := by
  have hnone : oneOf ks setting left = .ok (none, left) := by
    unfold oneOf
    rw [peek_bind]
    cases hfirst : tokenAt 0 left with
    | word value quote keyword =>
      rw [hfirst] at h
      have hkeyword : ks.contains keyword = false := h
      dsimp only
      rw [if_neg (ne_true_of_eq_false hkeyword)]
      rfl
    | _ => rfl
  change (oneOf ks setting left >>= fun (k, behind) => f k setting behind) = _
  rw [hnone]
  rfl

end

/-! ### Queries -/

/-- The words that a query opens with. -/
def queryVerbs : List String :=
  ["SELECT", "FROM", "VALUES", "VALUE", "TABLE", "WITH", "INSERT", "UPDATE", "DELETE", "MERGE"]

section
variable {n : Nested} {setting : Setting} {left rest : List Lexeme}

theorem change_bind_absent {α : Type} {f : Option Statement → Parser α}
    (h : isKeywordOf queryVerbs (tokenAt 0 left) = false) :
    (change n >>= f) setting left = f none setting left := by
  have absent {k : String} (hk : k ∈ queryVerbs) := isKeyword_of_not_mem h hk
  have hchange : change n setting left = .ok (none, left) := by
    unfold change
    rw [word_bind_absent (absent (by decide))]
    change (word "UPDATE" >>= _) setting left = _
    rw [word_bind_absent (absent (by decide))]
    change (word "DELETE" >>= _) setting left = _
    rw [word_bind_absent (absent (by decide))]
    change (word "MERGE" >>= _) setting left = _
    rw [word_bind_absent (absent (by decide))]
    rfl
  change (change n setting left >>= fun (s, behind) => f s setting behind) = _
  rw [hchange]
  rfl

theorem exists_of_bodyStart {b : Body} (h : bodyStart n setting left = .ok (b, rest))
    (hno : isKeywordOf queryVerbs (tokenAt 0 left) = false) :
    tokenAt 0 left = .sign "(" ∧ ∃ q behind, n.query setting (left.drop 1) = .ok (q, behind) := by
  have absent {k : String} (hk : k ∈ queryVerbs) := isKeyword_of_not_mem hno hk
  unfold bodyStart at h
  rw [peekIs_bind, allows_bind, peekIs_bind, absent (by decide), absent (by decide),
    Bool.and_false, Bool.or_false, if_neg Bool.false_ne_true, sign_bind] at h
  by_cases hopen : tokenAt 0 left = .sign "("
  · rw [if_pos (decide_eq_true hopen), if_pos hopen] at h
    obtain ⟨q, behind, hq, -⟩ := exists_of_reading_bind h
    exact ⟨hopen, q, behind, hq⟩
  · rw [if_neg (by simpa using hopen), if_neg hopen,
      oneOf_bind_absent (isKeywordOf_of_subset hno (by decide))] at h
    dsimp only at h
    rw [word_bind_absent (absent (by decide)), if_neg Bool.false_ne_true] at h
    cases h

theorem exists_of_query {q : Query} (h : Grammar.query n setting left = .ok (q, rest))
    (hno : isKeywordOf queryVerbs (tokenAt 0 left) = false) :
    tokenAt 0 left = .sign "(" ∧ ∃ q behind, n.query setting (left.drop 1) = .ok (q, behind) := by
  unfold Grammar.query at h
  rw [word_bind_absent (isKeyword_of_not_mem hno (by decide)), if_neg Bool.false_ne_true] at h
  obtain ⟨_, _, ⟨⟩, h⟩ := exists_of_reading_bind h
  dsimp only at h
  rw [change_bind_absent hno] at h
  obtain ⟨b, _, hbody, -⟩ := exists_of_reading_bind h
  obtain ⟨start, _, hstart, -⟩ := exists_of_reading_bind hbody
  exact exists_of_bodyStart hstart hno

/-- What is read behind parentheses and semicolons. -/
def openingToken (left : List Lexeme) : Token :=
  tokenAt 0 (left.dropWhile fun l => l.token = .sign ";" || l.token = .sign "(")

/-- It is a token of the text, unless nothing else stands there. -/
theorem openingToken_mem (left : List Lexeme) :
    openingToken left = .endOfInput ∨ ∃ l ∈ left, l.token = openingToken left := by
  unfold openingToken
  cases hdrop : left.dropWhile fun l => l.token = .sign ";" || l.token = .sign "(" with
  | nil => exact .inl rfl
  | cons l rest =>
    have hmem : l ∈ left.dropWhile fun l => l.token = .sign ";" || l.token = .sign "(" := by
      rw [hdrop]
      exact List.mem_cons_self ..
    exact .inr ⟨l, (List.dropWhile_sublist _).subset hmem, rfl⟩

theorem openingToken_of_keyword {ks : List String}
    (h : isKeywordOf ks (tokenAt 0 left) = true) : openingToken left = tokenAt 0 left := by
  cases left with
  | nil => rfl
  | cons l left =>
    have hword : ¬ (l.token = .sign ";" ∨ l.token = .sign "(") := by
      rintro (heq | heq) <;> simp [tokenAt, heq, isKeywordOf] at h
    simp [openingToken, hword]

theorem openingToken_of_sign (h : tokenAt 0 left = .sign ";" ∨ tokenAt 0 left = .sign "(") :
    openingToken left = openingToken (left.drop 1) := by
  cases left with
  | nil => rfl
  | cons l left =>
    have hsign : l.token = .sign ";" ∨ l.token = .sign "(" := h
    simp [openingToken, hsign]

/-- A query opens with one of few words, behind any number of parentheses. -/
theorem opening_of_query {depth : Nat} {q : Query}
    (h : (Nested.within depth).query setting left = .ok (q, rest)) :
    isKeywordOf queryVerbs (openingToken left) = true := by
  induction depth generalizing left rest q with
  | zero => cases h
  | succ depth ih =>
    cases hfirst : isKeywordOf queryVerbs (tokenAt 0 left) with
    | true => rwa [openingToken_of_keyword hfirst]
    | false =>
      obtain ⟨hopen, q, behind, hq⟩ := exists_of_query h hfirst
      rw [openingToken_of_sign (.inr hopen)]
      exact ih hq

/-! ### Statements -/

/-- Words that other changes of rows open with. -/
def rowVerbs : List String := "REPLACE" :: queryVerbs

theorem rowStatement_verb {verb : String} {left : List Lexeme} {p : Parser Statement}
    (h : rowStatement n verb left = some p) : verb ∈ rowVerbs := by
  unfold rowStatement at h
  split at h
  all_goals first | (cases h; done) | decide

theorem opening_of_statementOf {verb : String} {s : Statement} {start : List Lexeme}
    (h : statementOf n verb start setting left = .ok (s, rest)) :
    verb ∈ rowVerbs ∨ ∃ w, s = .other w := by
  cases hrow : rowStatement n verb start with
  | some p => exact .inl (rowStatement_verb hrow)
  | none =>
    right
    unfold statementOf at h
    rw [hrow] at h
    generalize (transferStatement n verb <|> _) = wording at h
    cases wording with
    | none => cases h
    | some p =>
      obtain ⟨d, behind, -, h⟩ := exists_of_reading_bind h
      split at h
      · have hother : (p >>= fun w => pure (.other w)) setting behind = .ok (s, rest) := h
        obtain ⟨w, _, -, ⟨⟩⟩ := exists_of_reading_bind hother
        exact ⟨w, rfl⟩
      · cases h

/-! ### Readings that give nothing back -/

/-- A reading that gives something unless it fails. -/
def Gives {α : Type} (p : Parser (Option α)) : Prop :=
  ∀ setting left rest, p setting left ≠ .ok (none, rest)

/-- A reading of `left` that takes nothing if it gives nothing. -/
def Stays {α : Type} (left : List Lexeme) (p : Parser (Option α)) : Prop :=
  ∀ setting rest, p setting left = .ok (none, rest) → rest = left

/-- A question that takes nothing if the answer is no. -/
def Asks (p : Parser Bool) : Prop :=
  ∀ setting left rest, p setting left = .ok (false, rest) → rest = left

section
variable {α β : Type} {left : List Lexeme}

theorem Gives.some (p : Parser α) : Gives (do return some (← p)) := by
  intro setting left rest h
  obtain ⟨_, _, -, ⟨⟩⟩ := exists_of_reading_bind h

theorem Gives.bind (p : Parser β) {f : β → Parser (Option α)} (hf : ∀ b, Gives (f b)) :
    Gives (p >>= f) := by
  intro setting left rest h
  obtain ⟨b, behind, -, h⟩ := exists_of_reading_bind h
  exact hf b setting behind rest h

theorem Gives.stays {p : Parser (Option α)} (h : Gives p) : Stays left p :=
  fun setting rest heq => absurd heq (h setting left rest)

theorem Stays.none : Stays (α := α) left (pure none) := by
  rintro setting rest ⟨⟩
  rfl

theorem Stays.get {f : List Lexeme → Parser (Option α)} (h : Stays left (f left)) :
    Stays left (get >>= f) := h

theorem Stays.dialect {f : Dialect → Parser (Option α)} (h : ∀ d, Stays left (f d)) :
    Stays left (dialect >>= f) := fun setting => h setting.dialect setting

theorem Stays.ite {c : Prop} [Decidable c] {p q : Parser (Option α)} (hp : Stays left p)
    (hq : Stays left q) : Stays left (if c then p else q) := by
  split
  · exact hp
  · exact hq

theorem Stays.ask {ask : Parser Bool} (hask : Asks ask) {p q : Parser (Option α)} (hp : Gives p)
    (hq : Stays left q) : Stays left (do if ← ask then p else q) := by
  intro setting rest h
  obtain ⟨b, behind, hb, hrest⟩ := exists_of_reading_bind h
  cases b with
  | true => exact absurd hrest (hp setting behind rest)
  | false =>
    obtain rfl := hask setting left behind hb
    exact hq setting rest hrest

theorem asks_words (ks : List String) : Asks (words ks) := by
  intro setting left rest h
  have hwords : words ks setting left =
      (if startsWith ks left = true then (do skip ks.length; return true : Parser Bool)
        else return false) setting left := rfl
  rw [hwords] at h
  split at h
  · cases h
  · cases h
    rfl

theorem asks_word (k : String) : Asks (word k) := by
  intro setting left rest h
  have hword := word_bind setting left k pure
  rw [bind_pure, h] at hword
  obtain ⟨hfalse, hrest⟩ := Prod.mk.inj (Except.ok.inj hword)
  rw [hrest, if_neg (by simp [← hfalse])]

theorem Asks.or {p q : Parser Bool} (hp : Asks p) (hq : Asks q) : Asks (p <||> q) := by
  intro setting left rest h
  unfold orM at h
  obtain ⟨b, behind, hb, hrest⟩ := exists_of_reading_bind h
  cases b with
  | true => cases hrest
  | false =>
    obtain rfl := hp setting left behind hb
    exact hq setting _ rest hrest

end

theorem stays_givenBack (left : List Lexeme) (p : Parser (Option Wording)) :
    Stays left (do skip 1; ownStatement.givenBack left p) := by
  intro setting rest h
  obtain ⟨_, _, -, h⟩ := exists_of_reading_bind h
  obtain ⟨w, _, -, h⟩ := exists_of_reading_bind h
  cases w with
  | some w => cases h
  | none =>
    cases h
    rfl

/-- A statement that a dialect does not read in its own way is left to all of them. -/
theorem stays_ownStatement (left : List Lexeme) : Stays left (ownStatement n) := by
  unfold ownStatement
  refine .get (.dialect fun d => ?_)
  split
  · exact .ite (Gives.bind _ fun _ => .some _).stays .none
  · exact .ask (asks_words _) (.some _) (.ask (asks_words _) (.some _) .none)
  · exact (Gives.bind _ fun _ => .some _).stays
  · exact .ask (asks_words _) (.some _) (.ask (asks_words _) (.some _) .none)
  · exact .ask (asks_words _) (.some _) (.ask (asks_words _) (.some _) .none)
  · exact .ask (asks_words _) (.some _) .none
  · exact stays_givenBack left _
  · exact stays_givenBack left _
  · exact .ask ((asks_word _).or (asks_word _)) (.some _)
      (.ask ((asks_word _).or (asks_word _)) (.some _) .none)
  · exact .none

/-! ### The first statement -/

theorem isKeywordOf_mono {ks ks' : List String} {t : Token} (h : isKeywordOf ks t = true)
    (hsub : ks ⊆ ks') : isKeywordOf ks' t = true := by
  cases hno : isKeywordOf ks' t with
  | true => rfl
  | false => rw [isKeywordOf_of_subset hno hsub] at h; cases h

theorem opening_of_statement {depth : Nat} {s : Statement}
    (h : Grammar.statement (Nested.within depth) setting left = .ok (s, rest))
    (hs : ∀ w, s ≠ .other w) : isKeywordOf rowVerbs (openingToken left) = true := by
  have query {q : Query} {behind : List Lexeme}
      (hq : (Nested.within depth).query setting left = .ok (q, behind)) :=
    isKeywordOf_mono (opening_of_query hq) (List.subset_cons_self "REPLACE" queryVerbs)
  unfold Grammar.statement at h
  obtain ⟨own, behind, hown, hbehind⟩ := exists_of_reading_bind h
  cases own with
  | some w =>
    cases hbehind
    exact absurd rfl (hs w)
  | none =>
    obtain rfl := stays_ownStatement left setting behind hown
    obtain ⟨start, between, hget, hread⟩ := exists_of_reading_bind hbehind
    cases hget
    rw [peek_bind] at hread
    change ReaderT.run (_ : Parser Statement) setting behind = _ at hread
    split at hread
    next verb hfirst =>
      split at hread
      · obtain ⟨q, _, hq, -⟩ := exists_of_reading_bind hread
        exact query hq
      · obtain ⟨_, _, -, hverb⟩ := exists_of_reading_bind hread
        rcases opening_of_statementOf hverb with hverb | ⟨w, rfl⟩
        · have hkeyword : isKeywordOf rowVerbs (tokenAt 0 behind) = true := by
            rw [hfirst]
            exact List.contains_iff_mem.mpr hverb
          rwa [openingToken_of_keyword hkeyword]
        · exact absurd rfl (hs w)
    next =>
      obtain ⟨q, _, hq, -⟩ := exists_of_reading_bind hread
      exact query hq
    next => cases hread

theorem opening_of_statements {fuel : Nat} {s : Statement} {ss : List Statement}
    (h : Grammar.statements fuel setting left = .ok (s :: ss, rest)) (hs : ∀ w, s ≠ .other w) :
    isKeywordOf rowVerbs (openingToken left) = true := by
  induction fuel generalizing left with
  | zero => cases h
  | succ fuel ih =>
    have hread : Grammar.statements (fuel + 1) setting left = (sign ";" >>= fun b =>
        if b = true then Grammar.statements fuel
        else peek >>= fun t =>
          if t = .endOfInput then pure []
          else (Nested.within depthLimit).statement >>= statementsBehind fuel) setting left := rfl
    rw [hread, sign_bind] at h
    by_cases hsemicolon : tokenAt 0 left = .sign ";"
    · rw [if_pos (decide_eq_true hsemicolon), if_pos hsemicolon] at h
      rw [openingToken_of_sign (.inl hsemicolon)]
      exact ih h
    · rw [if_neg (by simpa using hsemicolon), if_neg hsemicolon, peek_bind] at h
      split at h
      · cases h
      · obtain ⟨t, behind, ht, h⟩ := exists_of_reading_bind h
        obtain rfl := eq_of_statementsBehind h
        exact opening_of_statement ht hs

end

/-- **A statement about rows opens with one of few words**: if the first statement of a text is a
query, an `UPDATE`, a `DELETE` or an `INSERT`, so does the text. -/
theorem opening_of_parseAll {d : Dialect} {text : String} {tokens : List Lexeme} {s : Statement}
    {ss : List Statement} (hlex : lex d text = .ok tokens)
    (h : Statement.parseAll d text = .ok (s :: ss)) (hs : Usage.Kind.of s ≠ .other) :
    isKeywordOf rowVerbs (openingToken tokens) = true := by
  rw [Statement.parseAll, hlex] at h
  dsimp only at h
  split at h
  next hread =>
    cases h
    exact opening_of_statements hread fun w hw => hs (hw ▸ rfl)
  next => cases h

end EmbeddedSql.Sql
