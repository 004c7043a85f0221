import EmbeddedSql.Proofs.Outcome
import EmbeddedSql.Sql.Lexer
import Mathlib.Data.List.Infix

/-! Laws of the lexer.

No reader turns back: what is left behind it is an end of what was left before. So a word that is
taken for a keyword stands in the text as it is, and the keyword is its upper case
(`standsWithin_of_lex`). -/
namespace EmbeddedSql.Sql

open Text

/-! ### Readers -/

/-- What is left behind a reading is an end of what was left before it. -/
def Forward {α : Type} (cs : List Char) (read : Reading α) : Prop :=
  ∀ a behind, read = .ok (a, behind) → behind.rest <:+ cs

/-- The same of a reader without a reason for its failure. -/
def ForwardSome {α : Type} (cs : List Char) (read : Option (α × Cursor)) : Prop :=
  ∀ a behind, read = some (a, behind) → behind.rest <:+ cs

section
variable {α β : Type} {cs : List Char}

theorem Forward.ok {a : α} {behind : Cursor} (h : behind.rest <:+ cs) :
    Forward cs (.ok (a, behind)) := by
  rintro _ _ ⟨⟩
  exact h

theorem Forward.fail (place : Position) (fault : LexicalFault) :
    Forward (α := α) cs (Cursor.fail place fault) := nofun

theorem Forward.map {read : Reading α} (h : Forward cs read)
    {f : α × Cursor → β × Cursor} (hf : ∀ a k, (f (a, k)).2 = k) :
    Forward cs (read.map f) := by
  intro b behind hb
  obtain ⟨⟨a, k⟩, ha, heq⟩ := exists_of_map_eq_ok hb
  obtain rfl : k = behind := (hf a k).symm.trans (congrArg Prod.snd heq)
  exact h a k ha

theorem Forward.bind {read : Reading α} (h : Forward cs read) {f : α × Cursor → Reading β}
    (hf : ∀ a behind, Forward behind.rest (f (a, behind))) : Forward cs (read.bind f) := by
  intro b behind hb
  obtain ⟨⟨a, between⟩, ha, hb⟩ := exists_of_bind_eq_ok hb
  exact (hf a between b behind hb).trans (h a between ha)

theorem Forward.trans {read : Reading α} {ds : List Char} (h : Forward cs read)
    (hcs : cs <:+ ds) : Forward ds read := fun a behind ha => (h a behind ha).trans hcs

theorem ForwardSome.trans {read : Option (α × Cursor)} {ds : List Char} (h : ForwardSome cs read)
    (hcs : cs <:+ ds) : ForwardSome ds read := fun a behind ha => (h a behind ha).trans hcs

theorem ForwardSome.some {a : α} {behind : Cursor} (h : behind.rest <:+ cs) :
    ForwardSome cs (some (a, behind)) := by
  rintro _ _ ⟨⟩
  exact h

theorem ForwardSome.none : ForwardSome (α := α) cs none := nofun

theorem ForwardSome.map {read : Option (α × Cursor)} (h : ForwardSome cs read)
    {f : α × Cursor → β × Cursor} (hf : ∀ a k, (f (a, k)).2 = k) :
    ForwardSome cs (read.map f) := by
  intro b behind hb
  obtain ⟨⟨a, k⟩, ha, heq⟩ := Option.map_eq_some_iff.mp hb
  obtain rfl : k = behind := (hf a k).symm.trans (congrArg Prod.snd heq)
  exact h a k ha

end

@[simp] theorem rest_skip (n : Nat) (cursor : Cursor) :
    (cursor.skip n).rest = cursor.rest.drop n := by
  induction n generalizing cursor with
  | zero => rfl
  | succ n ih =>
    obtain ⟨_ | ⟨c, cs⟩, p⟩ := cursor
    · rfl
    · exact ih ⟨cs, p.after c⟩

/-- What is taken stands in front of what is left. -/
theorem append_takeChars (keep : Char → List Char → Bool) (cs : List Char) (p : Position) :
    (Cursor.takeChars keep cs p).1 ++ (Cursor.takeChars keep cs p).2.rest = cs := by
  induction cs generalizing p with
  | nil => rfl
  | cons c cs ih =>
    rw [Cursor.takeChars]
    split
    · exact congrArg (c :: ·) (ih (p.after c))
    · rfl

theorem append_takeWhile (keep : Char → Bool) (cursor : Cursor) :
    (cursor.takeWhile keep).1 ++ (cursor.takeWhile keep).2.rest = cursor.rest :=
  append_takeChars _ _ _

theorem suffix_takeWhile (keep : Char → Bool) (cursor : Cursor) :
    (cursor.takeWhile keep).2.rest <:+ cursor.rest := ⟨_, append_takeWhile keep cursor⟩

theorem suffix_skip (n : Nat) (cursor : Cursor) : (cursor.skip n).rest <:+ cursor.rest := by
  rw [rest_skip]
  exact List.drop_suffix n cursor.rest

/-! ### Texts in quotes -/

theorem suffix_cons₂ (c d : Char) (cs : List Char) : cs <:+ c :: d :: cs :=
  (List.suffix_cons d cs).trans (List.suffix_cons c _)

theorem forward_readQuoted (quote : Char) (backslash keepWildcards : Bool) (cs : List Char)
    (p : Position) : ForwardSome cs (readQuoted quote backslash keepWildcards cs p) := by
  fun_induction readQuoted quote backslash keepWildcards cs p with
  | case1 => exact .none
  | case2 => exact .some List.nil_suffix
  | case3 => exact .none
  | case4 _ _ ih => exact (ih.trans (suffix_cons₂ _ _ _)).map fun _ _ => rfl
  | case5 => exact .some (List.suffix_cons _ _)
  | case6 _ _ _ _ _ _ ih =>
    exact (ih.trans (suffix_cons₂ _ _ _)).map fun _ _ => by dsimp only; split <;> rfl
  | case7 _ _ _ _ _ _ ih => exact (ih.trans (List.suffix_cons _ _)).map fun _ _ => rfl

theorem forward_readTriple (quote : Char) (backslash : Bool) (run : Nat) (read cs : List Char)
    (p : Position) : ForwardSome cs (readTriple quote backslash run read cs p) := by
  fun_induction readTriple quote backslash run read cs p with
  | case1 => exact .none
  | case2 => exact .some (List.suffix_cons _ _)
  | case3 _ _ _ _ _ ih => exact ih.trans (List.suffix_cons _ _)
  | case4 => exact .none
  | case5 _ _ _ _ _ _ _ _ ih => exact ih.trans (suffix_cons₂ _ _ _)
  | case6 _ _ _ _ _ _ _ ih => exact ih.trans (List.suffix_cons _ _)

theorem forward_readEscaped (fuel : Nat) (cursor : Cursor) :
    ForwardSome cursor.rest (readEscaped fuel cursor) := by
  fun_induction readEscaped fuel cursor with
  | case1 => exact .none
  | case2 => exact .none
  | case3 _ _ _ _ ih => exact (ih.trans (suffix_skip _ _)).map fun _ _ => rfl
  | case4 => exact .some (suffix_skip _ _)
  | case5 _ _ _ _ _ ih =>
    intro _ behind h
    simp only [Option.bind_eq_bind, Option.bind_eq_some_iff] at h
    obtain ⟨⟨_, taken⟩, -, ⟨_, _⟩, hread, heq⟩ := h
    cases heq
    exact (ih taken _ _ hread).trans (suffix_skip _ _)
  | case6 => exact .none
  | case7 _ _ _ _ _ _ _ _ _ ih => exact (ih.trans (suffix_skip _ _)).map fun _ _ => rfl

theorem forward_codePointAt (n value : Nat) (cursor : Cursor) :
    Forward cursor.rest (codePointAt n value cursor) := by
  fun_induction codePointAt n value cursor with
  | case1 => exact .ok List.suffix_rfl
  | case2 => exact .fail _ _
  | case3 => exact .fail _ _
  | case4 _ _ _ _ _ _ _ _ ih => exact ih.trans (suffix_skip _ _)
  | case5 => exact .fail _ _

theorem forward_readUnicode (fuel : Nat) (cursor : Cursor) :
    Forward cursor.rest (readUnicode fuel cursor) := by
  fun_induction readUnicode fuel cursor with
  | case1 => exact .fail _ _
  | case2 => exact .fail _ _
  | case3 _ _ _ _ ih => exact (Forward.trans ih (suffix_skip _ _)).map fun _ _ => rfl
  | case4 => exact .ok (suffix_skip _ _)
  | case5 _ _ _ _ ih => exact (Forward.trans ih (suffix_skip _ _)).map fun _ _ => rfl
  | case6 _ _ _ _ ih =>
    exact ((forward_codePointAt _ _ _).trans (suffix_skip _ _)).bind fun _ behind =>
      (ih behind).map fun _ _ => rfl
  | case7 _ _ _ _ _ _ ih =>
    exact ((forward_codePointAt _ _ _).trans (suffix_skip _ _)).bind fun _ behind =>
      (ih behind).map fun _ _ => rfl
  | case8 _ _ _ _ _ _ _ _ _ _ ih =>
    exact (Forward.trans ih (suffix_skip _ _)).map fun _ _ => rfl

theorem forward_textAt (quote : Char) (backslash keepWildcards : Bool) (cursor : Cursor) :
    Forward cursor.rest (textAt quote backslash keepWildcards cursor) := by
  unfold textAt
  dsimp only
  split
  next hread => exact .ok ((forward_readQuoted _ _ _ _ _ _ _ hread).trans (suffix_skip 1 cursor))
  next => exact .fail _ _

theorem forward_nameAt (opening : Char) (cursor : Cursor) :
    Forward cursor.rest (nameAt opening cursor) := by
  unfold nameAt
  dsimp only
  split
  next hread => exact .ok ((forward_readQuoted _ _ _ _ _ _ _ hread).trans (suffix_skip 1 cursor))
  next => exact .fail _ _

theorem forward_readDollars (afterDollar : Bool) (cs : List Char) (p : Position) :
    ForwardSome cs (readDollars afterDollar cs p) := by
  fun_induction readDollars afterDollar cs p with
  | case1 => exact .none
  | case2 => exact .some (List.suffix_cons _ _)
  | case3 _ _ _ _ ih => exact (ih.trans (List.suffix_cons _ _)).map fun _ _ => rfl
  | case4 _ _ _ _ ih => exact ih.trans (List.suffix_cons _ _)
  | case5 _ _ _ _ _ _ ih => exact (ih.trans (List.suffix_cons _ _)).map fun _ _ => rfl

theorem forward_readUntil (ending cs : List Char) (p : Position) :
    ForwardSome cs (readUntil ending cs p) := by
  fun_induction readUntil ending cs p with
  | case1 => exact .none
  | case2 => exact .some (suffix_skip _ _)
  | case3 _ _ _ _ ih => exact (ih.trans (List.suffix_cons _ _)).map fun _ _ => rfl

theorem suffix_readComment {nested : Bool} {depth : Nat} {cs body : List Char} {p : Position}
    {behind : Cursor} (h : readComment nested depth cs p = (body, some behind)) :
    behind.rest <:+ cs := by
  fun_induction readComment nested depth cs p generalizing body with
  | case1 => cases h
  | case2 => cases h
  | case3 =>
    rename_i hread ih
    obtain ⟨-, rfl⟩ := Prod.mk.inj h
    exact (ih hread).trans (suffix_cons₂ _ _ _)
  | case4 =>
    obtain ⟨-, ⟨⟩⟩ := Prod.mk.inj h
    exact suffix_cons₂ _ _ _
  | case5 =>
    rename_i hread ih
    obtain ⟨-, rfl⟩ := Prod.mk.inj h
    exact (ih hread).trans (suffix_cons₂ _ _ _)
  | case6 =>
    rename_i hread ih
    obtain ⟨-, rfl⟩ := Prod.mk.inj h
    exact (ih hread).trans (List.suffix_cons _ _)

/-! ### Words, numbers and signs -/

/-- A word that is taken for a keyword stands at the start of the text, and the keyword is its
upper case. -/
def Token.StandsAt (t : Token) (cs : List Char) : Prop :=
  ∀ value quote keyword, t = .word value quote keyword →
    keyword = "" ∨ value.toList <+: cs ∧ keyword = upper value

/-- A reading that goes forward and gives words as they stand at its start. -/
def Faithful (cs : List Char) (read : Reading Token) : Prop :=
  ∀ t behind, read = .ok (t, behind) → behind.rest <:+ cs ∧ t.StandsAt cs

theorem Faithful.ok {cs : List Char} {t : Token} {behind : Cursor} (h : behind.rest <:+ cs)
    (ht : t.StandsAt cs) : Faithful cs (.ok (t, behind)) := by
  rintro _ _ ⟨⟩
  exact ⟨h, ht⟩

theorem Faithful.fail {cs : List Char} (place : Position) (fault : LexicalFault) :
    Faithful cs (Cursor.fail place fault) := nofun

theorem standsAt_makeWord {taken cs : List Char} (h : taken <+: cs) :
    (makeWord (String.ofList taken) none).StandsAt cs := by
  rintro value quote keyword ⟨⟩
  exact .inr ⟨by rwa [String.toList_ofList], rfl⟩

theorem standsAt_quoted {cs : List Char} (value : String) (quote : Char) :
    (makeWord value (some quote)).StandsAt cs := by
  rintro _ _ _ ⟨⟩
  exact .inl rfl

theorem Forward.faithful_text {cs : List Char} {read : Reading String} (h : Forward cs read)
    (kind : TextKind) : Faithful cs (read.map fun (s, k) => (.text kind s, k)) := by
  intro t behind hread
  obtain ⟨⟨s, between⟩, hs, heq⟩ := exists_of_map_eq_ok hread
  cases heq
  exact ⟨h s _ hs, nofun⟩

theorem faithful_oneOrThreeAt (quote : Char) (backslash keepWildcards : Bool)
    (one three : TextKind) {cursor : Cursor} {cs : List Char} (hcs : cursor.rest <:+ cs) :
    Faithful cs (oneOrThreeAt quote backslash keepWildcards one three cursor) := by
  have hsingle : Faithful cs
      (oneOrThreeAt.single quote backslash keepWildcards one cursor) := by
    unfold oneOrThreeAt.single
    dsimp only
    split
    next hread =>
      exact .ok
          ((forward_readQuoted _ _ _ _ _ _ _ hread).trans ((suffix_skip 1 cursor).trans hcs)) nofun
    next => exact .fail _ _
  unfold oneOrThreeAt
  dsimp only
  split
  · split
    · split
      · split
        next hread =>
          exact .ok
            ((forward_readTriple _ _ _ _ _ _ _ _ hread).trans ((suffix_skip 3 cursor).trans hcs))
            nofun
        next => exact .fail _ _
      · exact .ok ((suffix_skip 2 cursor).trans hcs) nofun
    · exact hsingle
  · split
    · exact .ok ((suffix_skip 2 cursor).trans hcs) nofun
    · exact hsingle
  · exact hsingle

theorem faithful_dollarAt (d : Dialect) (cursor : Cursor) :
    Faithful cursor.rest (dollarAt d cursor) := by
  have hinside := suffix_skip 1 cursor
  unfold dollarAt
  dsimp only
  split
  · split
    next hread =>
      exact .ok ((forward_readDollars _ _ _ _ _ hread).trans ((suffix_skip 1 _).trans hinside))
        nofun
    next => exact .fail _ _
  · have hname := (suffix_takeWhile (fun c =>
      isAlphanumeric c || c = '_' || (c = '$' && d.dollarPlaceholders)) _).trans hinside
    split
    · split
      next hread =>
        exact .ok ((forward_readUntil _ _ _ _ _ hread).trans ((suffix_skip 1 _).trans hname)) nofun
      next => exact .fail _ _
    · exact .ok hname nofun

theorem faithful_innerNameAt (inner : Char) (cursor : Cursor) :
    Faithful cursor.rest (innerNameAt inner cursor) := by
  have hinside := (suffix_takeWhile isBlank _).trans (suffix_skip 1 cursor)
  unfold innerNameAt
  intro t behind h
  obtain ⟨⟨name, between⟩, hname, h⟩ := exists_of_bind_eq_ok h
  have hbetween := (forward_nameAt _ _ _ _ hname).trans hinside
  dsimp only at h
  split at h
  · cases h
    exact ⟨(suffix_skip 1 _).trans ((suffix_takeWhile isBlank _).trans hbetween),
      standsAt_quoted _ _⟩
  · cases h

theorem faithful_wordAt (d : Dialect) (n : Nat) (cursor : Cursor) :
    Faithful cursor.rest (.ok (wordAt d n cursor)) := by
  have htaken : cursor.rest.take n ++ ((cursor.skip n).takeWhile d.continuesWord).1 ++
      ((cursor.skip n).takeWhile d.continuesWord).2.rest = cursor.rest := by
    rw [List.append_assoc, append_takeWhile, rest_skip, List.take_append_drop]
  exact .ok ⟨_, htaken⟩ (standsAt_makeWord ⟨_, htaken⟩)

theorem append_digitsAt (d : Dialect) (isDigit : Char → Bool) (cursor : Cursor) :
    (digitsAt d isDigit cursor).1 ++ (digitsAt d isDigit cursor).2.rest = cursor.rest :=
  append_takeChars _ _ _

theorem append_exponentAt (cursor : Cursor) :
    (exponentAt cursor).1 ++ (exponentAt cursor).2.rest = cursor.rest := by
  unfold exponentAt
  split
  · dsimp only
    generalize (if (_ || _) = true then 2 else 1) = n
    split
    · rfl
    · rw [List.append_assoc, append_takeWhile, rest_skip, List.take_append_drop]
  · rfl

/-- A dot may be taken behind what has been read. -/
theorem append_dotAt {read cs : List Char} {cursor : Cursor} (h : read ++ cursor.rest = cs) :
    (if cursor.rest.head? = some '.' then (read ++ ['.'], cursor.skip 1) else (read, cursor)).1 ++
      (if cursor.rest.head? = some '.' then (read ++ ['.'], cursor.skip 1)
        else (read, cursor)).2.rest = cs := by
  split
  next hdot =>
    obtain ⟨rest, hrest⟩ := List.head?_eq_some_iff.mp hdot
    simp [← h, hrest]
  next => exact h

/-- So may the rest of a word, in a dialect in which words start with digits. -/
theorem append_wordIf (p : Bool) (keep : Char → Bool) (cursor : Cursor) :
    (if p then cursor.takeWhile keep else ([], cursor)).1 ++
      (if p then cursor.takeWhile keep else ([], cursor)).2.rest = cursor.rest := by
  split
  · exact append_takeWhile keep cursor
  · rfl

/-- The characters that a number takes stand in front of what is left behind it. -/
theorem faithful_numberAt (d : Dialect) (previous : Option Token) (cursor : Cursor) :
    Faithful cursor.rest (numberAt d previous cursor) := by
  unfold numberAt
  split
  · split
    · exact .ok (suffix_skip 1 cursor) nofun
    · exact .fail _ _
  · have hwhole := append_digitsAt d Char.isDigit cursor
    generalize digitsAt d Char.isDigit cursor = whole at hwhole ⊢
    dsimp only
    split
    · have hhex : (digitsAt d isHexDigit (whole.2.skip 1)).2.rest <:+ (whole.2.skip 1).rest :=
        ⟨_, append_digitsAt _ _ _⟩
      exact .ok (hhex.trans ((suffix_skip 1 _).trans ⟨_, hwhole⟩)) nofun
    · have hread := append_dotAt hwhole
      generalize (if whole.2.rest.head? = some '.' then (whole.1 ++ ['.'], whole.2.skip 1)
        else (whole.1, whole.2)) = read at hread ⊢
      have hfraction := append_digitsAt d Char.isDigit read.2
      generalize digitsAt d Char.isDigit read.2 = fraction at hfraction ⊢
      have hexponent := append_exponentAt fraction.2
      generalize exponentAt fraction.2 = exponent at hexponent ⊢
      have hmore := append_wordIf (d.wordsMayStartWithDigits && !atExponent fraction.2)
        d.continuesWord exponent.2
      generalize (if (d.wordsMayStartWithDigits && !atExponent fraction.2) = true then
        exponent.2.takeWhile d.continuesWord else ([], exponent.2)) = more at hmore ⊢
      have hnumber : read.1 ++ fraction.1 ++ exponent.1 ++ exponent.2.rest = cursor.rest := by
        rw [List.append_assoc, hexponent, List.append_assoc, hfraction, hread]
      have hword : read.1 ++ fraction.1 ++ exponent.1 ++ more.1 ++ more.2.rest = cursor.rest := by
        rw [List.append_assoc, hmore, hnumber]
      split
      · exact .ok ⟨_, hread⟩ nofun
      · split
        · exact .ok ⟨_, by rw [List.append_assoc, hfraction, hread]⟩ nofun
        · split
          · exact .ok ⟨_, hword⟩ (standsAt_makeWord ⟨_, hword⟩)
          · split
            · exact .ok ⟨_, hnumber⟩ (standsAt_makeWord ⟨_, hnumber⟩)
            · split
              · exact .ok ((suffix_skip 1 _).trans ⟨_, hnumber⟩) nofun
              · exact .ok ⟨_, hnumber⟩ nofun

theorem faithful_signAt (d : Dialect) (shape : SignShape) (cursor : Cursor) :
    Faithful cursor.rest (signAt d shape cursor) := by
  have htaken := suffix_skip shape.taken cursor
  have hmore := (suffix_takeWhile d.customOperatorPart _).trans htaken
  unfold signAt
  dsimp only
  generalize hgrown : (if shape.grows = true then _ else _) = grown
  have hbehind : grown.2.rest <:+ cursor.rest := by
    rw [← hgrown]
    split
    · exact hmore
    · exact htaken
  split
  · split
    · exact .ok hbehind nofun
    · exact .fail _ _
  · exact .ok hbehind nofun

/-! ### Chunks -/

theorem faithful_markedAt? {d : Dialect} {c : Char} {cursor : Cursor} {read : Reading Token}
    (h : markedAt? d c cursor = some read) : Faithful cursor.rest read := by
  have hinside := suffix_skip 1 cursor
  have plain (kind : TextKind) (quote : Char) (backslash : Bool) :
      Faithful cursor.rest ((textAt quote backslash d.keepsWildcardEscapes (cursor.skip 1)).map
        fun x => (.text kind x.1, x.2)) :=
    ((forward_textAt _ _ _ _).trans hinside).faithful_text kind
  have triple (quote : Char) (one three : TextKind) :
      Faithful cursor.rest (oneOrThreeAt quote false d.keepsWildcardEscapes one three
        (cursor.skip 1)) := faithful_oneOrThreeAt _ _ _ _ _ hinside
  have escaped {body : List Char} {behind : Cursor}
      (hread : readEscaped (cursor.rest.length + 1) ((cursor.skip 1).skip 1) =
        some (body, behind)) : behind.rest <:+ cursor.rest :=
    (forward_readEscaped _ _ _ _ hread).trans ((suffix_skip 1 _).trans hinside)
  have unicode : Faithful cursor.rest ((readUnicode (cursor.rest.length + 1)
      ((cursor.skip 1).skip 2)).map fun x => (.text .unicode (String.ofList x.1), x.2)) := by
    intro t behind hread
    obtain ⟨⟨body, between⟩, hbody, heq⟩ := exists_of_map_eq_ok hread
    cases heq
    exact ⟨(forward_readUnicode _ _ _ _ hbody).trans ((suffix_skip 2 _).trans hinside), nofun⟩
  unfold markedAt? at h
  dsimp only at h
  split at h
  all_goals repeat' split at h
  all_goals try cases h
  all_goals first
    | exact triple _ _ _
    | exact plain _ _ _
    | exact unicode
    | exact .ok (escaped ‹_›) nofun
    | exact .fail _ _

theorem faithful_signedWordAt? {d : Dialect} {c : Char} {n : Nat} {barred : List Char}
    {cursor : Cursor} {read : Token × Cursor}
    (h : signedWordAt? d c n barred cursor = some read) : Faithful cursor.rest (.ok read) := by
  unfold signedWordAt? at h
  split at h
  · split at h
    · obtain rfl := Option.some.inj h
      exact faithful_wordAt d _ cursor
    · cases h
  · cases h

/-- A chunk that is read forward, and whose token stands at its start if it is a word. -/
def FaithfulChunk (cs : List Char) (read : Reading Chunk) : Prop :=
  ∀ chunk behind, read = .ok (chunk, behind) →
    behind.rest <:+ cs ∧ ∀ t, chunk = .token t → t.StandsAt cs

theorem FaithfulChunk.blank {cs : List Char} {shown : String} {behind : Cursor}
    (h : behind.rest <:+ cs) : FaithfulChunk cs (.ok (.blank shown, behind)) := by
  rintro _ _ ⟨⟩
  exact ⟨h, nofun⟩

theorem FaithfulChunk.ite {cs : List Char} {p : Prop} [Decidable p] {a b : Reading Chunk}
    (ha : p → FaithfulChunk cs a) (hb : ¬ p → FaithfulChunk cs b) :
    FaithfulChunk cs (if p then a else b) := by
  split
  next h => exact ha h
  next h => exact hb h

theorem FaithfulChunk.fail {cs : List Char} (place : Position) (fault : LexicalFault) :
    FaithfulChunk cs (Cursor.fail place fault) := nofun

theorem Faithful.token {cs : List Char} {read : Reading Token} (h : Faithful cs read) :
    FaithfulChunk cs (read.map fun (t, k) => (.token t, k)) := by
  intro chunk behind hchunk
  obtain ⟨⟨t, between⟩, ht, heq⟩ := exists_of_map_eq_ok hchunk
  cases heq
  obtain ⟨hbehind, hstands⟩ := h t _ ht
  exact ⟨hbehind, fun _ heq => Chunk.token.inj heq ▸ hstands⟩

theorem Forward.token {α : Type} {cs : List Char} {read : Reading α} (h : Forward cs read)
    {f : α → Token} (hf : ∀ a, (f a).StandsAt cs) :
    FaithfulChunk cs (read.map fun x => (.token (f x.1), x.2)) := by
  intro chunk behind hchunk
  obtain ⟨⟨a, between⟩, ha, heq⟩ := exists_of_map_eq_ok hchunk
  cases heq
  exact ⟨h a _ ha, fun _ heq => Chunk.token.inj heq ▸ hf a⟩

/-- A sign, or a character that is none and counts as a blank. -/
theorem faithful_signOrBlank (d : Dialect) (cursor : Cursor) :
    FaithfulChunk cursor.rest (match signShape? d cursor.rest with
      | some shape => (signAt d shape cursor).map fun (t, k) => (.token t, k)
      | none => .ok (.blank " ", cursor.skip 1)) := by
  split
  · exact (faithful_signAt d _ cursor).token
  · exact .blank (suffix_skip 1 cursor)

/-- A word that starts with a sign, or else what is read of the sign alone. -/
theorem faithful_signedWordOr {d : Dialect} {c : Char} {n : Nat} {barred : List Char}
    {cursor : Cursor} {alone : Reading Chunk} (h : FaithfulChunk cursor.rest alone) :
    FaithfulChunk cursor.rest (match signedWordAt? d c n barred cursor with
      | some read => .ok (.token read.1, read.2)
      | none => alone) := by
  split
  next hword => exact (faithful_signedWordAt? hword).token
  next => exact h

theorem faithful_chunkAt (d : Dialect) (previous : Option Token) (cursor : Cursor) :
    FaithfulChunk cursor.rest (chunkAt d previous cursor) := by
  have sign := faithful_signOrBlank d cursor
  have comment (mark : String) :
      FaithfulChunk cursor.rest (.ok (.blank (lineCommentAt d mark cursor).1,
        (lineCommentAt d mark cursor).2)) :=
    .blank ((suffix_skip 1 _).trans ((suffix_takeWhile _ _).trans (suffix_skip _ cursor)))
  have asToken {read : Token × Cursor} (h : Faithful cursor.rest (.ok read)) :
      FaithfulChunk cursor.rest (.ok (.token read.1, read.2)) := h.token
  have placeholder : ((cursor.skip 1).takeWhile isNumeric).2.rest <:+ cursor.rest :=
    (suffix_takeWhile _ _).trans (suffix_skip 1 cursor)
  unfold chunkAt
  dsimp only
  split
  · exact .blank List.suffix_rfl
  next c cs hrest =>
    have name : FaithfulChunk cursor.rest
        ((nameAt c cursor).map fun x => (.token (makeWord x.1 (some c)), x.2)) :=
      (forward_nameAt c cursor).token fun value => standsAt_quoted value c
    refine .ite (fun _ => .blank (suffix_skip 1 cursor)) fun _ => ?_
    refine .ite (fun _ => .blank (suffix_skip _ cursor)) fun _ => ?_
    refine .ite (fun _ => ?_) fun _ => ?_
    · split
      next read hmarked => exact (faithful_markedAt? hmarked).token
      next => exact asToken (faithful_wordAt d 1 cursor)
    refine .ite (fun _ => ?_) fun _ => ?_
    · refine .ite (fun _ => (faithful_oneOrThreeAt _ _ _ _ _ List.suffix_rfl).token) fun _ => ?_
      exact (forward_textAt _ _ _ _).token fun _ => nofun
    refine .ite (fun _ => name) fun _ => ?_
    split
    · split
      · exact (faithful_innerNameAt _ _).token
      · exact name
    refine .ite (fun _ => (faithful_numberAt _ _ _).token) fun _ => ?_
    split
    · exact .ite (fun _ => sign) fun _ => comment _
    · split
      next hcomment =>
        exact .blank ((suffix_readComment hcomment).trans (hrest ▸ suffix_cons₂ _ _ _))
      next => exact .fail _ _
    · exact .ite (fun _ => comment _) fun _ => sign
    · refine .ite (fun _ => comment _) fun _ => .ite (fun _ => sign) fun _ => ?_
      exact faithful_signedWordOr sign
    · exact .ite (fun _ => comment _) fun _ => sign
    · exact faithful_signedWordOr sign
    · exact .ite (fun _ => sign) fun _ => faithful_signedWordOr sign
    · exact .ite (fun _ => sign) fun _ => asToken (.ok (t := .placeholder _) placeholder nofun)
    · refine .ite (fun _ => sign) fun _ => ?_
      refine .ite (fun _ => asToken (faithful_wordAt d 1 cursor)) fun _ => ?_
      refine .ite (fun _ => (faithful_dollarAt d cursor).token) fun _ => ?_
      exact .ite (fun _ => .blank (suffix_skip 1 cursor)) fun _ =>
        asToken (.ok (t := .stray c) (suffix_skip 1 cursor) nofun)

/-! ### Texts -/

/-- A word that is taken for a keyword stands in the text, and the keyword is its upper case. -/
def Token.StandsWithin (t : Token) (cs : List Char) : Prop :=
  ∀ value quote keyword, t = .word value quote keyword →
    keyword = "" ∨ value.toList <:+: cs ∧ keyword = upper value

theorem tokens_noteBlank (shown : String) (read : List Lexeme) :
    (noteBlank shown read).map Lexeme.token = read.map Lexeme.token := by
  cases read <;> rfl

theorem standsWithin_of_lexFrom {d : Dialect} {fuel : Nat} {previous : Option Token}
    {read out : List Lexeme} {cursor : Cursor} {cs : List Char}
    (h : lexFrom d fuel previous read cursor = .ok out) (hcursor : cursor.rest <:+ cs)
    (hread : ∀ t ∈ read.map Lexeme.token, t.StandsWithin cs) :
    ∀ t ∈ out.map Lexeme.token, t.StandsWithin cs := by
  induction fuel generalizing previous read cursor with
  | zero =>
    cases h
    exact hread
  | succ fuel ih =>
    rw [lexFrom] at h
    split at h
    · cases h
      exact hread
    · obtain ⟨⟨chunk, behind⟩, hchunk, h⟩ := exists_of_bind_eq_ok h
      obtain ⟨hbehind, hstands⟩ := faithful_chunkAt _ _ _ _ _ hchunk
      cases chunk with
      | blank shown => exact ih h (hbehind.trans hcursor) (by rwa [tokens_noteBlank])
      | token t =>
        refine ih h (hbehind.trans hcursor) fun u hu => ?_
        rcases List.mem_cons.mp hu with rfl | hu
        · intro value quote keyword heq
          refine (hstands _ rfl value quote keyword heq).imp_right fun ⟨hfront, hkeyword⟩ => ?_
          exact ⟨hfront.isInfix.trans hcursor.isInfix, hkeyword⟩
        · exact hread u hu

/-- **Every word that is taken for a keyword stands in the text**, and the keyword is its upper
case. -/
theorem standsWithin_of_lex {d : Dialect} {text : String} {tokens : List Lexeme}
    (h : lex d text = .ok tokens) : ∀ l ∈ tokens, l.token.StandsWithin text.toList := by
  obtain ⟨out, hout, rfl⟩ := exists_of_map_eq_ok h
  intro l hl
  exact standsWithin_of_lexFrom hout List.suffix_rfl nofun _
    (List.mem_map_of_mem (List.mem_reverse.mp hl))

end EmbeddedSql.Sql
