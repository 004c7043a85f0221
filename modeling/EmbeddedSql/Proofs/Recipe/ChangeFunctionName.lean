import EmbeddedSql.Proofs.Call.Acceptance
import EmbeddedSql.Proofs.TextBlock.Framing
import EmbeddedSql.Recipe.ChangeFunctionName

/-! Renaming in a text block.

The block is written again around the renamed text. Its source is the old one with other names in
it, if the old one is laid out as a block is written: with a line break at both ends, every line
behind the same indentation, and no blanks at the ends of lines (`visit_keeps_source`). -/
namespace EmbeddedSql

open Sql Text TextBlock

/-! ### Sources -/

/-- The source of a text block with this body. -/
def blockSource (body : List Char) : List Char := blockDelimiter ++ body ++ blockDelimiter

theorem Host.body?_of_source? {h : Host} {body : List Char}
    (hsource : h.source? = some (String.ofList (blockSource body))) : h.body? = some body := by
  obtain ⟨kind, found⟩ := h
  cases kind with
  | literal value source =>
    obtain rfl := Option.some.inj hsource
    exact body?_between value body found
  | scalar value style => cases hsource
  | plainText text => cases hsource

theorem Host.source?_withTextBlock (h : Host) (style : Style) (sql : String) :
    (h.withTextBlock style sql).source? =
      some (String.ofList (blockSource (reindent style (h.body?.getD []) (h.written sql)))) :=
  rfl

/-- Texts that stand in one frame are as alike as the texts themselves. -/
theorem Call.Parallel.framed {old new : List Char} {there back : List Call.Replacement}
    (h : Call.Parallel 0 0 old new there back) (indentation : List Char) (ended : Bool) :
    ∃ there' back', Call.Parallel 0 0 (blockSource (framed indentation ended old))
        (blockSource (framed indentation ended new)) there' back' ∧
      List.Forall₂ (Call.Replacement.Written (indentedChar indentation)) there there' ∧
      List.Forall₂ (Call.Replacement.Written (indentedChar indentation)) back back' := by
  let front := blockDelimiter ++ '\n' :: indentation
  let tail := (if ended then [] else ['\\']) ++ '\n' :: indentation ++ blockDelimiter
  obtain ⟨there', back', hlines, hthere, hback⟩ :=
    h.flatMap (indentedChar indentation) (0 + byteCount front) (0 + byteCount front)
  have hsource := (hlines.append_right tail).append_left front
  refine ⟨there', back', ?_, hthere, hback⟩
  simpa only [front, tail, blockSource, TextBlock.framed, List.append_assoc, List.cons_append]
    using hsource

namespace Recipe.ChangeFunctionName

open Call Engine

variable {r : ChangeFunctionName} {h : Host} {l : Location}

/-! ### One visit -/

/-- A visit that changes something gives the part with its renamed text. -/
theorem exists_of_visit_ne (hchanged : (r.visit h l).1 ≠ h) :
    ∃ s t, r.engine.read h.text = .ok s ∧ r.change.apply h.text s = .ok t ∧
      r.engine.reads t.text = true ∧ (r.visit h l).1 = h.withSql r.engine.style t.text := by
  rw [visit] at hchanged ⊢
  cases hview : r.engine.view? h with
  | none =>
    rw [hview] at hchanged
    exact absurd rfl hchanged
  | some v =>
    rw [hview] at hchanged
    dsimp only at hchanged ⊢
    split at hchanged
    next => exact absurd rfl hchanged
    next hcalls =>
      rw [if_neg hcalls]
      cases htry : r.engine.tryRevise v (.rename r.change) with
      | error fault =>
        rw [revise, htry, host_of_view? hview] at hchanged
        exact absurd rfl hchanged
      | ok n =>
        have hrevise : r.engine.revise v (.rename r.change) = n := by rw [revise, htry]
        obtain ⟨sql, hsql, hreads, hn⟩ := tryRevise_eq_ok_iff.mp htry
        rw [View.text, host_of_view? hview] at hsql hreads hn
        obtain ⟨t, ht, rfl⟩ := rename_eq_ok_iff.mp hsql
        rw [hrevise] at hchanged ⊢
        have hne : t.text ≠ h.text := fun hsame => hchanged (hn.trans (if_pos hsame))
        exact ⟨v.statement, t, (read_of_view? hview).2, ht, hreads.resolve_left hne,
          hn.trans (if_neg hne)⟩

/-! ### Text blocks -/

/-- No name is empty. -/
theorem slice_ne_nil {c : Renaming} {sql : String} {call : Sql.Call} {x : Replacement}
    (h : Renames c sql call x) : x.span.slice sql.toList ≠ [] := by
  obtain ⟨⟨before, part, after, htext, hx⟩, hlt⟩ := Renaming.part_of_renames h
  rw [hx] at hlt
  rw [hx, htext, slice_part]
  rintro rfl
  simp at hlt

/-- If no name ends in a line break, the one at the end of a text is kept. -/
theorem exists_renamed {sql : String} {s : Statement} {t : Renamed} {held : List Char}
    (ht : r.change.apply sql s = .ok t) (ended : Bool)
    (hsql : sql.toList = held ++ if ended then ['\n'] else [])
    (hnames : ∀ c ∈ r.change.matching s, ∀ x, Renames r.change sql c x →
      (x.span.slice sql.toList).getLast? ≠ some '\n') :
    ∃ renamed kept back, t.text.toList = renamed ++ (if ended then ['\n'] else []) ∧
      Parallel 0 0 sql.toList t.text.toList kept back ∧ Parallel 0 0 held renamed kept back ∧
      ∀ x ∈ kept, ∃ c ∈ r.change.matching s, Renames r.change sql c x := by
  obtain ⟨kept, back, hparallel, -, hkept⟩ := parallel_of_apply ht
  cases ended with
  | false =>
    rw [if_neg Bool.false_ne_true, List.append_nil] at hsql
    exact ⟨t.text.toList, kept, back, by simp, hparallel, hsql ▸ hparallel, hkept⟩
  | true =>
    have hwords : ∀ b ∈ back, ∃ d, b.spelling.toList.getLast? = some d ∧ d ≠ '\n' := by
      intro b hb
      have hmem := List.mem_map_of_mem (f := fun b : Replacement => b.spelling.toList) hb
      rw [← hparallel.slices [] rfl, List.nil_append, List.mem_map] at hmem
      obtain ⟨x, hx, hslice⟩ := hmem
      obtain ⟨c, hc, hrenames⟩ := hkept x hx
      have hlast := hnames c hc x hrenames
      have hne := slice_ne_nil hrenames
      rw [hslice] at hlast hne
      have heq := List.getLast?_eq_some_getLast hne
      exact ⟨_, heq, fun hd => hlast (hd ▸ heq)⟩
    have hended := hparallel
    rw [hsql, if_pos rfl] at hended
    obtain ⟨renamed, hrenamed, hheld⟩ := hended.dropLast hwords
    exact ⟨renamed, kept, back, hrenamed, hparallel, hheld, hkept⟩

/-- What a visit keeps of a text block and its source. `renamed` is the new text up to the line
break that the body ends in. -/
structure KeepsSource (style : Style) (r : Renaming) (s : Statement) (h n : Host)
    (body renamed : List Char) (there back : List Replacement) : Prop where
  text : n.text.toList = renamed ++ if endsInLineBreak body then ['\n'] else []
  source : n.source? = some (String.ofList (blockSource
    (framed (indentation style body) (endsInLineBreak body) (spelled renamed))))
  unescaped : Escapeless renamed → spelled renamed = renamed
  /-- But for the escapes, the new source is a tidy form of the old one with other words in it. -/
  parallel : Parallel 0 0 (blockSource (tidy style body))
    (blockSource (framed (indentation style body) (endsInLineBreak body) renamed)) there back
  /-- These words are the names of calls that match. -/
  names : ∀ y ∈ there, ∃ c ∈ r.matching s, ∃ x, Renames r h.text c x ∧
    x.Respelled (indentedChar (indentation style body)) h.text.toList
      (blockSource (tidy style body)) y
  tidy : tidy style body = body ↔ LaidOut style body

/-- **Renaming in a text block changes nothing of its source but the names**, if the source is laid
out as a text block is written. Otherwise it is laid out in that way: lines lose the blanks at
their ends, lines of blanks and the closing line get the indentation, and a closing line is put
behind a text that has none. -/
theorem visit_keeps_source {body : List Char} (hstyle : r.engine.style.useTabs = false)
    (hsource : h.source? = some (String.ofList (blockSource body))) (heven : Even body)
    (hvalue : read? body = some h.text.toList)
    (hnames : ∀ s, r.engine.read h.text = .ok s → ∀ c ∈ r.change.matching s, ∀ x,
      Renames r.change h.text c x → (x.span.slice h.text.toList).getLast? ≠ some '\n')
    (hchanged : (r.visit h l).1 ≠ h) :
    ∃ s t renamed there back, r.engine.read h.text = .ok s ∧ r.change.apply h.text s = .ok t ∧
      t.text = (r.visit h l).1.text ∧
      KeepsSource r.engine.style r.change s h (r.visit h l).1 body renamed there back := by
  obtain ⟨s, t, hread, ht, -, hvisit⟩ := exists_of_visit_ne hchanged
  have hbody := Host.body?_of_source? hsource
  have hended : h.endsInLineBreak = endsInLineBreak body := by
    rw [Host.endsInLineBreak, hbody, Option.getD_some]
  obtain ⟨held, hheld⟩ := heven.exists_held hvalue
  obtain ⟨renamed, kept, back, htext, hparallel, hrenamed, hkept⟩ :=
    exists_renamed ht (endsInLineBreak body) hheld (hnames s hread)
  have hwritten : h.written t.text = renamed := by
    rw [Host.written, hended, htext]
    cases endsInLineBreak body with
    | true => simp [dropLast?_eq_some_iff.mpr rfl]
    | false => simp
  obtain ⟨there, away, hsources, hthere, haway⟩ :=
    hrenamed.framed (indentation r.engine.style body) (endsInLineBreak body)
  rw [← heven.tidy_eq_framed hstyle (hheld ▸ hvalue)] at hsources
  have hnew : ((r.visit h l).1.text).toList = t.text.toList := by
    rw [hvisit, Host.withSql_of_body? hbody, Host.withTextBlock_text, hwritten, hended, htext]
  refine ⟨s, t, renamed, there, away, hread, ht, String.toList_injective hnew.symm, ?_⟩
  refine ⟨hnew.trans htext, ?_, spelled_eq_self, hsources, fun y hy => ?_,
    heven.tidy_eq_self_iff _⟩
  · rw [hvisit, Host.withSql_of_body? hbody, Host.source?_withTextBlock, hbody,
      Option.getD_some, hwritten, reindent_eq_framed]
  · have hwords := hparallel.respelled hsources hthere haway
    obtain ⟨x, hx, hrespelled⟩ := exists_of_forall₂ hwords y hy
    obtain ⟨c, hc, hrenames⟩ := hkept x hx
    exact ⟨c, hc, x, hrenames, hrespelled⟩

/-! ### A block that is laid out, and one that is not -/

/-- The recipe that calls `nvl` by another name. -/
def fromNvl (newName : String) : ChangeFunctionName := ⟨defaultEngine, ⟨nvl, newName⟩, queryTable⟩

/-- A block with an empty line in its text. -/
def nvlBody : List Char := "\n    SELECT nvl(a)\n    \n    FROM t\n    ".toList

def nvlBlock : Host :=
  ⟨.literal "SELECT nvl(a)\n\nFROM t\n" (String.ofList (blockSource nvlBody)), []⟩

/-- Where the names of calls end that a renaming finds in a text. -/
def namesEnd (e : Engine) (c : Renaming) (sql : String) : List (Option Char) :=
  match e.read sql with
  | .ok s => (c.matching s).filterMap fun call =>
    match (Name.idents call.name).head?, (Name.idents call.name).getLast? with
    | some first, some last =>
      (spanOf? sql first last).map fun span => (span.slice sql.toList).getLast?
    | _, _ => none
  | .error _ => []

theorem mem_namesEnd {e : Engine} {c : Renaming} {sql : String} {s : Statement} {call : Sql.Call}
    {x : Replacement} (hread : e.read sql = .ok s) (hcall : call ∈ c.matching s)
    (h : Renames c sql call x) : (x.span.slice sql.toList).getLast? ∈ namesEnd e c sql := by
  obtain ⟨first, last, hfirst, hlast, hspan, -⟩ := h
  rw [namesEnd, hread]
  refine List.mem_filterMap.mpr ⟨call, hcall, ?_⟩
  rw [hfirst, hlast]
  simp only [hspan, Option.map_some]

theorem visit_keeps_source_nvl :
    ∃ s renamed there back, KeepsSource {} (fromNvl "coalesce").change s nvlBlock
        ((fromNvl "coalesce").visit nvlBlock ⟨"q.sql", 1, none⟩).1 nvlBody renamed there back ∧
      LaidOut {} nvlBody := by
  have heven : Even nvlBody :=
    ⟨by decide, by decide, ⟨"    FROM t".toList, by decide, by decide, by decide⟩, by decide⟩
  have hends : some '\n' ∉ namesEnd defaultEngine ⟨nvl, "coalesce"⟩ nvlBlock.text := by
    decide +kernel
  obtain ⟨s, t, renamed, there, back, -, -, -, hkeeps⟩ := visit_keeps_source
    (r := fromNvl "coalesce") (h := nvlBlock) (l := ⟨"q.sql", 1, none⟩) rfl rfl heven (by decide)
    (fun s hs c hc x hx hlast => hends (hlast ▸ mem_namesEnd hs hc hx)) (by decide +kernel)
  exact ⟨s, renamed, there, back, hkeeps, by decide, by decide, by decide⟩

theorem sum_lengths {rs : List Replacement} {word : String} (h : ∀ x ∈ rs, x.spelling = word) :
    (rs.map (·.spelling.toList.length)).sum = rs.length * word.toList.length := by
  rw [List.map_congr_left fun x hx => congrArg (·.toList.length) (h x hx), List.map_const',
    List.sum_replicate, smul_eq_mul]

/-- A closing line is put behind a text that has none, so the new source is not the old one with
`coalesce` in the place of `nvl`, wherever that is. -/
theorem closing_line_added :
    let source := "\"\"\"\n    SELECT nvl(a) FROM t\"\"\""
    let h : Host := ⟨.literal "SELECT nvl(a) FROM t" source, []⟩
    '\\' ∉ source.toList ∧ h.body?.bind read? = some h.text.toList ∧
      ∃ new, ((fromNvl "coalesce").visit h ⟨"q.sql", 1, none⟩).1.source? = some new ∧
        ¬∃ there back, Parallel 0 0 source.toList new.toList there back ∧
          (∀ y ∈ there, y.spelling = "coalesce") ∧ ∀ b ∈ back, b.spelling = "nvl" := by
  intro source h
  refine ⟨by decide, by decide +kernel,
    "\"\"\"\n    SELECT coalesce(a) FROM t\\\n    \"\"\"", by decide +kernel, ?_⟩
  rintro ⟨there, back, hparallel, hthere, hback⟩
  obtain ⟨hcount, hlength⟩ := hparallel.length_add
  rw [sum_lengths hthere, sum_lengths hback, hcount] at hlength
  have hold : source.toList.length = 31 := by decide
  have hnew : "\"\"\"\n    SELECT coalesce(a) FROM t\\\n    \"\"\"".toList.length = 42 := by decide
  have hword : "nvl".toList.length = 3 ∧ "coalesce".toList.length = 8 := by decide
  rw [hold, hnew, hword.1, hword.2] at hlength
  omega

end Recipe.ChangeFunctionName

end EmbeddedSql
