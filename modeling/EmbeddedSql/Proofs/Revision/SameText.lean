import EmbeddedSql.Proofs.Recipe.ChangeFunctionName
import EmbeddedSql.Proofs.Recipe.FormatSql

/-! Revisions that change nothing of a text.

A revision that gives the old text leaves the part as it is. But a text block whose body ends in a
line break gets the same text if this line break is missing from the new one, and then the block is
written anew: its source comes out as it was only if it is written in that way already
(`tryRevise_same_text`). If the block has no escapes and is indented with spaces, it has to be laid
out as text blocks are (`settled_iff_laidOut`). -/
namespace EmbeddedSql

open Text TextBlock

/-! ### Text blocks that are written anew -/

theorem blockSource_inj {a b : List Char} : blockSource a = blockSource b ↔ a = b := by
  simp [blockSource]

namespace Host

variable {h : Host} {body : List Char} {style : Style} {sql : String}

/-- All of a text block but its delimiters is its body. -/
theorem source?_of_body? (hbody : h.body? = some body) :
    h.source? = some (String.ofList (blockSource body)) := by
  obtain ⟨value, source, hkind, hstyle⟩ := of?_of_body? hbody
  have hopening : ∃ inside, source.toList = blockDelimiter ++ inside := by
    unfold LiteralStyle.of? at hstyle
    split at hstyle
    · next rest heq => exact ⟨rest, heq⟩
    all_goals cases hstyle
  obtain ⟨inside, hinside⟩ := hopening
  have hdrop : source.toList.drop 3 = inside := by
    rw [hinside]
    rfl
  simp only [body?, source?, hkind, if_pos hstyle, hdrop, Option.ite_none_right_eq_some,
    List.isSuffixOf_iff_suffix] at hbody ⊢
  obtain ⟨⟨front, hfront⟩, hbody⟩ := hbody
  have htake : inside.take (inside.length - 3) = front := by
    rw [← hfront]
    simp [blockDelimiter]
  rw [htake, Option.some.injEq] at hbody
  rw [blockSource, ← hbody, List.append_assoc, hfront, ← hinside, String.ofList_toList]

theorem withTextBlock_eq_self_iff (hbody : h.body? = some body)
    (htext : (h.withTextBlock style sql).text = h.text) :
    h.withTextBlock style sql = h ↔ reindent style body (h.written sql) = body := by
  have hnew := h.source?_withTextBlock style sql
  rw [hbody, Option.getD_some] at hnew
  have hold := source?_of_body? hbody
  constructor
  · intro hsame
    rw [hsame, hold, Option.some.injEq, String.ofList_inj, blockSource_inj] at hnew
    exact hnew.symm
  · intro hsame
    rw [hsame, ← hold] at hnew
    obtain ⟨kind, found⟩ := h
    obtain ⟨value, source, rfl, -⟩ := of?_of_body? hbody
    exact congrArg₂ (fun text spelled => Host.mk (.literal text spelled) found) htext
      (Option.some.inj hnew)

/-- A text block that comes out as it is if it is written anew around its own text. One whose body
does not end in a line break is never written anew for this text. -/
def Settled (h : Host) (style : Style) : Prop :=
  ∀ body, h.body? = some body → TextBlock.endsInLineBreak body = true →
    reindent style body (h.written h.text) = body

theorem settled_iff (hbody : h.body? = some body)
    (hended : TextBlock.endsInLineBreak body = true) :
    h.Settled style ↔ reindent style body (h.written h.text) = body := by
  refine ⟨fun hsettled => hsettled body hbody hended, fun hsame other hother _ => ?_⟩
  obtain rfl : body = other := Option.some.inj (hbody.symm.trans hother)
  exact hsame

/-- A block with no escapes has to be laid out as text blocks are written. -/
theorem settled_iff_laidOut (hstyle : style.useTabs = false) (hbody : h.body? = some body)
    (hended : TextBlock.endsInLineBreak body = true) (heven : Even body)
    (hvalue : read? body = some h.text.toList) (hplain : Escapeless (h.written h.text)) :
    h.Settled style ↔ LaidOut style body := by
  obtain ⟨held, hheld⟩ := heven.exists_held hvalue
  rw [hended, if_pos rfl] at hheld
  have hwritten : h.written h.text = held := by
    rw [written, endsInLineBreak, hbody, Option.getD_some, hended, if_pos rfl,
      dropLast?_eq_some_iff.mpr hheld, Option.getD_some]
  have htidy : tidy style body = framed (indentation style body) true held := by
    have hread : read? body =
        some (held ++ if TextBlock.endsInLineBreak body then ['\n'] else []) := by
      rw [hvalue, hheld, hended, if_pos rfl]
    rw [heven.tidy_eq_framed hstyle hread, hended]
  rw [settled_iff hbody hended, reindent_eq_framed, spelled_eq_self hplain, hended, hwritten,
    ← htidy, heven.tidy_eq_self_iff]

/-- A new text that gives the part the old one, and is not the old one itself, lacks the line break
that the body ends in, and the block is written anew around it. -/
theorem exists_of_withSql_text (hne : sql ≠ h.text) (htext : (h.withSql style sql).text = h.text) :
    ∃ body, h.body? = some body ∧ TextBlock.endsInLineBreak body = true ∧
      h.text = sql ++ "\n" ∧ h.written sql = sql.toList ∧ h.written h.text = sql.toList := by
  have hcarries := (h.withSql_carries style sql).text
  rw [htext] at hcarries
  split at hcarries
  next hlast =>
    obtain ⟨hended, hlast⟩ := hlast
    have hbreak : h.text.toList = sql.toList ++ ['\n'] := by
      rw [hcarries, String.toList_append]
      rfl
    have hwritten : h.written h.text = sql.toList := by
      rw [written, if_pos hended, dropLast?_eq_some_iff.mpr hbreak, Option.getD_some]
    rw [Host.endsInLineBreak] at hended
    cases hbody : h.body? with
    | none =>
      rw [hbody] at hended
      cases hended
    | some body =>
      rw [hbody, Option.getD_some] at hended
      exact ⟨body, rfl, hended, hcarries, written_of_getLast? hlast, hwritten⟩
  next => exact absurd hcarries.symm hne

/-- With a new text that gives it the old one, a part stays as it is if it is settled. -/
theorem withSql_eq_self_iff (hne : sql ≠ h.text) (htext : (h.withSql style sql).text = h.text) :
    h.withSql style sql = h ↔ h.Settled style := by
  obtain ⟨body, hbody, hended, -, hnew, hold⟩ := exists_of_withSql_text hne htext
  rw [withSql_of_body? hbody] at htext ⊢
  rw [withTextBlock_eq_self_iff hbody htext, settled_iff hbody hended, hnew, hold]

end Host

/-! ### One revision -/

namespace Engine

variable {e : Engine} {h n : Host} {v : View} {r : Revision}

/-- **A revision that leaves the text leaves the part**, source included, if it gives the whole old
text or the part is settled, and in no other case. Otherwise the part is a text block whose body
ends in a line break, the new text lacks it, and the source is written anew around the new text. If
the block has no escapes and is indented with spaces, it is settled if it is laid out as a block is
written. -/
theorem tryRevise_same_text (hv : e.view? h = some v) (hn : e.tryRevise v r = .ok n)
    (htext : n.text = h.text) :
    (n = h ↔ r h.text v.statement = .ok h.text ∨ h.Settled e.style) ∧
      (n ≠ h → ∃ body sql, h.source? = some (String.ofList (blockSource body)) ∧
        TextBlock.endsInLineBreak body = true ∧
        r h.text v.statement = .ok sql ∧ h.text = sql ++ "\n" ∧ n.found = h.found ∧
        n.source? = some (String.ofList (blockSource (reindent e.style body sql.toList)))) ∧
      ∀ body, h.source? = some (String.ofList (blockSource body)) →
        TextBlock.endsInLineBreak body = true → e.style.useTabs = false → Even body →
        read? body = some h.text.toList → Escapeless (h.written h.text) →
        (h.Settled e.style ↔ LaidOut e.style body) := by
  obtain ⟨sql, hsql, -, rfl⟩ := tryRevise_eq_ok_iff.mp hn
  obtain rfl := host_of_view? hv
  rw [View.text] at hsql htext ⊢
  refine ⟨?_, ?_, fun body hsource hended hstyle heven hvalue hplain =>
    Host.settled_iff_laidOut hstyle (Host.body?_of_source? hsource) hended heven hvalue hplain⟩
  · by_cases hsame : sql = v.host.text
    · rw [if_pos hsame]
      exact iff_of_true rfl (.inl (hsame ▸ hsql))
    · rw [if_neg hsame] at htext ⊢
      rw [hsql, Except.ok.injEq, Host.withSql_eq_self_iff hsame htext, or_iff_right hsame]
  · intro hchanged
    have hne : sql ≠ v.host.text := fun hsame => hchanged (if_pos hsame)
    rw [if_neg hne] at htext ⊢
    obtain ⟨body, hbody, hended, hold, hnew, -⟩ := Host.exists_of_withSql_text hne htext
    refine ⟨body, sql, Host.source?_of_body? hbody, hended, hsql, hold,
      (v.host.withSql_carries e.style sql).found, ?_⟩
    rw [Host.withSql_of_body? hbody, Host.source?_withTextBlock, hbody, Option.getD_some, hnew]

/-- A text block with one line, behind this indentation. -/
def oneLineBlock (indentation : String) : Host :=
  ⟨.literal "SELECT 1\n"
    (String.ofList (blockSource (framed indentation.toList true "SELECT 1".toList))), []⟩

theorem body?_oneLineBlock (indentation : String) : (oneLineBlock indentation).body? =
    some (framed indentation.toList true "SELECT 1".toList) :=
  Host.body?_of_source? rfl

/-- A block that is laid out stays as it is. -/
theorem tryRevise_same_text_laidOut :
    ∃ v n, (ofDialect .generic {}).view? (oneLineBlock "  ") = some v ∧
      (ofDialect .generic {}).tryRevise v .canonical = .ok n ∧
      n.text = (oneLineBlock "  ").text ∧ n = oneLineBlock "  " := by
  have hrun : ∃ v, (ofDialect .generic {}).view? (oneLineBlock "  ") = some v ∧
      (ofDialect .generic {}).tryRevise v .canonical = .ok (oneLineBlock "  ") := by
    decide +kernel
  obtain ⟨v, hv, hn⟩ := hrun
  have hbody := body?_oneLineBlock "  "
  obtain ⟨hiff, -, hlaid⟩ := tryRevise_same_text hv hn rfl
  have heven : Even (framed "  ".toList true "SELECT 1".toList) :=
    ⟨by decide, by decide, ⟨"  SELECT 1".toList, by decide, by decide, by decide⟩, by decide⟩
  have hsettled := hlaid _ (Host.source?_of_body? hbody) (by decide) rfl heven (by decide)
    ⟨by decide, by decide, by decide⟩
  exact ⟨v, _, hv, hn, rfl, hiff.mpr (.inr (hsettled.mpr ⟨by decide, by decide, by decide⟩))⟩

/-- A tab becomes four spaces, though the block holds what is read from it and its text stays. -/
theorem tab_respelled :
    ∃ v n, (ofDialect .generic {}).view? (oneLineBlock "\t") = some v ∧
      (oneLineBlock "\t").body?.bind read? = some (oneLineBlock "\t").text.toList ∧
      (ofDialect .generic {}).tryRevise v .canonical = .ok n ∧
      n.text = (oneLineBlock "\t").text ∧ n ≠ oneLineBlock "\t" := by
  have hrun : ∃ v, (ofDialect .generic {}).view? (oneLineBlock "\t") = some v ∧
      (ofDialect .generic {}).tryRevise v .canonical = .ok (oneLineBlock "    ") := by
    decide +kernel
  obtain ⟨v, hv, hn⟩ := hrun
  exact ⟨v, _, hv, by decide, hn, rfl, by decide⟩

end Engine

end EmbeddedSql
