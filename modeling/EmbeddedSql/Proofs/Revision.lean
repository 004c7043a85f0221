import EmbeddedSql.Engine
import EmbeddedSql.Proofs.Host

/-! Revising a part of a document is safe, whatever makes the new text.

There are three ways not to get a new text: the revision fails, it gives the old text, or it
gives one that cannot be read. Each leaves the part as it was, markers and source included. In
the only other case the part becomes the same kind of part, spelled in the same way, around the
new text (`Host.Carries`). Nothing is assumed of how texts are read. -/
namespace EmbeddedSql.Engine

variable {e : Engine} {h : Host} {v : View} {r : Revision} {sql : String}

/-! ### One revision -/

/-- A view is of the part that it was made for. -/
theorem host_of_view? (hv : e.view? h = some v) : v.host = h := by
  unfold view? at hv
  split at hv
  · split at hv
    · cases hv
      rfl
    · cases hv
  · cases hv

/-- A view is of a text that the gate lets through and that can be read. -/
theorem read_of_view? (hv : e.view? h = some v) :
    Gate.maybeQuery h.text = true ∧ e.read h.text = .ok v.statement := by
  unfold view? at hv
  split at hv
  · next hgate =>
    split at hv
    · next s hs =>
      cases hv
      exact ⟨hgate, hs⟩
    · cases hv
  · cases hv

theorem read_eq_ok_iff {s : Sql.Statement} :
    e.read sql = .ok s ↔ ∃ ss, e.readAll sql = .ok (s :: ss) := by
  unfold read
  split <;> simp [*]

theorem ofDialect_read_eq_ok_iff {d : Sql.Dialect} {style : TextBlock.Style} {s : Sql.Statement} :
    (ofDialect d style).read sql = .ok s ↔ ∃ ss, readStatements d sql = .ok (s :: ss) :=
  read_eq_ok_iff

theorem reads_eq_true_iff : e.reads sql = true ↔ ∃ s, e.read sql = .ok s := by
  unfold reads
  split <;> simp [*]

theorem reads_eq_false_iff : e.reads sql = false ↔ ∃ fault, e.read sql = .error fault := by
  unfold reads
  split <;> simp [*]

theorem revise_of_error {fault : Error} (hr : r v.text v.statement = .error fault) :
    e.revise v r = v.host := by
  simp only [revise, tryRevise, hr]

theorem revise_of_same (hr : r v.text v.statement = .ok v.text) : e.revise v r = v.host := by
  simp only [revise, tryRevise, hr, if_true]

theorem revise_of_unreadable (hr : r v.text v.statement = .ok sql) (hs : e.reads sql = false) :
    e.revise v r = v.host := by
  obtain ⟨fault, hread⟩ := reads_eq_false_iff.mp hs
  by_cases hne : sql = v.text
  · subst hne
    exact revise_of_same hr
  · simp only [revise, tryRevise, hr, hread, if_neg hne]

theorem revise_of_readable (hr : r v.text v.statement = .ok sql) (hs : e.reads sql = true)
    (hne : sql ≠ v.text) : e.revise v r = v.host.withSql e.style sql := by
  obtain ⟨s, hread⟩ := reads_eq_true_iff.mp hs
  simp only [revise, tryRevise, hr, hread, if_neg hne]

/-! ### Safety -/

/-- **A revision that fails, or whose text cannot be read, changes nothing.** Otherwise the
part stays as it is, if the text does, or carries the new text in the spelling of the old. -/
theorem revise_fail_safe (hv : e.view? h = some v) (r : Revision) :
    (∀ fault, r h.text v.statement = .error fault → e.revise v r = h) ∧
      (∀ sql, r h.text v.statement = .ok sql → e.reads sql = false → e.revise v r = h) ∧
      ∀ sql, r h.text v.statement = .ok sql → e.reads sql = true →
        (sql = h.text ∧ e.revise v r = h) ∨ (sql ≠ h.text ∧ h.Carries sql (e.revise v r)) := by
  obtain rfl := host_of_view? hv
  refine ⟨fun fault hr => revise_of_error hr, fun sql hr hs => revise_of_unreadable hr hs, ?_⟩
  intro sql hr hs
  by_cases hne : sql = v.host.text
  · subst hne
    exact .inl ⟨rfl, revise_of_same hr⟩
  · rw [revise_of_readable hr hs hne]
    exact .inr ⟨hne, v.host.withSql_carries e.style sql⟩

/-- A text in single quotes that is revised to another one, to one that cannot be read and to
none. -/
theorem revise_single_quoted :
    ∃ v, (ofDialect .generic {}).view? ⟨.literal "SELECT 1" "'SELECT 1'", [none]⟩ = some v ∧
      Host.Carries ⟨.literal "SELECT 1" "'SELECT 1'", [none]⟩ "SELECT 'a'"
        ((ofDialect .generic {}).revise v fun _ _ => .ok "SELECT 'a'") ∧
      ((ofDialect .generic {}).revise v fun _ _ => .ok "SELECT FROM (") =
        ⟨.literal "SELECT 1" "'SELECT 1'", [none]⟩ ∧
      ((ofDialect .generic {}).revise v fun _ _ => .error .emptyQuery) =
        ⟨.literal "SELECT 1" "'SELECT 1'", [none]⟩ := by
  have hview : ((ofDialect .generic {}).view?
      ⟨.literal "SELECT 1" "'SELECT 1'", [none]⟩).isSome = true := by decide +kernel
  obtain ⟨v, hv⟩ := Option.isSome_iff_exists.mp hview
  refine ⟨v, hv, ?_, ?_, ?_⟩
  · have hreads : (ofDialect .generic {}).reads "SELECT 'a'" = true := by decide +kernel
    obtain ⟨-, -, hok⟩ := revise_fail_safe hv fun _ _ => .ok "SELECT 'a'"
    rcases hok "SELECT 'a'" rfl hreads with ⟨hsame, -⟩ | ⟨-, hcarries⟩
    · exact absurd hsame (by decide)
    · exact hcarries
  · have hreads : (ofDialect .generic {}).reads "SELECT FROM (" = false := by decide +kernel
    obtain ⟨-, hunreadable, -⟩ := revise_fail_safe hv fun _ _ => .ok "SELECT FROM ("
    exact hunreadable "SELECT FROM (" rfl hreads
  · obtain ⟨hfails, -, -⟩ := revise_fail_safe hv fun _ _ => .error .emptyQuery
    exact hfails .emptyQuery rfl

end EmbeddedSql.Engine
