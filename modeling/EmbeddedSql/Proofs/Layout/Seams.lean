import EmbeddedSql.Proofs.Text.Runs
import EmbeddedSql.Sql.Layout

/-! Where the lines of a statement may be broken.

A tree is written on one line or over many, at any depth, but its writings differ at its seams
only, the places where a wording says that a line may end. `Statement.seamed` is the text of a
tree with its seams in it, and every writing of the tree puts white space into the seams and
leaves all else as it is (`Statement.fills`). So all writings have the same runs, those between
the seams (`Statement.spread`). What stands in quotes is in one run, unless it is a line feed
and nothing else, behind which there is a seam. -/
namespace EmbeddedSql.Sql

open Text

/-- A text with places, the `none`s, where lines may be broken. -/
abbrev Seamed := List (Option Char)

/-- A text without seams. -/
def solid (cs : List Char) : Seamed := cs.map some

/-- The text has white space at the seams, or nothing, and is the same everywhere else. -/
inductive Fills : Seamed → List Char → Prop
  | nil : Fills [] []
  | char {ms : Seamed} {cs : List Char} (c : Char) : Fills ms cs → Fills (some c :: ms) (c :: cs)
  | seam {blanks cs : List Char} {ms : Seamed} :
    Blank blanks → Fills ms cs → Fills (none :: ms) (blanks ++ cs)

/-! ### Seams of the parts of a text

`free` tells whether the text may be laid out. -/

def seamedGap (free : Bool) : Seamed := if free then [none] else [some ' ']

def seamedFold (free : Bool) : Seamed := if free then [none] else []

def seamedHeading (free : Bool) (word : String) : Seamed :=
  seamedGap free ++ solid word.toList ++ seamedGap free ++ seamedFold free

def seamedText (s : String) : Seamed := if s = "\n" then [some '\n', none] else solid s.toList

def seamedPlain (w : Wording) : Seamed :=
  w.flatMap fun
    | .text s => seamedText s
    | _ => []

mutual

def Piece.seamed (free : Bool) : Piece → Seamed
  | .text s => seamedText s
  | .gap => seamedGap free
  | .fold => seamedFold free
  | .nest inner => seamedFold free ++ seamedPieces free inner
  | .flat inner => seamedPieces false inner
  | .expr e => e.seamed free
  | .query q => q.seamed free
  | .source s => s.seamed free
  | .statement s => s.seamed free

def seamedPieces (free : Bool) : List Piece → Seamed
  | [] => []
  | p :: ps => p.seamed free ++ seamedPieces free ps

def Expr.seamed (free : Bool) : Expr → Seamed
  | .column path => seamedPlain (pathWording path)
  | .literal wording => seamedPieces false wording
  | .call c => c.seamed free
  | .access root way => root.seamed free ++ seamedPieces false way
  | .binary l op r =>
    l.seamed false ++ some ' ' :: solid op.toList ++ some ' ' :: r.seamed false
  | .trim side what subject =>
    solid "TRIM(".toList ++ solid side.toList ++ seamedPieces false what ++ subject.seamed false
      ++ [some ')']
  | .phrase wording => seamedPieces false wording
  | .block wording => seamedPieces free wording

def NamePart.seamed : NamePart → Seamed
  | .ident i => seamedPlain i.wording
  | .made f arguments =>
    seamedPlain f.wording ++ some '(' :: seamedPieces false arguments ++ [some ')']

def seamedName : List NamePart → Seamed
  | [] => []
  | [part] => part.seamed
  | part :: rest => part.seamed ++ some '.' :: seamedName rest

def seamedNames (free : Bool) : List (List NamePart) → Seamed
  | [] => []
  | [name] => seamedName name
  | name :: names => seamedName name ++ some ',' :: seamedGap free ++ seamedNames free names

def Call.seamed (free : Bool) : Call → Seamed
  | ⟨name, parameters, arguments, within, filter, nulls, windowed, braced⟩ =>
    (if braced then solid "\x7bfn ".toList else []) ++ seamedName name
      ++ seamedPieces false parameters ++ seamedPieces false arguments
      ++ seamedPieces false within ++ seamedPieces false filter ++ solid nulls.toList
      ++ seamedPieces free windowed ++ if braced then [some '\x7d'] else []

def Cte.seamed (free : Bool) : Cte → Seamed
  | ⟨label, mode, query, origin⟩ =>
    seamedPlain label.wording ++ solid " AS ".toList ++ solid mode.toList
      ++ some '(' :: seamedFold free ++ seamedFold free ++ query.seamed free
      ++ seamedFold free ++ [some ')']
      ++ (match origin with
        | some i => solid " FROM ".toList ++ seamedPlain i.wording
        | none => [])

def seamedCtes (free : Bool) : List Cte → Seamed
  | [] => []
  | [c] => c.seamed free
  | c :: cs => c.seamed free ++ solid ", ".toList ++ seamedCtes free cs

def Query.seamed (free : Bool) : Query → Seamed
  | ⟨recursive, ctes, body, order, limit, settings, fetch, rest⟩ =>
    (if ctes.isEmpty then []
      else solid "WITH ".toList ++ (if recursive then solid "RECURSIVE ".toList else [])
        ++ seamedCtes free ctes ++ seamedGap free)
      ++ body.seamed free ++ seamedPieces free order ++ seamedPieces free limit
      ++ seamedPieces free settings ++ seamedPieces free fetch ++ seamedPieces free rest

def Body.seamed (free : Bool) : Body → Seamed
  | .select s => s.seamed free
  | .combined l op r =>
    l.seamed free ++ seamedGap free ++ solid op.toList ++ seamedGap free ++ r.seamed free
  | .parenthesized q => some '(' :: q.seamed free ++ [some ')']
  | .change s => s.seamed free
  | .other wording => seamedPieces free wording

def Select.seamed (free : Bool) : Select → Seamed
  | ⟨head, items, into, sources, order, clauses, windows, qualify, windowsFirst, connect⟩ =>
    (match order with
      | .itemsFirst => solid "SELECT".toList
      | .sourcesFirst =>
        solid "FROM ".toList ++ seamedSources false sources ++ solid " SELECT".toList
      | .sourcesOnly => solid "FROM ".toList ++ seamedSources false sources)
      ++ seamedPieces free head
      ++ (if items.isEmpty then []
        else seamedGap free ++ seamedFold free ++ seamedItems free items)
      ++ seamedPieces free into
      ++ (if sources.isEmpty || order ≠ .itemsFirst then []
        else seamedHeading free "FROM" ++ seamedSources free sources)
      ++ seamedPieces free clauses
      ++ (if windowsFirst then seamedPieces free windows ++ seamedPieces free qualify
        else seamedPieces free qualify ++ seamedPieces free windows)
      ++ seamedPieces free connect

def Item.seamed (free : Bool) : Item → Seamed
  | .expr e none => e.seamed free
  | .expr e (some label) => e.seamed free ++ solid " AS ".toList ++ seamedPlain label.wording
  | .star qualifier options =>
    seamedPieces false qualifier ++ some '*' :: seamedPieces false options

def seamedItems (free : Bool) : List Item → Seamed
  | [] => []
  | [i] => i.seamed free
  | i :: is => i.seamed free ++ some ',' :: seamedGap free ++ seamedItems free is

def Relation.seamed (free : Bool) : Relation → Seamed
  | ⟨table, wording, label, options⟩ =>
    seamedName table ++ seamedPieces free wording
      ++ (match label with
        | some a => some ' ' :: seamedPlain a.wording
        | none => [])
      ++ seamedPieces free options

def Join.seamed : Join → Seamed
  | ⟨operator, relation, condition⟩ =>
    seamedPieces false operator ++ relation.seamed false ++ seamedPieces false condition

def seamedJoins (free : Bool) : List Join → Seamed
  | [] => []
  | j :: js => seamedGap free ++ j.seamed ++ seamedJoins free js

def Source.seamed (free : Bool) : Source → Seamed
  | ⟨relation, joins⟩ => relation.seamed free ++ seamedJoins free joins

def seamedSources (free : Bool) : List Source → Seamed
  | [] => []
  | [s] => s.seamed free
  | s :: ss => s.seamed free ++ some ',' :: seamedGap free ++ seamedSources free ss

def Assignment.seamed : Assignment → Seamed
  | ⟨targets, grouped, value⟩ =>
    (if grouped then some '(' :: seamedNames false targets ++ [some ')']
      else seamedNames false targets) ++ solid " = ".toList ++ value.seamed false

def seamedAssignments (free : Bool) : List Assignment → Seamed
  | [] => []
  | [a] => a.seamed
  | a :: as => a.seamed ++ some ',' :: seamedGap free ++ seamedAssignments free as

def Statement.seamed (free : Bool) : Statement → Seamed
  | .query q => q.seamed free
  | .insert head partition source rest =>
    seamedPieces free head ++ seamedPieces free partition ++ seamedPieces free source
      ++ seamedPieces free rest
  | .update head target before assignments after rest =>
    solid head.toList ++ target.seamed free
      ++ (if before.isEmpty then []
        else seamedHeading free "FROM" ++ seamedSources free before)
      ++ (if assignments.isEmpty then []
        else seamedHeading free "SET" ++ seamedAssignments free assignments)
      ++ (if after.isEmpty then []
        else seamedHeading free "FROM" ++ seamedSources free after)
      ++ seamedPieces free rest
  | .delete tables withFrom sources rest =>
    solid "DELETE".toList
      ++ (if tables.isEmpty then []
        else seamedGap free ++ seamedFold free ++ seamedNames free tables)
      ++ (if withFrom then solid " FROM".toList else []) ++ seamedGap free ++ seamedFold free
      ++ seamedSources free sources ++ seamedPieces free rest
  | .other wording => seamedPieces free wording

end

namespace Fills
variable {ms ns : Seamed} {a b : List Char} {free laid : Bool}

theorem append (ha : Fills ms a) (hb : Fills ns b) : Fills (ms ++ ns) (a ++ b) := by
  induction ha with
  | nil => exact hb
  | char c _ ih => exact .char c ih
  | seam hblanks _ ih =>
    rw [List.append_assoc]
    exact .seam hblanks ih

theorem ofSolid : ∀ cs : List Char, Fills (solid cs) cs
  | [] => .nil
  | c :: cs => .char c (ofSolid cs)

theorem ofSeam {blanks : List Char} (h : Blank blanks) : Fills [none] blanks := by
  have hfills : Fills [none] (blanks ++ []) := .seam h .nil
  rwa [List.append_nil] at hfills

theorem ite {p : Prop} [Decidable p] (ha : Fills ms a) (hb : Fills ns b) :
    Fills (if p then ms else ns) (if p then a else b) := by
  split
  · exact ha
  · exact hb

/-! What is laid out only where it may be fills the seams. -/

theorem blank_lineBreak (depth : Nat) : Blank (lineBreak depth) := by
  intro c hc
  rw [lineBreak, List.mem_cons, List.mem_replicate] at hc
  rcases hc with rfl | ⟨-, rfl⟩ <;> decide

theorem gap (h : laid ≤ free) (depth : Nat) : Fills (seamedGap free) (gapText laid depth) := by
  cases laid with
  | true =>
    obtain rfl : free = true := h rfl
    exact ofSeam (blank_lineBreak depth)
  | false =>
    cases free with
    | true => exact ofSeam (.cons (by decide) .nil)
    | false => exact ofSolid [' ']

theorem fold (h : laid ≤ free) (depth : Nat) : Fills (seamedFold free) (foldText laid depth) := by
  cases laid with
  | true =>
    obtain rfl : free = true := h rfl
    exact ofSeam (blank_lineBreak depth)
  | false =>
    cases free with
    | true => exact ofSeam .nil
    | false => exact .nil

theorem step (h : laid ≤ free) : Fills (seamedFold free) (stepText laid) := by
  cases laid with
  | true =>
    obtain rfl : free = true := h rfl
    exact ofSeam (.cons (by decide) (.cons (by decide) .nil))
  | false =>
    cases free with
    | true => exact ofSeam .nil
    | false => exact .nil

theorem heading (h : laid ≤ free) (depth : Nat) (word : String) :
    Fills (seamedHeading free word) (Sql.heading laid depth word) :=
  (((gap h depth).append (ofSolid _)).append (gap h depth)).append (step h)

theorem text (depth : Nat) (s : String) :
    Fills (seamedText s) (if s = "\n" then lineBreak depth else s.toList) := by
  rw [seamedText]
  refine .ite (.char '\n' (ofSeam fun c hc => ?_)) (ofSolid _)
  exact blank_lineBreak depth c (List.mem_cons_of_mem _ hc)

theorem plain (depth : Nat) (w : Wording) : Fills (seamedPlain w) (plainText depth w) := by
  induction w with
  | nil => exact .nil
  | cons p w ih =>
    refine Fills.append ?_ ih
    cases p with
    | text s => exact text depth s
    | _ => exact .nil

/-! What is on one line even when the rest is laid out has no seams that are free. -/

mutual

theorem piece {free laid : Bool} (h : laid ≤ free) (depth : Nat) :
    ∀ p : Piece, Fills (p.seamed free) (p.write laid depth)
  | .text s => text depth s
  | .gap => gap h depth
  | .fold => fold h depth
  | .nest inner => (step h).append (pieces h _ inner)
  | .flat inner => pieces (Bool.le_refl _) depth inner
  | .expr e => expr h depth e
  | .query q => query h depth q
  | .source s => source h depth s
  | .statement s => statement h depth s

theorem pieces {free laid : Bool} (h : laid ≤ free) (depth : Nat) :
    ∀ ps : List Piece, Fills (seamedPieces free ps) (writePieces laid depth ps)
  | [] => .nil
  | p :: ps => (piece h depth p).append (pieces h depth ps)

theorem expr {free laid : Bool} (h : laid ≤ free) (depth : Nat) :
    ∀ e : Expr, Fills (e.seamed free) (e.write laid depth)
  | .column path => plain depth (pathWording path)
  | .literal wording => pieces (Bool.le_refl _) depth wording
  | .call c => call h depth c
  | .access root way => (expr h depth root).append (pieces (Bool.le_refl _) depth way)
  | .binary l op r =>
    ((expr (Bool.le_refl _) depth l).append (.char ' ' (ofSolid op.toList))).append
      (.char ' ' (expr (Bool.le_refl _) depth r))
  | .trim side what subject =>
    ((((ofSolid "TRIM(".toList).append (ofSolid side.toList)).append
      (pieces (Bool.le_refl _) depth what)).append (expr (Bool.le_refl _) depth subject)).append
        (ofSolid [')'])
  | .phrase wording => pieces (Bool.le_refl _) depth wording
  | .block wording => pieces h depth wording

theorem namePart (depth : Nat) : ∀ part : NamePart, Fills part.seamed (part.write depth)
  | .ident i => plain depth i.wording
  | .made f arguments =>
    ((plain depth f.wording).append (.char '(' (pieces (Bool.le_refl _) depth arguments))).append
      (ofSolid [')'])

theorem name (depth : Nat) : ∀ n : List NamePart, Fills (seamedName n) (writeName depth n)
  | [] => .nil
  | [part] => namePart depth part
  | part :: next :: rest =>
    (namePart depth part).append (.char '.' (name depth (next :: rest)))

theorem names {free laid : Bool} (h : laid ≤ free) (depth : Nat) :
    ∀ ns : List (List NamePart), Fills (seamedNames free ns) (writeNames laid depth ns)
  | [] => .nil
  | [n] => name depth n
  | n :: next :: rest =>
    ((name depth n).append (.char ',' (gap h depth))).append (names h depth (next :: rest))

theorem call {free laid : Bool} (h : laid ≤ free) (depth : Nat) :
    ∀ c : Call, Fills (c.seamed free) (c.write laid depth)
  | ⟨n, parameters, arguments, within, filter, nulls, windowed, _⟩ =>
    ((((((((ite (ofSolid _) .nil).append (name depth n)).append
      (pieces (Bool.le_refl _) depth parameters)).append
      (pieces (Bool.le_refl _) depth arguments)).append
      (pieces (Bool.le_refl _) depth within)).append
      (pieces (Bool.le_refl _) depth filter)).append (ofSolid nulls.toList)).append
      (pieces h depth windowed)).append (ite (ofSolid ['\x7d']) .nil)

theorem cte {free laid : Bool} (h : laid ≤ free) (depth : Nat) :
    ∀ c : Cte, Fills (c.seamed free) (c.write laid depth)
  | ⟨label, mode, q, origin⟩ => by
    refine Fills.append (((((((plain depth label.wording).append (ofSolid _)).append
      (ofSolid mode.toList)).append (.char '(' (fold h depth))).append (step h)).append
      (query h _ q)).append (fold h depth) |>.append (ofSolid [')'])) ?_
    cases origin with
    | none => exact .nil
    | some i => exact (ofSolid _).append (plain depth i.wording)

theorem ctes {free laid : Bool} (h : laid ≤ free) (depth : Nat) :
    ∀ cs : List Cte, Fills (seamedCtes free cs) (writeCtes laid depth cs)
  | [] => .nil
  | [c] => cte h depth c
  | c :: next :: cs => ((cte h depth c).append (ofSolid _)).append (ctes h depth (next :: cs))

theorem query {free laid : Bool} (h : laid ≤ free) (depth : Nat) :
    ∀ q : Query, Fills (q.seamed free) (q.write laid depth)
  | ⟨_, cs, b, order, limit, settings, fetch, rest⟩ =>
    ((((((ite .nil ((((ofSolid _).append (ite (ofSolid _) .nil)).append (ctes h depth cs)).append
      (gap h depth))).append (body h depth b)).append (pieces h depth order)).append
      (pieces h depth limit)).append (pieces h depth settings)).append
      (pieces h depth fetch)).append (pieces h depth rest)

theorem body {free laid : Bool} (h : laid ≤ free) (depth : Nat) :
    ∀ b : Body, Fills (b.seamed free) (b.write laid depth)
  | .select s => select h depth s
  | .combined l op r =>
    ((((body h depth l).append (gap h depth)).append (ofSolid op.toList)).append
      (gap h depth)).append (body h depth r)
  | .parenthesized q => (Fills.char '(' (query h depth q)).append (ofSolid [')'])
  | .change s => statement h depth s
  | .other wording => pieces h depth wording

theorem select {free laid : Bool} (h : laid ≤ free) (depth : Nat) :
    ∀ s : Select, Fills (s.seamed free) (s.write laid depth)
  | ⟨head, is, into, ss, order, clauses, windows, qualify, _, connect⟩ => by
    refine (((((((?_ : Fills _ _).append (pieces h depth head)).append
      (ite .nil (((gap h depth).append (step h)).append (items h _ is)))).append
      (pieces h depth into)).append
      (ite .nil ((heading h depth "FROM").append (sources h _ ss)))).append
      (pieces h depth clauses)).append
      (ite ((pieces h depth windows).append (pieces h depth qualify))
        ((pieces h depth qualify).append (pieces h depth windows)))).append
      (pieces h depth connect)
    cases order with
    | itemsFirst => exact ofSolid _
    | sourcesFirst =>
      exact ((ofSolid _).append (sources (Bool.le_refl _) depth ss)).append (ofSolid _)
    | sourcesOnly => exact (ofSolid _).append (sources (Bool.le_refl _) depth ss)

theorem item {free laid : Bool} (h : laid ≤ free) (depth : Nat) :
    ∀ i : Item, Fills (i.seamed free) (i.write laid depth)
  | .expr e none => expr h depth e
  | .expr e (some label) =>
    ((expr h depth e).append (ofSolid _)).append (plain depth label.wording)
  | .star qualifier options =>
    (pieces (Bool.le_refl _) depth qualifier).append
      (.char '*' (pieces (Bool.le_refl _) depth options))

theorem items {free laid : Bool} (h : laid ≤ free) (depth : Nat) :
    ∀ is : List Item, Fills (seamedItems free is) (writeItems laid depth is)
  | [] => .nil
  | [i] => item h depth i
  | i :: next :: is =>
    ((item h depth i).append (.char ',' (gap h depth))).append (items h depth (next :: is))

theorem relation {free laid : Bool} (h : laid ≤ free) (depth : Nat) :
    ∀ r : Relation, Fills (r.seamed free) (r.write laid depth)
  | ⟨table, wording, label, options⟩ => by
    refine (((name depth table).append (pieces h depth wording)).append ?_).append
      (pieces h depth options)
    cases label with
    | none => exact .nil
    | some a => exact .char ' ' (plain depth a.wording)

theorem join (depth : Nat) : ∀ j : Join, Fills j.seamed (j.write depth)
  | ⟨operator, r, condition⟩ =>
    ((pieces (Bool.le_refl _) depth operator).append (relation (Bool.le_refl _) depth r)).append
      (pieces (Bool.le_refl _) depth condition)

theorem joins {free laid : Bool} (h : laid ≤ free) (depth : Nat) :
    ∀ js : List Join, Fills (seamedJoins free js) (writeJoins laid depth js)
  | [] => .nil
  | j :: js => ((gap h depth).append (join depth j)).append (joins h depth js)

theorem source {free laid : Bool} (h : laid ≤ free) (depth : Nat) :
    ∀ s : Source, Fills (s.seamed free) (s.write laid depth)
  | ⟨r, js⟩ => (relation h depth r).append (joins h depth js)

theorem sources {free laid : Bool} (h : laid ≤ free) (depth : Nat) :
    ∀ ss : List Source, Fills (seamedSources free ss) (writeSources laid depth ss)
  | [] => .nil
  | [s] => source h depth s
  | s :: next :: ss =>
    ((source h depth s).append (.char ',' (gap h depth))).append (sources h depth (next :: ss))

theorem assignment (depth : Nat) : ∀ a : Assignment, Fills a.seamed (a.write depth)
  | ⟨targets, _, value⟩ =>
    ((ite ((Fills.char '(' (names (Bool.le_refl _) depth targets)).append (ofSolid [')']))
      (names (Bool.le_refl _) depth targets)).append (ofSolid _)).append
      (expr (Bool.le_refl _) depth value)

theorem assignments {free laid : Bool} (h : laid ≤ free) (depth : Nat) :
    ∀ as : List Assignment, Fills (seamedAssignments free as) (writeAssignments laid depth as)
  | [] => .nil
  | [a] => assignment depth a
  | a :: next :: as =>
    ((assignment depth a).append (.char ',' (gap h depth))).append
      (assignments h depth (next :: as))

theorem statement {free laid : Bool} (h : laid ≤ free) (depth : Nat) :
    ∀ s : Statement, Fills (s.seamed free) (s.write laid depth)
  | .query q => query h depth q
  | .insert head partition source rest =>
    (((pieces h depth head).append (pieces h depth partition)).append
      (pieces h depth source)).append (pieces h depth rest)
  | .update head target before as after rest =>
    (((((ofSolid head.toList).append (source h depth target)).append
      (ite .nil ((heading h depth "FROM").append (sources h _ before)))).append
      (ite .nil ((heading h depth "SET").append (assignments h _ as)))).append
      (ite .nil ((heading h depth "FROM").append (sources h _ after)))).append
      (pieces h depth rest)
  | .delete tables _ ss rest =>
    ((((((ofSolid _).append
      (ite .nil (((gap h depth).append (step h)).append (names h _ tables)))).append
      (ite (ofSolid _) .nil)).append (gap h depth)).append (step h)).append
      (sources h _ ss)).append (pieces h depth rest)
  | .other wording => pieces h depth wording

end

end Fills

/-! ### Runs -/

namespace Seamed

/-- What stands between the seams. -/
def parts : Seamed → List (List Char)
  | [] => [[]]
  | none :: ms => [] :: parts ms
  | some c :: ms => (parts ms).modifyHead (c :: ·)

/-- The runs between the seams, without the white space at the seams. -/
def runs (ms : Seamed) : List (List Char) := trimmed ms.parts

end Seamed

/-- What fills the seams has the first part in front, and behind it the runs of the others. -/
theorem Fills.exists_parts {ms : Seamed} {cs : List Char} (h : Fills ms cs) :
    ∃ first rest back, ms.parts = first :: rest ∧ cs = first ++ back ∧
      Spread (trimmed rest) back := by
  induction h with
  | nil => exact ⟨[], [], [], rfl, rfl, .blank .nil⟩
  | char c _ ih =>
    obtain ⟨first, rest, back, hparts, rfl, hback⟩ := ih
    exact ⟨c :: first, rest, back, by rw [Seamed.parts, hparts]; rfl, rfl, hback⟩
  | @seam blanks cs ms hblanks _ ih =>
    obtain ⟨first, rest, back, hparts, rfl, hback⟩ := ih
    exact ⟨[], first :: rest, blanks ++ (first ++ back), by rw [Seamed.parts, hparts], rfl,
      (hback.trimmed_cons first).blank_append hblanks⟩

theorem Fills.spread {ms : Seamed} {cs : List Char} (h : Fills ms cs) : Spread ms.runs cs := by
  obtain ⟨first, rest, back, hparts, rfl, hback⟩ := h.exists_parts
  rw [Seamed.runs, hparts]
  exact hback.trimmed_cons first

namespace Statement

/-- The runs of a statement, which its layout leaves as they are. -/
def runs (s : Statement) : List (List Char) := (s.seamed true).runs

/-- **On one line or laid out, a statement is spread over the same runs.** -/
theorem spread (s : Statement) (laid : Bool) (depth : Nat) :
    Spread s.runs (s.write laid depth) := (Fills.statement (Bool.le_true laid) depth s).spread

end Statement

end EmbeddedSql.Sql
