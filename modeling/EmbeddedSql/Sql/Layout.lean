import EmbeddedSql.Sql.Syntax

/-! The text of a tree: on one line, or laid out over many.

Both come from one walk. Laid out, a wording breaks its lines where it says so, and each
line is indented by as many steps as wordings are nested around it. A break is a text of its
own, and so is what stands between the quotes of a literal: a literal that holds a line feed
and nothing else is indented like a break, longer ones are kept as they are. -/
namespace EmbeddedSql.Sql

open Text

/-- A text in quotes as it is written: a quote inside is doubled, unless it is doubled
already or follows a backslash. `escaped` tells whether a backslash was in front. -/
def doubleQuotes (quote : Char) (escaped : Bool) : List Char → List Char
  | [] => []
  | [c] => if c = quote && !escaped then [c, c] else [c]
  | c :: d :: cs =>
    if c = quote && !escaped then
      if d = quote then c :: d :: doubleQuotes quote false cs
      else c :: c :: doubleQuotes quote false (d :: cs)
    else c :: doubleQuotes quote (c = '\\' || (c = quote && escaped)) (d :: cs)

def Ident.wording (i : Ident) : Wording :=
  match i.quote with
  | none => [.text i.value]
  | some '[' => [.text "[", .text i.value, .text "]"]
  | some q =>
    [.text q.toString, .text (String.ofList (doubleQuotes q false i.value.toList)),
      .text q.toString]

def NamePart.wording : NamePart → Wording
  | .ident i => i.wording
  | .made f arguments => f.wording ++ say "(" ++ arguments ++ say ")"

def Name.wording : Name → Wording
  | [] => []
  | [part] => part.wording
  | part :: rest => part.wording ++ say "." ++ Name.wording rest

/-- Words with dots between them. -/
def pathWording (path : List Ident) : Wording := Name.wording (path.map .ident)

/-- A list with commas on one line. -/
def commas : List Wording → Wording
  | [] => []
  | [w] => w
  | w :: ws => w ++ .text ", " :: commas ws

/-- A list with commas, one line for each member when laid out. -/
def lines : List Wording → Wording
  | [] => []
  | [w] => w
  | w :: ws => w ++ .text "," :: .gap :: lines ws

def Alias.wording (a : Alias) : Wording :=
  (if a.marked then [.text "AS "] else []) ++ a.name.wording ++
    if a.columns.isEmpty then []
    else .text " (" :: commas (a.columns.map fun (c, type) =>
      c.wording ++ if type = "" then [] else [.text (" " ++ type)]) ++ [.text ")"]

/-- A line feed and the indentation of the line behind it. -/
def lineBreak (depth : Nat) : List Char := '\n' :: List.replicate (2 * depth) ' '

/-- What a gap writes. -/
def gapText (laid : Bool) (depth : Nat) : List Char := if laid then lineBreak depth else [' ']

/-- What a fold writes. -/
def foldText (laid : Bool) (depth : Nat) : List Char := if laid then lineBreak depth else []

/-- What an indented part starts with. -/
def stepText (laid : Bool) : List Char := if laid then [' ', ' '] else []

def deeper (laid : Bool) (depth : Nat) : Nat := if laid then depth + 1 else depth

/-- A word of its own, and the indentation of the list behind it. -/
def heading (laid : Bool) (depth : Nat) (word : String) : List Char :=
  gapText laid depth ++ word.toList ++ gapText laid depth ++ stepText laid

/-- A wording that holds no node. -/
def plainText (depth : Nat) (w : Wording) : List Char :=
  w.flatMap fun
    | .text s => if s = "\n" then lineBreak depth else s.toList
    | _ => []

mutual

def Piece.write (laid : Bool) (depth : Nat) : Piece → List Char
  | .text s => if s = "\n" then lineBreak depth else s.toList
  | .gap => gapText laid depth
  | .fold => foldText laid depth
  | .nest inner => stepText laid ++ writePieces laid (deeper laid depth) inner
  | .flat inner => writePieces false depth inner
  | .expr e => e.write laid depth
  | .query q => q.write laid depth
  | .source s => s.write laid depth
  | .statement s => s.write laid depth

def writePieces (laid : Bool) (depth : Nat) : List Piece → List Char
  | [] => []
  | p :: ps => p.write laid depth ++ writePieces laid depth ps

def Expr.write (laid : Bool) (depth : Nat) : Expr → List Char
  | .column path => plainText depth (pathWording path)
  | .literal wording => writePieces false depth wording
  | .call c => c.write laid depth
  | .access root way => root.write laid depth ++ writePieces false depth way
  | .binary l op r => l.write false depth ++ ' ' :: op.toList ++ ' ' :: r.write false depth
  | .trim side what subject =>
    "TRIM(".toList ++ side.toList ++ writePieces false depth what ++ subject.write false depth
      ++ [')']
  | .phrase wording => writePieces false depth wording
  | .block wording => writePieces laid depth wording

def NamePart.write (depth : Nat) : NamePart → List Char
  | .ident i => plainText depth i.wording
  | .made f arguments =>
    plainText depth f.wording ++ '(' :: writePieces false depth arguments ++ [')']

def writeName (depth : Nat) : List NamePart → List Char
  | [] => []
  | [part] => part.write depth
  | part :: rest => part.write depth ++ '.' :: writeName depth rest

/-- Names with commas, one line for each when laid out. -/
def writeNames (laid : Bool) (depth : Nat) : List (List NamePart) → List Char
  | [] => []
  | [name] => writeName depth name
  | name :: names =>
    writeName depth name ++ ',' :: gapText laid depth ++ writeNames laid depth names

def Call.write (laid : Bool) (depth : Nat) : Call → List Char
  | ⟨name, parameters, arguments, within, filter, nulls, windowed, braced⟩ =>
    (if braced then "\x7bfn ".toList else []) ++ writeName depth name
      ++ writePieces false depth parameters ++ writePieces false depth arguments
      ++ writePieces false depth within ++ writePieces false depth filter ++ nulls.toList
      ++ writePieces laid depth windowed ++ if braced then ['\x7d'] else []

def Cte.write (laid : Bool) (depth : Nat) : Cte → List Char
  | ⟨label, mode, query, origin⟩ =>
    plainText depth label.wording ++ " AS ".toList ++ mode.toList
      ++ '(' :: foldText laid depth ++ stepText laid ++ query.write laid (deeper laid depth)
      ++ foldText laid depth ++ [')']
      ++ (match origin with
        | some i => " FROM ".toList ++ plainText depth i.wording
        | none => [])

def writeCtes (laid : Bool) (depth : Nat) : List Cte → List Char
  | [] => []
  | [c] => c.write laid depth
  | c :: cs => c.write laid depth ++ ", ".toList ++ writeCtes laid depth cs

def Query.write (laid : Bool) (depth : Nat) : Query → List Char
  | ⟨recursive, ctes, body, order, limit, settings, fetch, rest⟩ =>
    (if ctes.isEmpty then []
      else "WITH ".toList ++ (if recursive then "RECURSIVE ".toList else [])
        ++ writeCtes laid depth ctes ++ gapText laid depth)
      ++ body.write laid depth ++ writePieces laid depth order ++ writePieces laid depth limit
      ++ writePieces laid depth settings ++ writePieces laid depth fetch
      ++ writePieces laid depth rest

def Body.write (laid : Bool) (depth : Nat) : Body → List Char
  | .select s => s.write laid depth
  | .combined l op r =>
    l.write laid depth ++ gapText laid depth ++ op.toList ++ gapText laid depth
      ++ r.write laid depth
  | .parenthesized q => '(' :: q.write laid depth ++ [')']
  | .change s => s.write laid depth
  | .other wording => writePieces laid depth wording

def Select.write (laid : Bool) (depth : Nat) : Select → List Char
  | ⟨head, items, into, sources, order, clauses, windows, qualify, windowsFirst, connect⟩ =>
    (match order with
      | .itemsFirst => "SELECT".toList
      | .sourcesFirst => "FROM ".toList ++ writeSources false depth sources ++ " SELECT".toList
      | .sourcesOnly => "FROM ".toList ++ writeSources false depth sources)
      ++ writePieces laid depth head
      ++ (if items.isEmpty then []
        else gapText laid depth ++ stepText laid ++ writeItems laid (deeper laid depth) items)
      ++ writePieces laid depth into
      ++ (if sources.isEmpty || order ≠ .itemsFirst then []
        else heading laid depth "FROM" ++ writeSources laid (deeper laid depth) sources)
      ++ writePieces laid depth clauses
      ++ (if windowsFirst then writePieces laid depth windows ++ writePieces laid depth qualify
        else writePieces laid depth qualify ++ writePieces laid depth windows)
      ++ writePieces laid depth connect

def Item.write (laid : Bool) (depth : Nat) : Item → List Char
  | .expr e none => e.write laid depth
  | .expr e (some label) =>
    e.write laid depth ++ " AS ".toList ++ plainText depth label.wording
  | .star qualifier options =>
    writePieces false depth qualifier ++ '*' :: writePieces false depth options

def writeItems (laid : Bool) (depth : Nat) : List Item → List Char
  | [] => []
  | [i] => i.write laid depth
  | i :: is => i.write laid depth ++ ',' :: gapText laid depth ++ writeItems laid depth is

def Relation.write (laid : Bool) (depth : Nat) : Relation → List Char
  | ⟨table, wording, label, options⟩ =>
    writeName depth table ++ writePieces laid depth wording
      ++ (match label with
        | some a => ' ' :: plainText depth a.wording
        | none => [])
      ++ writePieces laid depth options

def Join.write (depth : Nat) : Join → List Char
  | ⟨operator, relation, condition⟩ =>
    writePieces false depth operator ++ relation.write false depth
      ++ writePieces false depth condition

def writeJoins (laid : Bool) (depth : Nat) : List Join → List Char
  | [] => []
  | j :: js => gapText laid depth ++ j.write depth ++ writeJoins laid depth js

def Source.write (laid : Bool) (depth : Nat) : Source → List Char
  | ⟨relation, joins⟩ => relation.write laid depth ++ writeJoins laid depth joins

def writeSources (laid : Bool) (depth : Nat) : List Source → List Char
  | [] => []
  | [s] => s.write laid depth
  | s :: ss => s.write laid depth ++ ',' :: gapText laid depth ++ writeSources laid depth ss

def Assignment.write (depth : Nat) : Assignment → List Char
  | ⟨targets, grouped, value⟩ =>
    (if grouped then '(' :: writeNames false depth targets ++ [')']
      else writeNames false depth targets) ++ " = ".toList ++ value.write false depth

def writeAssignments (laid : Bool) (depth : Nat) : List Assignment → List Char
  | [] => []
  | [a] => a.write depth
  | a :: as => a.write depth ++ ',' :: gapText laid depth ++ writeAssignments laid depth as

def Statement.write (laid : Bool) (depth : Nat) : Statement → List Char
  | .query q => q.write laid depth
  | .insert head partition source rest =>
    writePieces laid depth head ++ writePieces laid depth partition
      ++ writePieces laid depth source ++ writePieces laid depth rest
  | .update head target before assignments after rest =>
    head.toList ++ target.write laid depth
      ++ (if before.isEmpty then []
        else heading laid depth "FROM" ++ writeSources laid (deeper laid depth) before)
      ++ (if assignments.isEmpty then []
        else heading laid depth "SET" ++ writeAssignments laid (deeper laid depth) assignments)
      ++ (if after.isEmpty then []
        else heading laid depth "FROM" ++ writeSources laid (deeper laid depth) after)
      ++ writePieces laid depth rest
  | .delete tables withFrom sources rest =>
    "DELETE".toList
      ++ (if tables.isEmpty then []
        else gapText laid depth ++ stepText laid
          ++ writeNames laid (deeper laid depth) tables)
      ++ (if withFrom then " FROM".toList else []) ++ gapText laid depth ++ stepText laid
      ++ writeSources laid (deeper laid depth) sources ++ writePieces laid depth rest
  | .other wording => writePieces laid depth wording

end

/-- The text on one line. -/
def Expr.text (e : Expr) : String := String.ofList (e.write false 0)

def Call.text (c : Call) : String := String.ofList (c.write false 0)

def Item.text (i : Item) : String := String.ofList (i.write false 0)

def Name.text (n : Name) : String := String.ofList (writeName 0 n)

def Statement.text (s : Statement) : String := String.ofList (s.write false 0)

/-- The text over many lines. -/
def Statement.laidOut (s : Statement) : String := String.ofList (s.write true 0)

end EmbeddedSql.Sql
