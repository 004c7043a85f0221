import EmbeddedSql.Error
import EmbeddedSql.Gate
import EmbeddedSql.Host
import EmbeddedSql.Sql.Grammar.Statement
import EmbeddedSql.Text.Lines

/-! Looking at a part of a document as a query, and revising the query in place.

A revision that fails, or that gives a text which cannot be read any more, leaves the part
of the document as it was. -/
namespace EmbeddedSql

open Sql Text

/-- The statements of a text. -/
def readStatements (d : Dialect) (sql : String) : Except Error (List Statement) :=
  (Statement.parseAll d sql).mapError .invalidQuery

def dialectOf (name : String) : Except Error Dialect :=
  match Dialect.named? name with
  | some d => .ok d
  | none => .error (.unknownDialect name)

/-- How texts are read, and how text blocks are written. -/
structure Engine where
  readAll : String → Except Error (List Statement)
  style : TextBlock.Style

def Settings.style (s : Settings) : TextBlock.Style := ⟨s.useTabs, s.tabSize⟩

namespace Engine

def ofDialect (d : Dialect) (style : TextBlock.Style) : Engine := ⟨readStatements d, style⟩

def ofSettings (s : Settings) : Except Error Engine := do
  return .ofDialect (← dialectOf s.dialect) s.style

/-- The first statement of a text, all of which must be readable. -/
def read (e : Engine) (sql : String) : Except Error Statement :=
  match e.readAll sql with
  | .ok (s :: _) => .ok s
  | .ok [] => .error .emptyQuery
  | .error fault => .error fault

def reads (e : Engine) (sql : String) : Bool :=
  match e.read sql with
  | .ok _ => true
  | .error _ => false

/-- Whether a text is SQL: whatever stands between its semicolons can be read. A semicolon in
a literal counts too. -/
def isSql (e : Engine) (text : String) : Bool :=
  (Gate.maybeQuery text || Gate.maybeDefinition text) &&
    (((cut ';' text.toList).map String.ofList).filter fun s => !isBlankText s).all e.reads

end Engine

/-- A part of a document and the statement that its text is. -/
structure View where
  host : Host
  statement : Statement

/-- What makes a new text of a text and its statement. -/
abbrev Revision := String → Statement → Except Error String

def View.text (v : View) : String := v.host.text

namespace Engine

def view? (e : Engine) (h : Host) : Option View :=
  if Gate.maybeQuery h.text then
    match e.read h.text with
    | .ok s => some ⟨h, s⟩
    | .error _ => none
  else none

def tryRevise (e : Engine) (v : View) (r : Revision) : Except Error Host :=
  match r v.text v.statement with
  | .error fault => .error fault
  | .ok sql =>
    if sql = v.text then .ok v.host
    else
      match e.read sql with
      | .error fault => .error fault
      | .ok _ => .ok (v.host.withSql e.style sql)

/-- The revised part of the document, or the old one if the revision fails. -/
def revise (e : Engine) (v : View) (r : Revision) : Host :=
  match e.tryRevise v r with
  | .ok h => h
  | .error _ => v.host

end Engine

namespace Revision

/-- The canonical text of a statement. -/
def canonical : Revision := fun _ s => .ok s.text

def rename (r : Call.Renaming) : Revision := fun sql s =>
  match r.apply sql s with
  | .ok renamed => .ok renamed.text
  | .error fault => .error (.rename fault)

end Revision

end EmbeddedSql
