import EmbeddedSql.Text.Position
import EmbeddedSql.TextBlock

/-! The parts of a document that hold a text: a literal of a program, a scalar of a
configuration, or a whole file.

A literal keeps its source, the spelling that it has in the program. A new text is spelled in
the way of the old one. -/
namespace EmbeddedSql

open Text

/-- How a scalar is written. -/
inductive ScalarStyle
  | plain | singleQuoted | doubleQuoted | folded | literal
deriving DecidableEq, Repr

inductive HostKind
  | literal (value source : String)
  | scalar (value : String) (style : ScalarStyle)
  | plainText (text : String)
deriving DecidableEq, Repr

/-- The delimiters of a literal. -/
inductive LiteralStyle
  | textBlock | doubleQuoted | singleQuoted
deriving DecidableEq, Repr

/-- A text-bearing part of a document, and the descriptions of the searches that found it. -/
structure Host where
  kind : HostKind
  found : List (Option String)
deriving DecidableEq, Repr

/-- Three double quotes, around a text block. -/
def blockDelimiter : List Char := ['"', '"', '"']

/-- The delimiters that a source starts with. A text block has room for both of its own. -/
def LiteralStyle.of? (source : List Char) : Option LiteralStyle :=
  match source with
  | '"' :: '"' :: '"' :: rest =>
    if 3 ≤ byteCount rest then some .textBlock else some .doubleQuoted
  | '"' :: _ => some .doubleQuoted
  | '\'' :: _ => some .singleQuoted
  | _ => none

/-- What stands between the quotes of a literal. -/
def escapeIn (quote : Char) (text : List Char) : List Char :=
  text.flatMap fun c =>
    match c with
    | '\\' => ['\\', '\\']
    | '\n' => ['\\', 'n']
    | '\r' => ['\\', 'r']
    | '\t' => ['\\', 't']
    | c => if c = quote then ['\\', c] else [c]

/-- A literal between two quotes. -/
def quotedSource (quote : Char) (text : String) : String :=
  String.ofList (quote :: escapeIn quote text.toList ++ [quote])

namespace Host

/-- A literal in double quotes. -/
def quoted (value : String) : Host := ⟨.literal value (quotedSource '"' value), []⟩

def text (h : Host) : String :=
  match h.kind with
  | .literal value _ => value
  | .scalar value _ => value
  | .plainText text => text

def source? (h : Host) : Option String :=
  match h.kind with
  | .literal _ source => some source
  | _ => none

def literalStyle? (h : Host) : Option LiteralStyle :=
  h.source?.bind fun source => LiteralStyle.of? source.toList

def isTextBlock (h : Host) : Bool := h.literalStyle? = some .textBlock

/-- What stands between the delimiters of a text block. -/
def body? (h : Host) : Option (List Char) :=
  match h.source? with
  | none => none
  | some source =>
    if LiteralStyle.of? source.toList = some .textBlock then
      let inside := source.toList.drop 3
      if blockDelimiter.isSuffixOf inside then some (inside.take (inside.length - 3)) else none
    else none

/-- A text block that holds `sql` and is indented like the one it replaces. If that one ended
in a line break, the new one does. -/
def withTextBlock (h : Host) (style : TextBlock.Style) (sql : String) : Host :=
  let body := h.body?.getD []
  let text := sql.toList
  let ended := TextBlock.endsInLineBreak body
  let text := if ended then (dropLast? '\n' text).getD text else text
  let value := if ended then text ++ ['\n'] else text
  let source := blockDelimiter ++ TextBlock.reindent style body text ++ blockDelimiter
  {h with kind := .literal (String.ofList value) (String.ofList source)}

/-- The same part of the document with another text, spelled in the same way. -/
def withSql (h : Host) (style : TextBlock.Style) (sql : String) : Host :=
  match h.kind with
  | .literal _ source =>
    match LiteralStyle.of? source.toList with
    | some .textBlock => h.withTextBlock style sql
    | some .singleQuoted => {h with kind := .literal sql (quotedSource '\'' sql)}
    | some .doubleQuoted | none => {h with kind := .literal sql (quotedSource '"' sql)}
  | .scalar _ scalarStyle => {h with kind := .scalar sql scalarStyle}
  | .plainText _ => {h with kind := .plainText sql}

/-- Adds the description of a search, unless it is there already. -/
def markFound (h : Host) (description : Option String) : Host :=
  if h.found.contains description then h else {h with found := h.found ++ [description]}

def isFound (h : Host) : Bool := !h.found.isEmpty

end Host

end EmbeddedSql
