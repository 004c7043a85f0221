import EmbeddedSql.Call.Find
import EmbeddedSql.Text.Letter
import EmbeddedSql.Text.Position
import EmbeddedSql.Text.Quoted

/-! Renaming calls in the text of a statement.

A tree knows where the words of a name stand. The new name is put there, and all else of the
text stays as it is. -/
namespace EmbeddedSql.Call

open Sql Text

/-- Why a call cannot be renamed. -/
inductive RenamingError
  /-- The name has no word of its own. -/
  | noName (call : String)
  /-- The text does not spell the name out. -/
  | noPlace (name : String)
  /-- Something else stands where the name should. -/
  | wrongPlace (name found : String)
deriving DecidableEq, Repr

def RenamingError.message : RenamingError → String
  | noName call => "function without a name: " ++ call
  | noPlace name => "no source position for function " ++ name
  | wrongPlace name found => "source position of " ++ name ++ " points at " ++ quoted found

/-- The new name for the calls that match. -/
structure Renaming where
  pattern : Pattern
  newName : String

/-- A new spelling of a part of a text. -/
structure Replacement where
  span : Span
  spelling : String
deriving DecidableEq, Repr

/-- A text with replacements made in it, and where it has them. -/
structure Renamed where
  text : String
  changes : List Span
deriving DecidableEq, Repr

def Renamed.isChanged (r : Renamed) : Bool := !r.changes.isEmpty

/-! ### One call -/

/-- Whether `part` stands in `cs`. -/
def occursIn (part cs : List Char) : Bool :=
  match cs with
  | [] => part.isEmpty
  | c :: rest => part.isPrefixOf (c :: rest) || occursIn part rest

/-- Whether there are letters, and all of them are capitals. -/
def inCapitals (cs : List Char) : Bool :=
  let letters := cs.filter isAlphabetic
  !letters.isEmpty && letters.all isUppercase

/-- A name in capitals is replaced by one in capitals. -/
def cased (newName : String) (written : List Char) : String :=
  if inCapitals written then upper newName else newName

/-- A name between the quotes that `q` opens. -/
def inQuotes (q : Option Char) (name : String) : String :=
  match q with
  | some q => q.toString ++ name ++ (closingQuote q).toString
  | none => name

/-- Where the words from `first` to `last` stand. -/
def spanOf? (sql : String) (first last : Ident) : Option Span :=
  match first.extent, last.extent with
  | some (start, _), some (_, stop) => Span.resolve? sql start stop
  | _, _ => none

def Renaming.replacement (r : Renaming) (sql : String) (c : Sql.Call) :
    Except RenamingError Replacement :=
  let words := Name.idents c.name
  match words.head?, words.getLast? with
  | some first, some last =>
    match spanOf? sql first last with
    | none => .error (.noPlace (Name.text c.name))
    | some span =>
      let written := span.slice sql.toList
      if occursIn (lower last.value).toList (lower (String.ofList written)).toList then
        .ok ⟨span, inQuotes last.quote (cased r.newName written)⟩
      else .error (.wrongPlace (Name.text c.name) (String.ofList written))
  | _, _ => .error (.noName c.text)

/-! ### All calls -/

/-- Puts replacements into a text, `cs` of which is left. The text is read up to the byte
`read`, and `written` bytes have been written. A replacement that starts in front of `read`
is left out. -/
def splice (read written : Nat) (cs : List Char) :
    List Replacement → List Char × List Span
  | [] => (cs, [])
  | r :: rs =>
    if r.span.start < read then splice read written cs rs
    else
      let gap := takeBytes (r.span.start - read) cs
      let start := written + byteCount gap
      let spelling := r.spelling.toList
      let stop := start + byteCount spelling
      let (text, changes) :=
        splice r.span.stop stop (dropBytes (r.span.stop - read) cs) rs
      (gap ++ spelling ++ text, ⟨start, stop⟩ :: changes)

def Renaming.apply (r : Renaming) (sql : String) (s : Statement) :
    Except RenamingError Renamed := do
  let calls := s.calls.filter fun c => r.pattern.matches (Name.dotted c.name)
  let replacements ← calls.mapM (r.replacement sql)
  let (text, changes) :=
    splice 0 0 sql.toList (replacements.mergeSort fun a b => a.span.before b.span)
  return ⟨String.ofList text, changes⟩

end EmbeddedSql.Call
