/-! A cheap test in front of the parser: whether a text holds a verb of SQL at all.

The verb may stand anywhere, inside a longer word too. Case does not matter, and neither does
whether the `s` is the long one. -/
namespace EmbeddedSql

inductive Verb
  | select | update | delete | insert | create | alter | drop | truncate
deriving DecidableEq, Repr

namespace Verb

def spelling : Verb → String
  | select => "SELECT"
  | update => "UPDATE"
  | delete => "DELETE"
  | insert => "INSERT"
  | create => "CREATE"
  | alter => "ALTER"
  | drop => "DROP"
  | truncate => "TRUNCATE"

/-- The verbs that read or write rows. -/
def manipulating : List Verb := [select, update, delete, insert]

/-- The verbs that change what tables there are. -/
def defining : List Verb := [create, alter, drop, truncate]

def isManipulating (v : Verb) : Bool := manipulating.contains v

end Verb

namespace Gate

/-- Whether a character is this capital, in any of its forms. -/
def sameLetter (capital c : Char) : Bool :=
  c.toUpper = capital || (capital = 'S' && c = 'ſ')

/-- Whether a text starts with a word in any case. -/
def starts (word text : List Char) : Bool :=
  match word, text with
  | [], _ => true
  | w :: word, c :: text => sameLetter w c && starts word text
  | _ :: _, [] => false

/-- Whether a word stands somewhere in a text. -/
def occurs (word text : List Char) : Bool :=
  match text with
  | [] => word.isEmpty
  | c :: rest => starts word (c :: rest) || occurs word rest

def mentions (verbs : List Verb) (text : String) : Bool :=
  verbs.any fun v => occurs v.spelling.toList text.toList

/-- Whether a text may be a statement that reads or writes rows. -/
def maybeQuery (text : String) : Bool := mentions Verb.manipulating text

/-- Whether a text may be a statement that changes what tables there are. -/
def maybeDefinition (text : String) : Bool := mentions Verb.defining text

end Gate

end EmbeddedSql
