import EmbeddedSql.Sql.Dialect
import EmbeddedSql.Sql.Token
import EmbeddedSql.Text.Casing

/-! From characters to tokens.

`lex` reads a whole text in a dialect. Every reader below takes a `Cursor`, the rest of
the text and the place where it starts, and gives back what it read and the cursor behind
it, so that every token knows its place. -/
namespace EmbeddedSql.Sql

open Text

/-- The rest of a text and the place of its first character. -/
structure Cursor where
  rest : List Char
  place : Position
deriving Repr

/-- Why a text cannot be cut into tokens. -/
inductive LexicalFault
  | unclosedText
  | unclosedName (quote : Char)
  | unclosedComment
  | unclosedDollarText
  | unclosedTaggedText
  | unclosedEscapedText
  | unclosedUnicodeText
  | unfinishedCodePoint
  | badHexDigit (c : Char)
  | badCodePoint (n : Nat)
  | underscoreAfterDot
  | unfinishedOperator (read : String)
deriving DecidableEq, Repr

def LexicalFault.message : LexicalFault → String
  | unclosedText => "Unterminated string literal"
  | unclosedName q => "Expected close delimiter '" ++ q.toString ++ "' before EOF."
  | unclosedComment => "Unexpected EOF while in a multi-line comment"
  | unclosedDollarText => "Unterminated dollar-quoted string"
  | unclosedTaggedText => "Unterminated dollar-quoted, expected $"
  | unclosedEscapedText => "Unterminated encoded string literal"
  | unclosedUnicodeText => "Unterminated unicode encoded string literal"
  | unfinishedCodePoint =>
    "Unexpected EOF while parsing hex digit in escaped unicode string."
  | badHexDigit c => "Invalid hex digit in escaped unicode string: " ++ c.toString
  | badCodePoint n => "Invalid unicode character: " ++ String.ofList (hexDigits n)
  | underscoreAfterDot => "Unexpected character '_'"
  | unfinishedOperator read => "Expected a valid binary operator after '" ++ read ++ "'"

structure LexicalError where
  fault : LexicalFault
  place : Position
deriving Repr

abbrev Reading (α : Type) := Except LexicalError (α × Cursor)

namespace Cursor

def fail {α : Type} (place : Position) (fault : LexicalFault) : Reading α :=
  .error ⟨fault, place⟩

/-- The cursor behind the first `n` characters. -/
def skip : Nat → Cursor → Cursor
  | 0, cursor => cursor
  | _, ⟨[], p⟩ => ⟨[], p⟩
  | n + 1, ⟨c :: cs, p⟩ => skip n ⟨cs, p.after c⟩

/-- The characters as long as they satisfy `keep`, which also sees the rest behind each. -/
def takeChars (keep : Char → List Char → Bool) : List Char → Position → List Char × Cursor
  | [], p => ([], ⟨[], p⟩)
  | c :: cs, p =>
    if keep c cs then
      let (taken, cursor) := takeChars keep cs (p.after c)
      (c :: taken, cursor)
    else ([], ⟨c :: cs, p⟩)

def takeWhile (keep : Char → Bool) (cursor : Cursor) : List Char × Cursor :=
  takeChars (fun c _ => keep c) cursor.rest cursor.place

end Cursor

/-! ### Quoted texts -/

/-- What a backslash and this character stand for. -/
def unescape : Char → Char
  | '0' => '\x00'
  | 'a' => '\x07'
  | 'b' => '\x08'
  | 'f' => '\x0c'
  | 'n' => '\n'
  | 'r' => '\r'
  | 't' => '\t'
  | 'Z' => '\x1a'
  | c => c

/-- The body of a literal up to its closing quote; a doubled quote stands for one. With
`backslash`, a backslash takes the next character with it; with `keepWildcards` it also
stays in front of `%` and `_`. -/
def readQuoted (quote : Char) (backslash keepWildcards : Bool) :
    List Char → Position → Option (List Char × Cursor)
  | [], _ => none
  | [c], p => if c = quote then some ([], ⟨[], p.after c⟩) else none
  | c :: d :: cs, p =>
    if c = quote then
      if d = quote then
        (readQuoted quote backslash keepWildcards cs ((p.after c).after d)).map
          fun (body, cursor) => (c :: body, cursor)
      else some ([], ⟨d :: cs, p.after c⟩)
    else if backslash && c = '\\' then
      (readQuoted quote backslash keepWildcards cs ((p.after c).after d)).map
        fun (body, cursor) =>
          if keepWildcards && (d = '%' || d = '_') then (c :: d :: body, cursor)
          else (unescape d :: body, cursor)
    else
      (readQuoted quote backslash keepWildcards (d :: cs) (p.after c)).map
        fun (body, cursor) => (c :: body, cursor)

/-- The body of a literal up to three quotes in a row; `run` quotes have just been read, and
`read` is the body so far, last character first. -/
def readTriple (quote : Char) (backslash : Bool) (run : Nat) (read : List Char) :
    List Char → Position → Option (List Char × Cursor)
  | [], _ => none
  | c :: cs, p =>
    if c = quote then
      if run = 2 then some ((read.drop 2).reverse, ⟨cs, p.after c⟩)
      else readTriple quote backslash (run + 1) (c :: read) cs (p.after c)
    else if backslash && c = '\\' then
      match cs with
      | [] => none
      | d :: ds => readTriple quote backslash 0 (unescape d :: read) ds ((p.after c).after d)
    else readTriple quote backslash 0 (c :: read) cs (p.after c)

/-- A literal that starts at the cursor with its opening quote. -/
def textAt (quote : Char) (backslash keepWildcards : Bool) (cursor : Cursor) :
    Reading String :=
  let inside := cursor.skip 1
  match readQuoted quote backslash keepWildcards inside.rest inside.place with
  | some (body, behind) => .ok (String.ofList body, behind)
  | none => Cursor.fail cursor.place .unclosedText

/-- A literal in one or three quotes; two quotes are an empty one. -/
def oneOrThreeAt (quote : Char) (backslash keepWildcards : Bool) (one three : TextKind)
    (cursor : Cursor) : Reading Token :=
  match cursor.rest with
  | _ :: b :: c :: _ =>
    if b = quote then
      if c = quote then
        let inside := cursor.skip 3
        match readTriple quote backslash 0 [] inside.rest inside.place with
        | some (body, behind) => .ok (.text three (String.ofList body), behind)
        | none => Cursor.fail inside.place .unclosedText
      else .ok (.text one "", cursor.skip 2)
    else single
  | [_, b] => if b = quote then .ok (.text one "", cursor.skip 2) else single
  | _ => single
where
  single : Reading Token :=
    let inside := cursor.skip 1
    match readQuoted quote backslash keepWildcards inside.rest inside.place with
    | some (body, behind) => .ok (.text one (String.ofList body), behind)
    | none => Cursor.fail inside.place .unclosedText

/-- The number that hexadecimal or octal digits write. -/
def digitsValue? (base : Nat) (digits : List Char) : Option Nat :=
  digits.foldlM (fun n c => do
    let d ← if c.isDigit then some (c.toNat - '0'.toNat)
      else if 'a' ≤ c ∧ c ≤ 'f' then some (c.toNat - 'a'.toNat + 10)
      else if 'A' ≤ c ∧ c ≤ 'F' then some (c.toNat - 'A'.toNat + 10)
      else none
    if d < base then some (n * base + d) else none) 0

def isHexDigit (c : Char) : Bool := (digitsValue? 16 [c]).isSome

def isOctalDigit (c : Char) : Bool := (digitsValue? 8 [c]).isSome

/-- The character with this code point, if there is one. -/
def charOf? (n : Nat) : Option Char := if n.isValidChar then some (Char.ofNat n) else none

/-- A character written by a backslash, whose escape starts with `c` and may take more from
`cs`: the character and how much of `cs` it took. -/
def escapedChar? (c : Char) (cs : List Char) : Option (Char × Nat) := do
  let (written, taken) ←
    match c with
    | 'b' => some ('\x08', 0)
    | 'f' => some ('\x0c', 0)
    | 'n' => some ('\n', 0)
    | 'r' => some ('\r', 0)
    | 't' => some ('\t', 0)
    | 'u' => codePoint 4
    | 'U' => codePoint 8
    | 'x' =>
      let digits := (cs.take 2).takeWhile isHexDigit
      if digits.isEmpty then some ('x', 0) else byte 16 digits digits.length
    | c =>
      if isOctalDigit c then
        let digits := (cs.take 2).takeWhile isOctalDigit
        byte 8 (c :: digits) digits.length
      else some (c, 0)
  if written = '\x00' then none else some (written, taken)
where
  codePoint (n : Nat) : Option (Char × Nat) := do
    if cs.length < n then none
    let digits := cs.take n
    let value ← digitsValue? 16 (if digits.head? = some '+' then digits.drop 1 else digits)
    let c ← charOf? value
    some (c, n)
  byte (base : Nat) (digits : List Char) (taken : Nat) : Option (Char × Nat) := do
    let value ← digitsValue? base digits
    if value % 256 ≤ 127 then some (Char.ofNat (value % 256), taken) else none

/-- The body of a literal whose backslashes escape, up to its closing quote. -/
def readEscaped : Nat → Cursor → Option (List Char × Cursor)
  | 0, _ => none
  | fuel + 1, cursor =>
    match cursor.rest with
    | [] => none
    | '\'' :: '\'' :: _ =>
      (readEscaped fuel (cursor.skip 2)).map fun (body, behind) => ('\'' :: body, behind)
    | '\'' :: _ => some ([], cursor.skip 1)
    | '\\' :: c :: cs => do
      let (written, taken) ← escapedChar? c cs
      let (body, behind) ← readEscaped fuel (cursor.skip (taken + 2))
      some (written :: body, behind)
    | ['\\'] => none
    | c :: _ => (readEscaped fuel (cursor.skip 1)).map fun (body, behind) => (c :: body, behind)

/-- A character given by its code point in `n` hexadecimal digits. -/
def codePointAt (n value : Nat) (cursor : Cursor) : Reading Char :=
  match n with
  | 0 =>
    match charOf? value with
    | some c => .ok (c, cursor)
    | none => Cursor.fail cursor.place (.badCodePoint value)
  | n + 1 =>
    match cursor.rest with
    | [] => Cursor.fail cursor.place .unfinishedCodePoint
    | c :: _ =>
      match digitsValue? 16 [c] with
      | some d => codePointAt n (value * 16 + d) (cursor.skip 1)
      | none => Cursor.fail (cursor.skip 1).place (.badHexDigit c)

/-- The body of a literal with code points behind backslashes, up to its closing quote. -/
def readUnicode : Nat → Cursor → Reading (List Char)
  | 0, cursor => Cursor.fail cursor.place .unclosedUnicodeText
  | fuel + 1, cursor =>
    match cursor.rest with
    | [] => Cursor.fail cursor.place .unclosedUnicodeText
    | '\'' :: '\'' :: _ => cons '\'' (readUnicode fuel (cursor.skip 2))
    | '\'' :: _ => .ok ([], cursor.skip 1)
    | '\\' :: '\\' :: _ => cons '\\' (readUnicode fuel (cursor.skip 2))
    | '\\' :: '+' :: _ =>
      (codePointAt 6 0 (cursor.skip 2)).bind fun (c, behind) => cons c (readUnicode fuel behind)
    | '\\' :: _ =>
      (codePointAt 4 0 (cursor.skip 1)).bind fun (c, behind) => cons c (readUnicode fuel behind)
    | c :: _ => cons c (readUnicode fuel (cursor.skip 1))
where
  cons (c : Char) (read : Reading (List Char)) : Reading (List Char) :=
    read.map fun (body, behind) => (c :: body, behind)

/-- A name in quotes; a doubled closing quote stands for one. -/
def nameAt (opening : Char) (cursor : Cursor) : Reading String :=
  let closing := closingQuote opening
  let inside := cursor.skip 1
  match readQuoted closing false false inside.rest inside.place with
  | some (body, behind) => .ok (String.ofList body, behind)
  | none => Cursor.fail cursor.place (.unclosedName closing)

/-! ### Words and numbers -/

def makeWord (value : String) (quote : Option Char) : Token :=
  .word value quote (if quote.isSome then "" else upper value)

/-- The word that starts with `read`, which is behind the cursor already. -/
def wordFrom (d : Dialect) (read : List Char) (cursor : Cursor) : Token × Cursor :=
  let (more, behind) := cursor.takeWhile d.continuesWord
  (makeWord (String.ofList (read ++ more)) none, behind)

/-- A word that starts at the cursor and whose first `n` characters are part of it
whatever they are. -/
def wordAt (d : Dialect) (n : Nat) (cursor : Cursor) : Token × Cursor :=
  wordFrom d (cursor.rest.take n) (cursor.skip n)

/-- Digits, with single underscores between them where the dialect has those. -/
def digitsAt (d : Dialect) (isDigit : Char → Bool) (cursor : Cursor) : List Char × Cursor :=
  Cursor.takeChars (fun c cs =>
    isDigit c || (d.digitSeparators && c = '_' &&
      match cs with
      | next :: _ => isHexDigit next
      | [] => false)) cursor.rest cursor.place

/-- Whether the cursor is at the letter that may start the exponent of a number. -/
def atExponent (cursor : Cursor) : Bool :=
  cursor.rest.head? = some 'e' || cursor.rest.head? = some 'E'

/-- The exponent of a number, if the cursor is at one. -/
def exponentAt (cursor : Cursor) : List Char × Cursor :=
  if atExponent cursor then
    let sign := cursor.rest.drop 1 |>.head?
    let n := if sign = some '+' || sign = some '-' then 2 else 1
    let (digits, behind) := (cursor.skip n).takeWhile Char.isDigit
    if digits.isEmpty then ([], cursor) else (cursor.rest.take n ++ digits, behind)
  else ([], cursor)

def isWord : Option Token → Bool
  | some (.word ..) => true
  | _ => false

/-- A number, a dot, or a word that starts with digits. `previous` is the token directly in
front. -/
def numberAt (d : Dialect) (previous : Option Token) (cursor : Cursor) : Reading Token :=
  match cursor.rest with
  | '.' :: '_' :: _ =>
    if isWord previous then .ok (.sign ".", cursor.skip 1)
    else Cursor.fail cursor.place .underscoreAfterDot
  | _ =>
    let (whole, cursor) := digitsAt d Char.isDigit cursor
    if whole = ['0'] && cursor.rest.head? = some 'x' then
      let (digits, cursor) := digitsAt d isHexDigit (cursor.skip 1)
      .ok (.text .hex (String.ofList digits), cursor)
    else
      let (read, cursor) :=
        if cursor.rest.head? = some '.' then (whole ++ ['.'], cursor.skip 1)
        else (whole, cursor)
      if read = ['.'] && d.wordsMayStartWithDigits && isWord previous then
        .ok (.sign ".", cursor)
      else
        let (fraction, cursor) := digitsAt d Char.isDigit cursor
        let read := read ++ fraction
        if read = ['.'] then .ok (.sign ".", cursor)
        else
          let scientific := atExponent cursor
          let (exponent, cursor) := exponentAt cursor
          let read := read ++ exponent
          let (more, behind) :=
            if d.wordsMayStartWithDigits && !scientific then cursor.takeWhile d.continuesWord
            else ([], cursor)
          if !more.isEmpty then .ok (makeWord (String.ofList (read ++ more)) none, behind)
          else if d.wordsMayStartWithDigits && scientific && previous = some (.sign ".") then
            .ok (makeWord (String.ofList read) none, cursor)
          else if cursor.rest.head? = some 'L' then
            .ok (.number (String.ofList read) true, cursor.skip 1)
          else .ok (.number (String.ofList read) false, cursor)

/-! ### Comments -/

/-- A comment that `mark` opens: the mark, the rest of the line and the character that ends
it. -/
def lineCommentAt (d : Dialect) (mark : String) (cursor : Cursor) : String × Cursor :=
  let (body, behind) := (cursor.skip mark.length).takeWhile fun c =>
    !(c = '\n' || (c = '\r' && d = .postgres))
  (mark ++ String.ofList (body ++ behind.rest.take 1), behind.skip 1)

/-- The body of a comment up to the sign that closes it; `depth` comments are open. -/
def readComment (nested : Bool) : Nat → List Char → Position → List Char × Option Cursor
  | _, [], _ => ([], none)
  | _, [c], _ => ([c], none)
  | depth, c :: d :: cs, p =>
    let behind := (p.after c).after d
    if c = '/' && d = '*' && nested then
      let (body, cursor) := readComment nested (depth + 1) cs behind
      (c :: d :: body, cursor)
    else if c = '*' && d = '/' then
      if depth ≤ 1 then ([], some ⟨cs, behind⟩)
      else
        let (body, cursor) := readComment nested (depth - 1) cs behind
        (c :: d :: body, cursor)
    else
      let (body, cursor) := readComment nested depth (d :: cs) (p.after c)
      (c :: body, cursor)

/-! ### Dollar signs -/

/-- The body of a literal between doubled dollar signs. `afterDollar` tells whether the
character before was a dollar sign. -/
def readDollars (afterDollar : Bool) : List Char → Position → Option (List Char × Cursor)
  | [], _ => none
  | c :: cs, p =>
    if afterDollar then
      if c = '$' then some ([], ⟨cs, p.after c⟩)
      else (readDollars false cs (p.after c)).map fun (body, k) => ('$' :: c :: body, k)
    else if c = '$' then readDollars true cs (p.after c)
    else (readDollars false cs (p.after c)).map fun (body, k) => (c :: body, k)

/-- The characters in front of `ending`. -/
def readUntil (ending : List Char) : List Char → Position → Option (List Char × Cursor)
  | [], _ => none
  | c :: cs, p =>
    if ending.isPrefixOf (c :: cs) then
      some ([], Cursor.skip ending.length ⟨c :: cs, p⟩)
    else (readUntil ending cs (p.after c)).map fun (body, k) => (c :: body, k)

def dollarAt (d : Dialect) (cursor : Cursor) : Reading Token :=
  let inside := cursor.skip 1
  let stop : Position := inside.place.afterAll inside.rest
  if inside.rest.head? = some '$' && !d.dollarPlaceholders then
    let inside := inside.skip 1
    match readDollars false inside.rest inside.place with
    | some (body, behind) => .ok (.dollarText (String.ofList body) none, behind)
    | none => Cursor.fail stop .unclosedDollarText
  else
    let (name, behind) := inside.takeWhile fun c =>
      isAlphanumeric c || c = '_' || (c = '$' && d.dollarPlaceholders)
    if behind.rest.head? = some '$' && !d.dollarPlaceholders then
      let behind := behind.skip 1
      match readUntil ('$' :: name ++ ['$']) behind.rest behind.place with
      | some (body, behind) =>
        let tag := if name.isEmpty then none else some (String.ofList name)
        .ok (.dollarText (String.ofList body) tag, behind)
      | none => Cursor.fail stop .unclosedTaggedText
    else .ok (.placeholder (String.ofList ('$' :: name)), behind)

/-! ### Signs -/

/-- How a sign at the cursor is read: what it is, how the start of a custom operator that it
may grow into is spelled, how many characters it takes, and whether it grows by the characters
behind it. A sign that is nothing by itself has no spelling. -/
structure SignShape where
  spelling : Option String
  start : String
  taken : Nat
  grows : Bool

def SignShape.fixed (spelling : String) : SignShape :=
  ⟨some spelling, spelling, spelling.length, false⟩

def SignShape.growing (spelling : String) : SignShape :=
  ⟨some spelling, spelling, spelling.length, true⟩

/-- Nothing by itself, only the start of a custom operator. -/
def SignShape.unfinished (start : String) : SignShape := ⟨none, start, start.length, true⟩

/-- Takes the character behind it as well, whatever it is. -/
def SignShape.greedy (spelling : String) : SignShape :=
  ⟨some spelling, spelling, spelling.length + 1, false⟩

def signShape? (d : Dialect) (cs : List Char) : Option SignShape :=
  let geo := d.geometricOperators
  match cs with
  | '(' :: _ => some (.fixed "(")
  | ')' :: _ => some (.fixed ")")
  | ',' :: _ => some (.fixed ",")
  | ';' :: _ => some (.fixed ";")
  | '\\' :: _ => some (.fixed "\\")
  | '[' :: _ => some (.fixed "[")
  | ']' :: _ => some (.fixed "]")
  | '\x7b' :: _ => some (.fixed "\x7b")
  | '\x7d' :: _ => some (.fixed "\x7d")
  | '+' :: _ => some (.fixed "+")
  | '*' :: _ => some (.fixed "*")
  | '-' :: '>' :: '>' :: _ => some (.growing "->>")
  | '-' :: '>' :: _ => some (.growing "->")
  | '-' :: _ => some (.growing "-")
  | '/' :: '/' :: _ => some (if d.integerDivision then .fixed "//" else .fixed "/")
  | '/' :: _ => some (.fixed "/")
  | '%' :: c :: _ => some (if isBlank c then .fixed "%" else .growing "%")
  | '%' :: _ => some (.growing "%")
  | '|' :: '/' :: _ => some (.growing "|/")
  | '|' :: '|' :: '/' :: _ => some (.growing "||/")
  | '|' :: '|' :: _ => some (.growing "||")
  | '|' :: '&' :: '>' :: _ => some (if geo then .growing "|&>" else .growing "|")
  | '|' :: '&' :: _ => some (if geo then .unfinished "|&" else .growing "|")
  | '|' :: '>' :: '>' :: _ =>
    some (if geo then .growing "|>>" else if d.pipeOperator then .growing "|>" else .growing "|")
  | '|' :: '>' :: _ =>
    some (if geo then .unfinished "|>" else if d.pipeOperator then .growing "|>" else .growing "|")
  | '|' :: _ => some (.growing "|")
  | '=' :: '>' :: _ => some (.fixed "=>")
  | '=' :: '=' :: _ => some (.fixed "==")
  | '=' :: _ => some (.fixed "=")
  | '!' :: '=' :: _ => some ⟨some "<>", "!=", 2, false⟩
  | '!' :: '!' :: _ => some (.fixed "!!")
  | '!' :: '~' :: '*' :: _ => some (.fixed "!~*")
  | '!' :: '~' :: '~' :: '*' :: _ => some (.fixed "!~~*")
  | '!' :: '~' :: '~' :: _ => some (.fixed "!~~")
  | '!' :: '~' :: _ => some (.fixed "!~")
  | '!' :: _ => some (.fixed "!")
  | '<' :: '=' :: '>' :: _ => some (.growing "<=>")
  | '<' :: '=' :: _ => some (.growing "<=")
  | '<' :: '>' :: _ => some (.growing "<>")
  | '<' :: '<' :: '|' :: _ => some (if geo then .growing "<<|" else .growing "<<")
  | '<' :: '<' :: _ => some (.growing "<<")
  | '<' :: '|' :: _ => some (if geo then ⟨some "<<|", "<<|", 2, true⟩ else .growing "<")
  | '<' :: '-' :: '>' :: _ => some (if geo then .growing "<->" else .growing "<")
  | '<' :: '-' :: _ => some (if geo then .unfinished "<-" else .growing "<")
  | '<' :: '^' :: _ => some (if geo then .growing "<^" else .growing "<")
  | '<' :: '@' :: _ => some (.growing "<@")
  | '<' :: _ => some (.growing "<")
  | '>' :: '=' :: _ => some (.growing ">=")
  | '>' :: '>' :: _ => some (.growing ">>")
  | '>' :: '^' :: _ => some (if geo then .growing ">^" else .growing ">")
  | '>' :: _ => some (.growing ">")
  | ':' :: ':' :: _ => some (.fixed "::")
  | ':' :: '=' :: _ => some (.fixed ":=")
  | ':' :: _ => some (.fixed ":")
  | '&' :: '>' :: _ => some (if geo then .greedy "&>" else .growing "&")
  | '&' :: '<' :: '|' :: _ => some (if geo then .fixed "&<|" else .growing "&")
  | '&' :: '<' :: _ => some (if geo then .growing "&<" else .growing "&")
  | '&' :: '&' :: _ => some (.growing "&&")
  | '&' :: _ => some (.growing "&")
  | '^' :: '@' :: _ => some (.fixed "^@")
  | '^' :: _ => some (.fixed "^")
  | '~' :: '*' :: _ => some (.growing "~*")
  | '~' :: '=' :: _ => some (if geo then .growing "~=" else .growing "~")
  | '~' :: '~' :: '*' :: _ => some (.growing "~~*")
  | '~' :: '~' :: _ => some (.growing "~~")
  | '~' :: _ => some (.growing "~")
  | '#' :: '-' :: _ => some (.growing "#-")
  | '#' :: '>' :: '>' :: _ => some (.growing "#>>")
  | '#' :: '>' :: _ => some (.growing "#>")
  | '#' :: ' ' :: _ => some (.fixed "#")
  | '#' :: '#' :: _ => some (if geo then .growing "##" else .growing "#")
  | '#' :: _ => some (.growing "#")
  | '@' :: '>' :: _ => some (.fixed "@>")
  | '@' :: '?' :: _ => some (.fixed "@?")
  | '@' :: '@' :: _ => some (.fixed "@@")
  | '@' :: '-' :: '@' :: _ => some (if geo then .growing "@-@" else .fixed "@")
  | '@' :: '-' :: _ => some (if geo then .unfinished "@-" else .fixed "@")
  | '@' :: _ => some (.fixed "@")
  | '?' :: '|' :: '|' :: _ => some (.fixed "?||")
  | '?' :: '|' :: _ => some (.fixed "?|")
  | '?' :: '&' :: _ => some (.fixed "?&")
  | '?' :: '-' :: '|' :: _ => some (.fixed "?-|")
  | '?' :: '-' :: _ => some (.fixed "?-")
  | '?' :: '#' :: _ => some (.fixed "?#")
  | '?' :: _ => some (.greedy "?")
  | _ => none

def signAt (d : Dialect) (shape : SignShape) (cursor : Cursor) : Reading Token :=
  let behind := cursor.skip shape.taken
  let (more, behind) :=
    if shape.grows then behind.takeWhile d.customOperatorPart else ([], behind)
  if more.isEmpty then
    match shape.spelling with
    | some spelling => .ok (.sign spelling, behind)
    | none => Cursor.fail behind.place (.unfinishedOperator shape.start)
  else .ok (.customOperator (shape.start ++ String.ofList more), behind)

/-! ### Tokens -/

/-- What stands at a place of the text: a blank or a comment as messages show it, or a
token. -/
inductive Chunk
  | blank (shown : String)
  | token (t : Token)

/-- The two quotes that open a name inside brackets, or the one that is a bracket itself, if
the bracket opens a name at all. -/
def bracketName? (d : Dialect) (cs : List Char) : Option (Option Char) :=
  if !d.bracketsMayQuote then none else
    match cs with
    | '[' :: cs =>
      match cs.dropWhile isBlank with
      | '"' :: _ => some (some '"')
      | c :: _ => if d.startsWord c then some none else none
      | [] => none
    | _ => none

/-- A name in quotes inside brackets. The inner quotes belong to the name. -/
def innerNameAt (inner : Char) (cursor : Cursor) : Reading Token :=
  let (_, inside) := (cursor.skip 1).takeWhile isBlank
  (nameAt inner inside).bind fun (name, behind) =>
    let (_, behind) := behind.takeWhile isBlank
    if behind.rest.head? = some ']' then
      .ok (makeWord (inner.toString ++ name ++ inner.toString) (some '['), behind.skip 1)
    else Cursor.fail cursor.place (.unclosedName ']')

/-- A literal with a marker of one letter, if a quote follows the letter. -/
def markedAt? (d : Dialect) (c : Char) (cursor : Cursor) : Option (Reading Token) :=
  let inside := cursor.skip 1
  let backslash := d.backslashEscapes
  let keep := d.keepsWildcardEscapes
  let plain (kind : TextKind) (quote : Char) (backslash : Bool) : Reading Token :=
    (textAt quote backslash keep inside).map fun (s, k) => (.text kind s, k)
  match c, inside.rest with
  | 'B', q :: _ | 'b', q :: _ =>
    if !d.byteStrings then none
    else if q = '\'' then
      some (if d.tripleQuotes then oneOrThreeAt q false keep .byteSingle .tripleByteSingle inside
        else plain .byteSingle q false)
    else if q = '"' then
      some (if d.tripleQuotes then oneOrThreeAt q false keep .byteDouble .tripleByteDouble inside
        else plain .byteDouble q false)
    else none
  | 'R', q :: _ | 'r', q :: _ =>
    if !d.rawStrings then none
    else if q = '\'' then some (oneOrThreeAt q false keep .rawSingle .tripleRawSingle inside)
    else if q = '"' then some (oneOrThreeAt q false keep .rawDouble .tripleRawDouble inside)
    else none
  | 'N', q :: _ | 'n', q :: _ =>
    if q = '\'' then some (plain .national q backslash) else none
  | 'E', q :: _ | 'e', q :: _ =>
    if d.escapeStrings && q = '\'' then
      some (match readEscaped (cursor.rest.length + 1) (inside.skip 1) with
        | some (body, behind) => .ok (.text .escaped (String.ofList body), behind)
        | none => Cursor.fail cursor.place .unclosedEscapedText)
    else none
  | 'U', '&' :: '\'' :: _ | 'u', '&' :: '\'' :: _ =>
    if d.unicodeStrings then
      some ((readUnicode (cursor.rest.length + 1) (inside.skip 2)).map fun (body, k) =>
        (.text .unicode (String.ofList body), k))
    else none
  | 'X', q :: _ | 'x', q :: _ => if q = '\'' then some (plain .hex q true) else none
  | _, _ => none

/-- Whether the letter belongs to a word even in a dialect whose words do not start with it. -/
def marksText (d : Dialect) (c : Char) : Bool :=
  c = 'N' || c = 'n' || c = 'X' || c = 'x' ||
  (d.byteStrings && (c = 'B' || c = 'b')) || (d.rawStrings && (c = 'R' || c = 'r')) ||
  (d.escapeStrings && (c = 'E' || c = 'e')) || (d.unicodeStrings && (c = 'U' || c = 'u'))

/-- A word that starts with a sign: the sign and the character behind it belong to it if the
dialect starts words with the sign and that character is none of `barred`. -/
def signedWordAt? (d : Dialect) (c : Char) (n : Nat) (barred : List Char) (cursor : Cursor) :
    Option (Token × Cursor) :=
  match cursor.rest.drop n with
  | next :: _ =>
    if d.startsWord c && !barred.contains next then some (wordAt d (n + 1) cursor) else none
  | [] => none

/-- What stands at a cursor that is not at the end. `previous` is the token directly in
front, nothing if a blank is. -/
def chunkAt (d : Dialect) (previous : Option Token) (cursor : Cursor) : Reading Chunk :=
  let asToken : Token × Cursor → Reading Chunk := fun (t, k) => .ok (.token t, k)
  let asChunk (read : Reading Token) : Reading Chunk := read.map fun (t, k) => (.token t, k)
  let sign : Reading Chunk :=
    match signShape? d cursor.rest with
    | some shape => asChunk (signAt d shape cursor)
    | none => .ok (.blank " ", cursor.skip 1)
  let lineComment (mark : String) : Reading Chunk :=
    let (shown, behind) := lineCommentAt d mark cursor
    .ok (.blank shown, behind)
  match cursor.rest with
  | [] => .ok (.blank " ", cursor)
  | c :: cs =>
    if c = ' ' || c = '\t' || c = '\n' then .ok (.blank c.toString, cursor.skip 1)
    else if c = '\r' then .ok (.blank "\n", cursor.skip (if cs.head? = some '\n' then 2 else 1))
    else if marksText d c then
      match markedAt? d c cursor with
      | some read => asChunk read
      | none => asToken (wordAt d 1 cursor)
    else if c = '\'' || (c = '"' && !d.opensName c && !d.startsWord c) then
      let backslash := d.backslashEscapes
      let keep := d.keepsWildcardEscapes
      let one := if c = '\'' then TextKind.single else .double
      let three := if c = '\'' then TextKind.tripleSingle else .tripleDouble
      if d.tripleQuotes then asChunk (oneOrThreeAt c backslash keep one three cursor)
      else (textAt c backslash keep cursor).map fun (s, k) => (.token (.text one s), k)
    else if d.opensName c then
      (nameAt c cursor).map fun (name, k) => (.token (makeWord name (some c)), k)
    else if let some inner := bracketName? d (c :: cs) then
      match inner with
      | some q => asChunk (innerNameAt q cursor)
      | none => (nameAt c cursor).map fun (name, k) => (.token (makeWord name (some c)), k)
    else if c.isDigit || c = '.' then asChunk (numberAt d previous cursor)
    else
      match c, cs with
      | '-', '-' :: rest =>
        if d.dashCommentNeedsBlank && rest.head? ≠ some ' ' then sign
        else lineComment "--"
      | '/', '*' :: rest =>
        let inside := cursor.skip 2
        match readComment d.nestedComments 1 rest inside.place with
        | (body, some behind) => .ok (.blank ("/*" ++ String.ofList body ++ "*/"), behind)
        | (_, none) => Cursor.fail (inside.place.afterAll rest) .unclosedComment
      | '/', '/' :: _ =>
        if d.slashComments then lineComment "//" else sign
      | '#', next :: _ =>
        if d.hashComments then lineComment "#"
        else if next = '-' || next = '>' || next = ' ' || (next = '#' && d.geometricOperators)
        then sign
        else
          match signedWordAt? d '#' 1 [] cursor with
          | some read => asToken read
          | none => sign
      | '#', [] => if d.hashComments then lineComment "#" else sign
      | '@', '@' :: _ =>
        match signedWordAt? d '@' 2 [' '] cursor with
        | some read => asToken read
        | none => sign
      | '@', next :: _ =>
        if next = '-' && d.geometricOperators then sign
        else
          match signedWordAt? d '@' 1 ['>', '?', ' ', '\'', '"', '\x60'] cursor with
          | some read => asToken read
          | none => sign
      | '?', _ =>
        if d.geometricOperators then sign
        else
          let (digits, behind) := (cursor.skip 1).takeWhile isNumeric
          asToken (.placeholder (String.ofList ('?' :: digits)), behind)
      | _, _ =>
        if (signShape? d cursor.rest).isSome then sign
        else if d.startsWord c then asToken (wordAt d 1 cursor)
        else if c = '$' then asChunk (dollarAt d cursor)
        else if isBlank c then .ok (.blank " ", cursor.skip 1)
        else asToken (.stray c, cursor.skip 1)

/-- Notes a blank behind the last of the tokens read, which come last one first. -/
def noteBlank (shown : String) : List Lexeme → List Lexeme
  | [] => []
  | l :: read => {l with blanks := l.blanks ++ [shown]} :: read

/-- Reads tokens onto `read`, which holds those before, last one first. -/
def lexFrom (d : Dialect) (fuel : Nat) (previous : Option Token) (read : List Lexeme)
    (cursor : Cursor) : Except LexicalError (List Lexeme) :=
  match fuel with
  | 0 => .ok read
  | fuel + 1 =>
    match cursor.rest with
    | [] => .ok read
    | _ :: _ => do
      match ← chunkAt d previous cursor with
      | (.blank shown, behind) =>
        lexFrom d fuel none (noteBlank shown read) behind
      | (.token t, behind) =>
        lexFrom d fuel (some t) (⟨t, cursor.place, behind.place, []⟩ :: read) behind

/-- The tokens of a text, in order. -/
def lex (d : Dialect) (text : String) : Except LexicalError (List Lexeme) :=
  (lexFrom d (text.toList.length + 1) none [] ⟨text.toList, .start⟩).map List.reverse

end EmbeddedSql.Sql
