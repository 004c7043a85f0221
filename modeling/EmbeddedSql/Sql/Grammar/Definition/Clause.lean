import EmbeddedSql.Sql.Grammar.Write

/-! Clauses that several statements share: guards, options, sequences and indexes. -/
namespace EmbeddedSql.Sql.Grammar

open Text

variable (n : Nested)

/-- A statement that nothing asks about, on one line. -/
def flatStatement (w : Wording) : Parser Wording := return [.flat w]

/-! ### Words that may be missing -/

/-- Keywords behind a blank, if all of them are there. -/
def optionalWords (ks : List String) : Parser String := do
  if ← words ks then return " " ++ " ".intercalate ks else return ""

/-- One of some runs of keywords, behind a blank. -/
def optionalOneOf (runs : List (List String)) : Parser String := do
  return (← firstWords runs).elim "" (" " ++ ·)

/-- Keywords and what follows them, behind a blank. -/
def clauseOf (ks : List String) (p : Parser Wording) : Parser (Option Wording) :=
  afterWords ks do return say (" " ++ " ".intercalate ks ++ " ") ++ (← p)

/-- Keywords and what follows them, behind a blank, if the keywords are there. -/
def optionalClause (ks : List String) (p : Parser Wording) : Parser Wording := do
  return (← clauseOf ks p).getD []

def ifNotExists : Parser String := do
  if ← words ["IF", "NOT", "EXISTS"] then return "IF NOT EXISTS " else return ""

def ifExists : Parser String := do
  if ← words ["IF", "EXISTS"] then return "IF EXISTS " else return ""

/-- What happens to the things that need what is dropped. -/
def dropBehaviour : Parser String := optionalOneOf [["CASCADE"], ["RESTRICT"]]

/-- The servers on which a definition is carried out. -/
def onCluster : Parser Wording := optionalClause ["ON", "CLUSTER"] identWording

/-! ### Clauses in any order -/

/-- A clause among others in any order: what it is called, how it is read, and what has been
read of it. -/
structure Slot where
  label : String
  read : Parser (Option Wording)
  found : Option Wording

/-- Reads one of the clauses. With `again`, one that has been read may be read again. -/
def fillSlot (again : Bool) : List Slot → Parser (Option (List Slot))
  | [] => return none
  | slot :: slots => do
    let new ← if again || slot.found.isNone then slot.read else pure none
    match new with
    | some w => return some ({slot with found := some w} :: slots)
    | none => return (← fillSlot again slots).map (slot :: ·)

def fillSlots (again : Bool) : Nat → List Slot → Parser (List Slot)
  | 0, slots => return slots
  | fuel + 1, slots => do
    match ← fillSlot again slots with
    | some filled => fillSlots again fuel filled
    | none => return slots

def slotsWording (slots : List Slot) : Wording := slots.flatMap fun slot => slot.found.getD []

/-- Clauses in any order, as they are written in a fixed one. With `again`, the last of equal
clauses counts; without it, a clause does not come twice. -/
def inAnyOrder (again : Bool) (kinds : List (Parser (Option Wording))) : Parser Wording := do
  return slotsWording (← fillSlots again (← bound) (kinds.map (⟨"", ·, none⟩)))

/-! ### Texts and expressions -/

/-- A text between quotes, those inside it doubled. -/
def quotedText : Parser Wording := return singleQuoted (← literalText)

/-- A text between quotes as it stands. -/
def enclosedText : Parser Wording := return say ("'" ++ (← literalText) ++ "'")

/-- The text of a remark. -/
def remarkText : Parser String := do
  match ← peek with
  | .text .single s | .dollarText s _ => skip 1; return s
  | _ => expected "string literal"

def exprInParens : Parser Wording := do
  let e ← parens (expr n)
  return say "(" ++ e.wording ++ say ")"

def exprsInParens : Parser Wording := do
  let es ← parens (exprs n)
  return say "(" ++ es ++ say ")"

def names : Parser Wording := return commas (← commaList (nameWording n false))

def idents : Parser Wording := return commas (← commaList identWording)

/-- Columns in parentheses, behind a blank, if they are there. -/
def optionalColumns : Parser Wording := do
  let columns ← columnList false
  return if columns.isEmpty then [] else say " " ++ identsWording columns

/-! ### Options -/

/-- How an index keeps the rows of a table. -/
def clusteredOption : Parser Wording := do
  if ← words ["CLUSTERED", "COLUMNSTORE", "INDEX", "ORDER"] then
    return say "CLUSTERED COLUMNSTORE INDEX ORDER " ++ identsWording (← identsInParens)
  else if ← words ["CLUSTERED", "COLUMNSTORE", "INDEX"] then
    return say "CLUSTERED COLUMNSTORE INDEX"
  else if ← words ["CLUSTERED", "INDEX"] then
    let columns ← parens (commaList do
      let column ← identWording
      return column ++ say (← ascOrDesc))
    return say "CLUSTERED INDEX " ++ wordingInParens columns
  else throw (.other "invalid CLUSTERED sequence" none)

/-- How ranges of a column divide the rows of a table. -/
def partitionOption : Parser Wording := do
  needWord "PARTITION"
  needSign "("
  let column ← identWording
  needWord "RANGE"
  let side ← optionalOneOf [["LEFT"], ["RIGHT"]]
  needWords ["FOR", "VALUES"]
  let values ← exprsInParens n
  needSign ")"
  return say "PARTITION (" ++ column ++ say (" RANGE" ++ side ++ " FOR VALUES ") ++ values
    ++ say ")"

def storageOption : Parser Wording := do
  let own ← dialectIn [.mssql, .generic]
  if own && (← peekIs "HEAP") then identWording
  else if own && (← peekIs "PARTITION") then partitionOption n
  else if own && (← peekIs "CLUSTERED") then clusteredOption
  else keyedValue n

/-- Options in parentheses, of which there may be none. -/
def optionList : Parser (List Wording) := parens (commaListUntil ")" (storageOption n))

/-- Options in parentheses behind a keyword; none if the keyword is not there. -/
def optionsAfter (k : String) : Parser (List Wording) := do
  if ← word k then optionList n else return []

/-- One or more options in parentheses behind keywords; none if these are not there. -/
def propertiesAfter (ks : List String) : Parser (List Wording) := do
  if ← words ks then parens (commaList (storageOption n)) else return []

/-- Options behind their title, unless there are none. -/
def titled (title : String) (options : List Wording) : Wording :=
  if options.isEmpty then [] else say title ++ wordingInParens options

/-! ### Keys with values that need no blanks -/

/-- The signs of a value, or values in parentheses, without a key. -/
def plainValue : Parser (Option Wording) := do
  match ← peek with
  | .text .single _ | .number .. => return some (← literal)
  | .word value _ keyword =>
    if keyword = "TRUE" || keyword = "FALSE" then return some (← literal)
    else
      skip 1
      return some (say value)
  | .sign "(" =>
    attempt do
      let values ← parens (commaListUntil ")" literal)
      return wordingInParens values
  | _ => expected "expected option value"

/-- A key with its value. `inner` reads parentheses that hold no list of values. -/
def keyValueBy (inner : Parser Wording) (key : String) : Parser Wording := do
  needSign "="
  match ← plainValue with
  | some w => return say (key ++ "=") ++ w
  | none => return say (key ++ "=(") ++ (← inner) ++ say ")"

def spaced (ws : List Wording) : Wording := (ws.intersperse (say " ")).flatten

/-- Keys with their values up to one of the words of `ends`, or to the closing parenthesis if
there is an opening one. Blanks or commas stand between them; `apart` says whether a comma has
been read. -/
def keyValues (inside : Bool) (ends : List String) : Nat → Bool → List Wording →
    Parser (Bool × List Wording)
  | 0, apart, read => return (apart, read)
  | fuel + 1, apart, read => do
    match ← get with
    | [] => return (apart, read)
    | l :: left =>
      match l.token with
      | .sign ")" =>
        set left
        if inside then return (apart, read) else expected " another option or EOF"
      | .sign "," =>
        set left
        keyValues inside ends fuel true read
      | .word key _ keyword =>
        if ends.contains keyword then return (apart, read)
        else
          set left
          let inner : Parser Wording := do
            needSign "("
            let (apart, members) ← keyValues true [] fuel false []
            return if apart then commas members else spaced members
          let member ← keyValueBy inner key
          keyValues inside ends fuel apart (read ++ [member])
      | _ =>
        set left
        expected "another option, EOF, Comma or ')'"

/-- Keys with their values, and whether commas stand between them. -/
def keyValuePairs (inside : Bool) (ends : List String) : Parser (Bool × List Wording) := do
  if inside then needSign "("
  keyValues inside ends (← bound) false []

/-- Keys with their values, whatever stands between them. -/
def keyValueMembers (inside : Bool) (ends : List String) : Parser (List Wording) :=
  return (← keyValuePairs inside ends).2

/-- Keys with their values, with commas between them if there are any. -/
def keyValueList (inside : Bool) (ends : List String) : Parser Wording := do
  let (apart, members) ← keyValuePairs inside ends
  return if apart then commas members else spaced members

/-- What stands behind a key. -/
def keyValue (key : String) : Parser Wording := keyValueBy (keyValueList true []) key

/-- A tag and its value. -/
def tag : Parser Wording := do
  let label ← nameWording n false
  needSign "="
  return label ++ say "=" ++ (← quotedText)

def tagList : Parser Wording := return wordingInParens (← parens (commaList (tag n)))

/-! ### Sequences -/

/-- How a sequence counts. The clauses stand in this order. -/
def sequenceOptions : Parser Wording := do
  let step ←
    if ← words ["INCREMENT", "BY"] then pure (say " INCREMENT BY " ++ (← signedLiteral))
    else optionalClause ["INCREMENT"] signedLiteral
  let bounded (k : String) : Parser Wording := do
    if ← words ["NO", k] then return say (" NO " ++ k) else optionalClause [k] signedLiteral
  let least ← bounded "MINVALUE"
  let greatest ← bounded "MAXVALUE"
  let start ←
    if ← words ["START", "WITH"] then pure (say " START WITH " ++ (← signedLiteral))
    else optionalClause ["START"] signedLiteral
  let cache ← optionalClause ["CACHE"] signedLiteral
  let cycle ← optionalOneOf [["NO", "CYCLE"], ["CYCLE"]]
  return step ++ least ++ greatest ++ start ++ cache
    ++ if cycle = "" then [] else say cycle

/-! ### Indexes -/

def indexTypes : List String := ["BTREE", "HASH", "GIN", "GIST", "SPGIST", "BRIN", "BLOOM"]

def indexType : Parser Wording := do
  match ← oneOf indexTypes with
  | some k => return say k
  | none => identWording

def indexMethod : Parser Wording := optionalClause ["USING"] indexType

/-- What stands behind the columns of an index. -/
def indexOptions : Parser (List Wording) := many do
  if ← word "USING" then return some (say "USING " ++ (← indexType))
  else if ← word "COMMENT" then return some (say "COMMENT " ++ (← enclosedText))
  else return none

/-- An expression of an index, the operators for it, and its order. -/
def indexColumn : Parser Wording := do
  let e ← expr n
  let operators ←
    if ← peekIsOf ["ASC", "DESC", "NULLS", "WITH"] then pure none
    else attempt (nameWording n false)
  let direction ← ascOrDesc
  let nulls ← nullsOrder
  discard (withFill n)
  return e.wording ++ operators.elim [] (say " " ++ ·) ++ say (direction ++ nulls)

def indexColumns : Parser Wording := return wordingInParens (← columnsInParens (indexColumn n))

/-- Whether missing values count as equal. -/
def nullsDistinct : Parser String := do
  if ← word "NULLS" then
    let negated ← word "NOT"
    needWord "DISTINCT"
    return if negated then " NULLS NOT DISTINCT" else " NULLS DISTINCT"
  else return ""

/-! ### Owners and routines -/

/-- Who owns a thing. -/
def owner : Parser Wording := do
  match ← oneOf ["CURRENT_USER", "CURRENT_ROLE", "SESSION_USER"] with
  | some k => return say k
  | none =>
    let left ← get
    match ← attempt identWording with
    | some w => return w
    | none =>
      let missing := SyntaxError.expected "identifier" (tokenAt 0 left) (placeOf left)
      throw (.other ("Expected: CURRENT_USER, CURRENT_ROLE, SESSION_USER or identifier after "
        ++ "OWNER TO. sql parser error: " ++ missing.message) none)

def owners : Parser Wording := return commas (← commaList owner)

/-- Whether values go into a routine, come out of it, or both. -/
def argumentMode : Parser String := do
  match ← oneOf ["IN", "OUT", "INOUT"] with
  | some k => return k ++ " "
  | none => return ""

/-- An argument of a routine: a type, or a name and its type. -/
def routineArgument : Parser Wording := do
  let mode ← argumentMode
  let start ← get
  let first ← typeWording n
  let last := (start.take (start.length - (← get).length)).getLast?
  let second ← if ← peekIs "DEFAULT" then pure none else attempt (typeWording n)
  let description ←
    match second, last with
    | none, _ => pure first
    | some type, some ⟨.word value quote keyword, _, _, _⟩ =>
      pure (say ((Token.word value quote keyword).display ++ " ") ++ type)
    | some _, some l => expectedAt "a name or type" [l]
    | some type, none => pure type
  let value ← do
    if ← word "DEFAULT" <||> sign "=" then pure (say " = " ++ (← expr n).wording) else pure []
  return say mode ++ description ++ value

/-- A routine, perhaps with its arguments. -/
def routine : Parser Wording := do
  let label ← nameWording n false
  if ← sign "(" then
    if ← sign ")" then return label ++ say "()"
    else
      let arguments ← commaList (routineArgument n)
      needSign ")"
      return label ++ wordingInParens arguments
  else return label

end EmbeddedSql.Sql.Grammar
