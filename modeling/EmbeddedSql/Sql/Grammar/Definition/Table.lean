import EmbeddedSql.Sql.Grammar.Definition.Column

/-! Tables.

The clauses behind the columns come in an order of the dialect's and are written in another one
that is the same for all. -/
namespace EmbeddedSql.Sql.Grammar

open Text

variable (n : Nested)

/-! ### Options without parentheses -/

/-- Options that have one value each. -/
def valuedOptions : List (List String) := [
  ["DEFAULT", "CHARSET"], ["CHARSET"], ["DEFAULT", "CHARACTER", "SET"], ["CHARACTER", "SET"],
  ["DEFAULT", "COLLATE"], ["COLLATE"], ["DATA", "DIRECTORY"], ["INDEX", "DIRECTORY"],
  ["KEY_BLOCK_SIZE"], ["ROW_FORMAT"], ["PACK_KEYS"], ["STATS_AUTO_RECALC"],
  ["STATS_PERSISTENT"], ["STATS_SAMPLE_PAGES"], ["DELAY_KEY_WRITE"], ["COMPRESSION"],
  ["ENCRYPTION"], ["MAX_ROWS"], ["MIN_ROWS"], ["AUTOEXTEND_SIZE"], ["AVG_ROW_LENGTH"],
  ["CHECKSUM"], ["CONNECTION"], ["ENGINE_ATTRIBUTE"], ["PASSWORD"],
  ["SECONDARY_ENGINE_ATTRIBUTE"], ["INSERT_METHOD"], ["AUTO_INCREMENT"]]

/-- A remark, with or without an equals sign in front. -/
def tableRemark : Parser Wording := do
  let joint := if ← sign "=" then " = " else " "
  match ← get with
  | ⟨.text .single s, _, _, _⟩ :: left =>
    set left
    return say ("COMMENT" ++ joint ++ "'" ++ s ++ "'")
  | left => throw (.expected "Token::SingleQuotedString" (tokenAt 0 left) none)

/-- What keeps the rows of a table, and its parameters. -/
def engine : Parser Wording := do
  discard (sign "=")
  match ← peek with
  | .word value .. =>
    skip 1
    let parameters ← if ← peekSign "(" then parens (commaList identWording) else pure []
    return say ("ENGINE = " ++ value)
      ++ if parameters.isEmpty then [] else wordingInParens parameters
  | _ => expected "Token::Word"

/-- Where the rows of a table are kept. -/
def tablespace : Parser Wording := do
  discard (sign "=")
  match ← peek with
  | .word value .. | .text .single value =>
    skip 1
    let kind ←
      if ← word "STORAGE" then
        discard (sign "=")
        match ← peek with
        | .word value .. =>
          if ["DISK", "MEMORY"].contains (upper value) then
            skip 1
            pure (" STORAGE " ++ upper value)
          else expected "Storage type (DISK or MEMORY)"
        | _ => expected "Token::Word"
      else pure ""
    return say ("TABLESPACE " ++ value ++ kind)
  | _ => expected "Token::Word"

/-- The tables whose rows are taken together. -/
def united : Parser Wording := do
  discard (sign "=")
  if ← sign "(" then
    let tables ← commaListUntil ")" identWording
    needSign ")"
    return say "UNION = " ++ if tables.isEmpty then [] else wordingInParens tables
  else expected "Token::LParen"

def plainOption : Parser (Option Wording) := do
  if ← words ["START", "TRANSACTION"] then return some (say "START TRANSACTION")
  else
    match ← oneOf ["COMMENT", "ENGINE", "TABLESPACE", "UNION"] with
    | some "COMMENT" => return some (← tableRemark)
    | some "ENGINE" => return some (← engine)
    | some "TABLESPACE" => return some (← tablespace)
    | some _ => return some (← united)
    | none =>
      match ← firstWords valuedOptions with
      | none => return none
      | some key =>
        discard (sign "=")
        let value ←
          match ← attempt literal with
          | some w => pure w
          | none => identWording
        return some (say (key ++ " = ") ++ value)

/-- Options with blanks or commas between them. -/
def plainOptions : Parser (List Wording) := many do
  match ← plainOption with
  | some w =>
    discard (sign ",")
    return some w
  | none => return none

/-! ### Files -/

/-- What ends a field, a row or the like in a file. -/
def delimiters : Nat → Parser (List Wording)
  | 0 => return []
  | fuel + 1 => do
    match ← firstWords [["FIELDS", "TERMINATED", "BY"], ["COLLECTION", "ITEMS", "TERMINATED", "BY"],
        ["MAP", "KEYS", "TERMINATED", "BY"], ["LINES", "TERMINATED", "BY"],
        ["NULL", "DEFINED", "AS"]] with
    | none =>
      discard (oneOf ["FIELDS", "COLLECTION", "MAP", "LINES", "NULL"])
      return []
    | some title =>
      let mark ← identWording
      let escape ←
        if title = "FIELDS TERMINATED BY" then optionalClause ["ESCAPED", "BY"] identWording
        else pure []
      return (say (" " ++ title ++ " ") ++ mark ++ escape) :: (← delimiters fuel)

/-- How the rows of a file are told apart, behind `ROW`. -/
def rowFormat : Parser Wording := do
  needWord "FORMAT"
  match ← oneOf ["SERDE", "DELIMITED"] with
  | some "SERDE" => return say " ROW FORMAT SERDE " ++ (← enclosedText)
  | _ => return say " ROW FORMAT DELIMITED" ++ (← delimiters (← bound)).flatten

/-- The files of a table: their rows, their form, its properties and their place. A table that
is not the system's own has the last two in the other order. -/
def files (external : Bool) : Parser Wording :=
  let rows : Parser (Option Wording) := afterWord "ROW" rowFormat
  let pair : Parser (Option Wording) :=
    clauseOf ["STORED", "AS", "INPUTFORMAT"] do
      let form ← expr n
      needWord "OUTPUTFORMAT"
      return form.wording ++ say " OUTPUTFORMAT " ++ (← expr n).wording
  let form : Parser (Option Wording) := afterWord "STORED" do
    needWord "AS"
    return say " STORED AS " ++ (← fileFormat)
  let properties : Parser (Option Wording) := do
    match ← propertiesAfter n ["WITH", "SERDEPROPERTIES"] with
    | [] => return none
    | ps => return some (say " WITH SERDEPROPERTIES " ++ wordingInParens ps)
  let place : Parser (Option Wording) := clauseOf ["LOCATION"] enclosedText
  inAnyOrder true (rows :: pair ::
    if external then [properties, form, place] else [form, properties, place])

/-- The columns by whose values the rows of a table are divided. -/
def partitionedBy : Parser Wording := do
  if ← words ["PARTITIONED", "BY"] then
    let columns ← parens (commaList (columnOf n true))
    return say " PARTITIONED BY " ++ wordingInParens columns
  else return []

/-- The number of parts into which the rows of a table are spread. -/
def clusteredBy : Parser Wording := do
  if ← dialectIn [.hive, .generic] <&&> words ["CLUSTERED", "BY"] then
    let columns ← identsInParens
    let sorted ←
      optionalClause ["SORTED", "BY"] do
        return wordingInParens (← parens (commaList (sortKey n)))
    needWord "INTO"
    let count ← numberLiteral
    needWord "BUCKETS"
    return say " CLUSTERED BY " ++ identsWording columns ++ sorted ++ say " INTO " ++ count
      ++ say " BUCKETS"
  else return []

/-! ### Any dialect's tables -/

/-- The table whose columns a new one has. -/
def likeness (ofTable : Bool) : Parser (Option (Bool × Wording)) := do
  let left ← get
  if ← allows Dialect.likenessInParens <&&> sign "(" then
    if ← word "LIKE" then
      let table ← nameWording n ofTable
      let values ← optionalOneOf [["INCLUDING", "DEFAULTS"], ["EXCLUDING", "DEFAULTS"]]
      needSign ")"
      return some (true, say "LIKE " ++ table ++ say values)
    else
      set left
      return none
  else if (← oneOf ["LIKE", "ILIKE"]).isSome then
    return some (false, say "LIKE " ++ (← nameWording n ofTable))
  else return none

/-- What happens to the rows when a transaction ends. -/
def onCommit : Parser Wording := do
  match ← firstWords [["DELETE", "ROWS"], ["PRESERVE", "ROWS"], ["DROP"]] with
  | some action => return say (" ON COMMIT " ++ action)
  | none =>
    throw (.other ("Expecting DELETE ROWS, PRESERVE ROWS or DROP" ++ (← peek).display) none)

/-- Columns and constraints in parentheses, one on each line when laid out. -/
def columnBlock (columns constraints : List Wording) : Wording :=
  let between := if columns.isEmpty || constraints.isEmpty then [] else say "," ++ [.gap]
  say " (" ++ [.fold, .nest (lines (columns.map fun w => [.flat w]))] ++ between
    ++ [.nest (lines (constraints.map fun w => [.flat w])), .fold] ++ say ")"

/-- The columns of a table as they are written. A table that has no columns and gets them from
nowhere has empty parentheses; `drawn` tells whether it gets them from somewhere. -/
def columnsOf (parts : List Wording × List Wording) (drawn : Bool)
    (like : Option (Bool × Wording)) : Wording :=
  if !parts.1.isEmpty || !parts.2.isEmpty then columnBlock parts.1 parts.2
  else if !drawn then say " ()"
  else
    match like with
    | some (true, w) => say " (" ++ w ++ say ")"
    | _ => []

/-- A table, behind `TABLE`. -/
def createTable (mark : String) : Parser Wording := do
  let d ← dialect
  let ofTable := d = .bigquery
  let guard ← ifNotExists
  let table ← nameWording n ofTable
  let cluster ← onCluster
  let like ← likeness n ofTable
  let clone ←
    if ← word "CLONE" then pure ((← attempt (nameWording n ofTable)).map (say " CLONE " ++ ·))
    else pure none
  let parts ← definitions n
  let remark ←
    if ← pure (decide (d = .hive)) <&&> word "COMMENT" then
      match ← peek with
      | .text .single s => skip 1; pure (say (" COMMENT '" ++ s ++ "'"))
      | _ => expected "comment"
    else pure []
  let rowid ← optionalWords ["WITHOUT", "ROWID"]
  let divided ← partitionedBy n
  let spread ← clusteredBy n
  let files ← files n false
  let parents ←
    optionalClause ["INHERITS"] do
      return wordingInParens (← columnsInParens (nameWording n false))
  let given ← optionsAfter n "WITH"
  let properties ← optionsAfter n "TBLPROPERTIES"
  let division ←
    if d.isOneOf [.bigquery, .postgres, .generic] then
      optionalClause ["PARTITION", "BY"] do return (← expr n).wording
    else pure []
  let own := d.isOneOf [.bigquery, .generic]
  let clusters ← if own then optionalClause ["CLUSTER", "BY"] (exprs n) else pure []
  let others ←
    if ← pure own <&&> peekIs "OPTIONS" then pure (some (← optionsAfter n "OPTIONS")) else pure none
  let plainOnes ←
    if d ≠ .hive && given.isEmpty && properties.isEmpty && others.isNone then plainOptions
    else pure []
  let shown :=
    if others.isSome then []
    else if !properties.isEmpty then titled " TBLPROPERTIES " properties
    else if !given.isEmpty then titled " WITH " given
    else plainOnes.flatMap (say " " ++ ·)
  let columnar := d.columnStoreClauses
  let key ←
    if columnar then optionalClause ["PRIMARY", "KEY"] do return (← expr n).wording else pure []
  let order ←
    if columnar then
      optionalClause ["ORDER", "BY"] do
        if ← peekSign "(" then
          let keys ← parens (commaListUntil ")" do return (← expr n).wording)
          return wordingInParens keys
        else return (← expr n).wording
    else pure []
  let ending ← if ← words ["ON", "COMMIT"] then onCommit else pure []
  let strict ← optionalWords ["STRICT"]
  let q ← do
    if ← word "AS" then pure (some (← n.query))
    else if d.isOneOf [.mysql, .generic] && (← peekIs "SELECT") then pure (some (← n.query))
    else pure none
  let drawn := q.isSome || like.isSome || clone.isSome
  let copied :=
    match like with
    | some (false, w) => say " " ++ w
    | _ => []
  return (say ("CREATE " ++ mark ++ "TABLE " ++ guard) ++ table ++ cluster
    ++ columnsOf parts drawn like
    ++ [.flat (remark ++ say rowid ++ copied ++ clone.getD [] ++ divided ++ spread ++ files
      ++ shown ++ key ++ order ++ parents ++ division ++ clusters
      ++ (others.elim [] fun os => say " OPTIONS" ++ wordingInParens os) ++ ending ++ say strict
      ++ q.elim [] fun q => say " AS " ++ q.wording)])

/-- A table whose files are elsewhere, behind `EXTERNAL`. -/
def createExternalTable (mark : String) : Parser Wording := do
  needWord "TABLE"
  let guard ← ifNotExists
  let table ← nameWording n false
  let parts ← definitions n
  let divided ← partitionedBy n
  let files ← files n true
  let properties ← optionsAfter n "TBLPROPERTIES"
  return (say ("CREATE " ++ mark ++ "EXTERNAL TABLE " ++ guard) ++ table
    ++ columnsOf parts false none
    ++ [.flat (divided ++ files ++ titled " TBLPROPERTIES " properties)])

/-- A table that a module makes up, behind `VIRTUAL`. -/
def createVirtualTable : Parser Wording := do
  needWord "TABLE"
  let guard ← ifNotExists
  let table ← nameWording n false
  needWord "USING"
  let maker ← identWording
  let arguments ← optionalColumns
  flatStatement (say ("CREATE VIRTUAL TABLE " ++ guard) ++ table ++ say " USING " ++ maker
    ++ arguments)

/-! ### Tables with their clauses in any order -/

/-- A truth value by its word. -/
def truthWord : Parser String := do
  match ← oneOf ["TRUE", "FALSE"] with
  | some k => return k
  | none => expected "TRUE or FALSE"

def serializationPolicy : Parser Wording := do
  match ← oneOf ["COMPATIBLE", "OPTIMIZED"] with
  | some k => return say k
  | none => expected "storage_serialization_policy"

/-- A key, an equals sign and a value. `joint` is how the sign is written. -/
def setClause (joint k : String) (p : Parser Wording) : Parser (Option Wording) := afterWord k do
  needSign "="
  return say (" " ++ k ++ joint) ++ (← p)

def rowAccess : Parser Wording := do
  needWords ["ACCESS", "POLICY"]
  let policy ← nameWording n false
  needWord "ON"
  return say " WITH ROW ACCESS POLICY " ++ policy ++ say " ON "
    ++ wordingInParens (← parens (commaList identWording))

/-- The clauses of a table that come in any order, in the order in which they are written. -/
def looseClauses : List Slot :=
  let value (k : String) (p : Parser Wording) : Slot := ⟨k, setClause "=" k p, none⟩
  let mode (k : String) (values : List String) (message : String) : Slot := value k do
    match ← oneOf values with
    | some v => return say v
    | none => expected message
  let count (k : String) : Slot := value k do return say (← wholeNumber)
  let truth (k : String) : Slot := value k do return say (← truthWord)
  let text (k : String) : Slot := value k enclosedText
  let other (k : String) (p : Parser Wording) : Slot := ⟨k, afterWord k p, none⟩
  [other "CLUSTER" do
      needWord "BY"
      return say " CLUSTER BY " ++ (← exprsInParens n),
    text "EXTERNAL_VOLUME", text "CATALOG", text "BASE_LOCATION", text "CATALOG_SYNC",
    value "STORAGE_SERIALIZATION_POLICY" serializationPolicy,
    other "COPY" do needWord "GRANTS"; return say " COPY GRANTS",
    truth "ENABLE_SCHEMA_EVOLUTION", truth "CHANGE_TRACKING",
    count "DATA_RETENTION_TIME_IN_DAYS", count "MAX_DATA_EXTENSION_TIME_IN_DAYS",
    text "DEFAULT_DDL_COLLATION",
    other "AGGREGATION" do
      needWord "POLICY"
      return say " WITH AGGREGATION POLICY " ++ (← nameWording n false),
    other "ROW" (rowAccess n),
    other "TAG" do return say " WITH TAG " ++ (← tagList n),
    text "TARGET_LAG", value "WAREHOUSE" identWording,
    mode "REFRESH_MODE" ["AUTO", "FULL", "INCREMENTAL"] "AUTO, FULL or INCREMENTAL",
    mode "INITIALIZE" ["ON_CREATE", "ON_SCHEDULE"] "ON_CREATE or ON_SCHEDULE",
    ⟨"REQUIRE", afterWords ["REQUIRE", "USER"] (return say " REQUIRE USER"), none⟩,
    ⟨"ON", afterWords ["ON", "COMMIT"] onCommit, none⟩]

/-- What has been read of a table whose clauses come in any order. -/
structure LooseTable where
  guard : String
  parts : List Wording × List Wording
  like : Wording
  clone : Wording
  moment : Wording
  remarks : List Wording
  query : Wording
  slots : List Slot

/-- Exactly one thing tells the columns of the table. -/
def LooseTable.complete (t : LooseTable) : Bool :=
  ([!t.parts.1.isEmpty, !t.query.isEmpty, !t.like.isEmpty, !t.clone.isEmpty].filter id).length = 1

def LooseTable.wording (mark : String) (table : Wording) (t : LooseTable) : Wording :=
  let drawn := !t.query.isEmpty || !t.like.isEmpty || !t.clone.isEmpty
  say ("CREATE " ++ mark ++ "TABLE " ++ t.guard) ++ table ++ columnsOf t.parts drawn none
    ++ [.flat (t.like ++ t.clone ++ t.moment ++ t.remarks.flatMap (say " " ++ ·)
      ++ slotsWording t.slots ++ t.query)]

def looseTable : Nat → LooseTable → Parser LooseTable
  | 0, t => return t
  | fuel + 1, t => do
    let left ← get
    let ended : Parser LooseTable :=
      if t.complete then return t else throw (.other "unexpected end of input" none)
    match ← next with
    | .endOfInput => ended
    | .sign ";" => set left; ended
    | .sign "(" =>
      set left
      looseTable fuel {t with parts := ← definitions n}
    | .word _ _ "COMMENT" => looseTable fuel {t with remarks := t.remarks ++ [← looseRemark]}
    | .word _ _ "AS" => looseTable fuel {t with query := say " AS " ++ (← n.query).wording}
    | .word _ _ "CLONE" =>
      let clone := (← attempt (nameWording n false)).elim [] (say " CLONE " ++ ·)
      looseTable fuel {t with clone, moment := ← version n}
    | .word _ _ "LIKE" =>
      looseTable fuel {t with like := say " LIKE " ++ (← nameWording n false)}
    | .word _ _ "AT" | .word _ _ "BEFORE" =>
      set left
      looseTable fuel {t with moment := ← version n}
    | .word _ _ "WITH" =>
      discard (ahead (needOneOf ["AGGREGATION", "TAG", "ROW"]))
      looseTable fuel t
    | .word _ _ "IF" =>
      if ← words ["NOT", "EXISTS"] then looseTable fuel {t with guard := "IF NOT EXISTS "}
      else expectedAt "end of statement" left
    | .word .. =>
      set left
      match ← fillSlot true t.slots with
      | some slots => looseTable fuel {t with slots}
      | none => expected "end of statement"
    | _ => expectedAt "end of statement" left
where
  looseRemark : Parser Wording := do
    let joint := if ← sign "=" then " = " else " "
    return say ("COMMENT" ++ joint ++ "'" ++ (← remarkText) ++ "'")

/-- A table whose clauses come in any order, behind `TABLE`. A table of files tells the place of
its files, and no other table does. -/
def createLooseTable (mark : String) (ofFiles : Bool) : Parser Wording := do
  let guard ← ifNotExists
  let table ← nameWording n false
  let t ← looseTable n (← bound) ⟨guard, ([], []), [], [], [], [], [], looseClauses n⟩
  let placed (slot : Slot) : Bool := slot.label = "BASE_LOCATION" && slot.found.isSome
  if ofFiles && !t.slots.any placed then
    throw (.other "BASE_LOCATION is required for ICEBERG tables" none)
  else
    let slots := if ofFiles then t.slots else t.slots.filter fun slot => !placed slot
    return ({t with slots}.wording mark table)

end EmbeddedSql.Sql.Grammar
