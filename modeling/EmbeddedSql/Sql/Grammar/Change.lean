import EmbeddedSql.Sql.Grammar.Removal
import EmbeddedSql.Sql.Grammar.Definition.View

/-! Changes of things that are there: what stands behind `ALTER`. -/
namespace EmbeddedSql.Sql.Grammar

open Text

variable (n : Nested)

/-! ### Columns -/

/-- Where a new column stands. -/
def columnPosition : Parser Wording := do
  if ← dialectIn [.mysql, .generic] then
    if ← word "FIRST" then return say " FIRST" else optionalClause ["AFTER"] identWording
  else return []

/-- The type of a column and its options, and where it stands. -/
def columnRest : Parser Wording := do
  let type ← typeWording n
  let options ← plainColumnOptions n
  return say " " ++ type ++ options.flatMap (say " " ++ ·) ++ (← columnPosition)

/-- A column counts its rows from now on. -/
def countFromNow : Parser Wording := do
  let way ← optionalOneOf [["ALWAYS"], ["BY", "DEFAULT"]]
  needWords ["AS", "IDENTITY"]
  let options ←
    if ← peekSign "(" then pure (say " (" ++ (← parens sequenceOptions) ++ say " )") else pure []
  return say ("ADD GENERATED" ++ way ++ " AS IDENTITY") ++ options

/-- What is changed of a column, behind its name. -/
def columnChange : Parser Wording := do
  match ← firstWords [["SET", "NOT", "NULL"], ["DROP", "NOT", "NULL"], ["SET", "DEFAULT"],
      ["DROP", "DEFAULT"], ["SET", "DATA", "TYPE"], ["TYPE"], ["ADD", "GENERATED"]] with
  | some "SET DEFAULT" => return say "SET DEFAULT " ++ (← expr n).wording
  | some "ADD GENERATED" => countFromNow
  | some title =>
    if title.endsWith "TYPE" then
      let type ← typeWording n
      let conversion ← if (← dialect) = .postgres then exprAfter n "USING" else pure []
      return say (title ++ " ") ++ type ++ conversion
    else return say title
  | none =>
    if (← dialect) = .postgres then
      expected ("SET/DROP NOT NULL, SET DEFAULT, SET DATA TYPE, or ADD GENERATED after "
        ++ "ALTER COLUMN")
    else expected "SET/DROP NOT NULL, SET DEFAULT, or SET DATA TYPE after ALTER COLUMN"

/-- A change of a column, or of the keys by which rows are sorted. -/
def alterColumn : Parser Wording := do
  if ← word "SORTKEY" then return say "ALTER SORTKEY" ++ (← exprsInParens n)
  else
    discard (word "COLUMN")
    let column ← identWording
    return say "ALTER COLUMN " ++ column ++ say " " ++ (← columnChange n)

/-! ### Parts of a table -/

/-- A part of a table by its name or by an expression. -/
def tablePart : Parser Wording := do
  let k ← needOneOf ["PART", "PARTITION"]
  return say (k ++ " ") ++ (← expr n).wording

/-- Another order of the rows of a table that is kept beside it, behind `ADD PROJECTION`. -/
def addProjection : Parser Wording := do
  let guard ← ifNotExists
  let label ← identWording
  needSign "("
  needWord "SELECT"
  let columns := (← items n).map Item.wording
  let groups ← groupBy n
  let order ← optionalClause ["ORDER", "BY"] (sortKeys n)
  needSign ")"
  return say ("ADD PROJECTION " ++ guard) ++ label ++ say " (SELECT " ++ commas columns
    ++ [.flat groups] ++ order ++ say ")"

/-- A projection by its name, and perhaps a part of it. -/
def projectionPart (title : String) : Parser Wording := do
  let guard ← ifExists
  let label ← identWording
  return say (title ++ " " ++ guard) ++ label
    ++ (← optionalClause ["IN", "PARTITION"] identWording)

/-- A part of a table that is kept as it is, or no longer. -/
def freeze (title : String) : Parser Wording := do
  let part ← tablePart n
  let label ← if ← word "WITH" then do
      needWord "NAME"
      pure (say " WITH NAME " ++ (← identWording))
    else pure []
  return say (title ++ " ") ++ part ++ label

/-! ### Tables -/

/-- What a table gets, behind `ADD`. -/
def addition : Parser Wording := do
  match ← tableConstraint n with
  | some w => return say "ADD " ++ w ++ say (← optionalWords ["NOT", "VALID"])
  | none =>
    if ← allows Dialect.columnStoreClauses <&&> word "PROJECTION" then addProjection n
    else
      let early ← ifNotExists
      let parts ← many (clauseOf ["PARTITION"] (exprsInParens n))
      if !parts.isEmpty then return say ("ADD" ++ lead early) ++ parts.flatten
      else
        let column ← optionalWords ["COLUMN"]
        let guard ← do
          if ← dialectIn [.postgres, .bigquery, .duckdb, .generic] then
            let late ← ifNotExists
            pure (if late = "" then early else late)
          else pure ""
        let definition ← columnDefinition n
        return say ("ADD" ++ column ++ lead guard ++ " ") ++ definition ++ (← columnPosition)
where
  lead (guard : String) : String := if guard = "" then "" else " IF NOT EXISTS"

/-- What a table is called from now on, or a part of it, behind `RENAME`. -/
def newName : Parser Wording := do
  let pair (title : String) : Parser Wording := do
    let before ← identWording
    needWord "TO"
    return say ("RENAME " ++ title ++ " ") ++ before ++ say " TO " ++ (← identWording)
  if ← pure (decide ((← dialect) = .postgres)) <&&> word "CONSTRAINT" then pair "CONSTRAINT"
  else
    match ← oneOf ["TO", "AS"] with
    | some k => return say ("RENAME " ++ k ++ " ") ++ (← nameWording n false)
    | none =>
      discard (word "COLUMN")
      pair "COLUMN"

/-- What a table loses, behind `DROP`. -/
def loss : Parser Wording := do
  if ← words ["IF", "EXISTS", "PARTITION"] then
    return say "DROP IF EXISTS PARTITION " ++ (← exprsInParens n)
  else
    match ← firstWords [["PARTITION"], ["CONSTRAINT"], ["PRIMARY", "KEY"], ["FOREIGN", "KEY"],
        ["INDEX"], ["CLUSTERING", "KEY"]] with
    | some "PARTITION" => return say "DROP PARTITION " ++ (← exprsInParens n)
    | some "CONSTRAINT" =>
      let guard ← ifExists
      let label ← identWording
      return say ("DROP CONSTRAINT " ++ guard) ++ label ++ say (← dropBehaviour)
    | some "PRIMARY KEY" => return say ("DROP PRIMARY KEY" ++ (← dropBehaviour))
    | some "FOREIGN KEY" =>
      let label ← identWording
      return say "DROP FOREIGN KEY " ++ label ++ say (← dropBehaviour)
    | some "INDEX" => return say "DROP INDEX " ++ (← identWording)
    | some title => return say ("DROP " ++ title)
    | none =>
      if ← allows Dialect.columnStoreClauses <&&> word "PROJECTION" then
        let guard ← ifExists
        return say ("DROP PROJECTION " ++ guard) ++ (← identWording)
      else
        let column := if ← word "COLUMN" then "COLUMN " else ""
        let guard ← ifExists
        let columns ← do
          if ← dialectIn [.snowflake, .mssql] then idents else identWording
        return say ("DROP " ++ column ++ guard) ++ columns ++ say (← dropBehaviour)

/-- Rules, triggers and the like that are heeded from now on, behind `ENABLE`, or no longer. -/
def heeded : Parser Wording := do
  match ← firstWords [["ALWAYS", "RULE"], ["ALWAYS", "TRIGGER"], ["ROW", "LEVEL", "SECURITY"],
      ["REPLICA", "RULE"], ["REPLICA", "TRIGGER"], ["RULE"], ["TRIGGER"]] with
  | some "ROW LEVEL SECURITY" => return say "ENABLE ROW LEVEL SECURITY"
  | some title => return say ("ENABLE " ++ title ++ " ") ++ (← identWording)
  | none => expected "ALWAYS, REPLICA, ROW LEVEL SECURITY, RULE, or TRIGGER after ENABLE"

def unheeded : Parser Wording := do
  match ← firstWords [["ROW", "LEVEL", "SECURITY"], ["RULE"], ["TRIGGER"]] with
  | some "ROW LEVEL SECURITY" => return say "DISABLE ROW LEVEL SECURITY"
  | some title => return say ("DISABLE " ++ title ++ " ") ++ (← identWording)
  | none => expected "ROW LEVEL SECURITY, RULE, or TRIGGER after DISABLE"

/-- Other names of the parts of a table, behind `PARTITION`. -/
def renamedParts : Parser Wording := do
  let before ← exprsInParens n
  needWords ["RENAME", "TO", "PARTITION"]
  return say "PARTITION " ++ before ++ say " RENAME TO PARTITION " ++ (← exprsInParens n)

/-- By what the rows of a table are told apart, behind `REPLICA IDENTITY`. -/
def replicaIdentity : Parser Wording := do
  match ← firstWords [["NONE"], ["FULL"], ["DEFAULT"], ["USING", "INDEX"]] with
  | some "USING INDEX" => return say "REPLICA IDENTITY USING INDEX " ++ (← identWording)
  | some k => return say ("REPLICA IDENTITY " ++ k)
  | none => expected "NONE, FULL, DEFAULT, or USING INDEX index_name after REPLICA IDENTITY"

/-- Options that are set for a table. -/
def settledOptions : Parser Wording := do
  match ← propertiesAfter n ["SET", "TBLPROPERTIES"] with
  | p :: ps => return say "SET TBLPROPERTIES" ++ wordingInParens (p :: ps)
  | [] =>
    match ← optionsAfter n "SET" with
    | o :: os => return say "SET " ++ wordingInParens (o :: os)
    | [] =>
      expected ("ADD, RENAME, PARTITION, SWAP, DROP, REPLICA IDENTITY, SET, or SET TBLPROPERTIES "
        ++ "after ALTER TABLE")

/-- Changes that only dialects with columns kept apart have. -/
def partChange : Parser (Option Wording) := do
  if ← allows Dialect.columnStoreClauses then
    match ← firstWords [["CLEAR", "PROJECTION"], ["MATERIALIZE", "PROJECTION"], ["ATTACH"],
        ["DETACH"], ["FREEZE"], ["UNFREEZE"]] with
    | none => return none
    | some k =>
      if k.endsWith "PROJECTION" then return some (← projectionPart k)
      else if k.endsWith "TACH" then return some (say (k ++ " ") ++ (← tablePart n))
      else return some (← freeze n k)
  else return none

/-- A change of a table. -/
def tableChange : Parser Wording := do
  match ← oneOf ["ADD", "RENAME", "DISABLE", "ENABLE", "DROP", "PARTITION", "CHANGE", "MODIFY",
      "ALTER", "SWAP"] with
  | some "ADD" => addition n
  | some "RENAME" => newName n
  | some "DISABLE" => unheeded
  | some "ENABLE" => heeded
  | some "DROP" => loss n
  | some "PARTITION" => renamedParts n
  | some "CHANGE" =>
    discard (word "COLUMN")
    let before ← identWording
    let column ← identWording
    return say "CHANGE COLUMN " ++ before ++ say " " ++ column ++ (← columnRest n)
  | some "MODIFY" =>
    discard (word "COLUMN")
    let column ← identWording
    return say "MODIFY COLUMN " ++ column ++ (← columnRest n)
  | some "ALTER" => alterColumn n
  | some _ =>
    needWord "WITH"
    return say "SWAP WITH " ++ (← nameWording n false)
  | none =>
    match ← partChange n with
    | some w => return w
    | none =>
      match ← workMode with
      | some w => return w
      | none =>
        if ← dialectIn [.postgres, .generic] <&&> words ["OWNER", "TO"] then
          return say "OWNER TO " ++ (← owner)
        else
          match ← firstWords [["CLUSTER", "BY"], ["SUSPEND", "RECLUSTER"], ["RESUME", "RECLUSTER"],
              ["AUTO_INCREMENT"], ["REPLICA", "IDENTITY"], ["VALIDATE", "CONSTRAINT"]] with
          | some "CLUSTER BY" => return say "CLUSTER BY " ++ (← exprsInParens n)
          | some "AUTO_INCREMENT" =>
            let joint := if ← sign "=" then " = " else " "
            return say ("AUTO_INCREMENT" ++ joint) ++ (← numberLiteral)
          | some "REPLICA IDENTITY" => replicaIdentity
          | some "VALIDATE CONSTRAINT" => return say "VALIDATE CONSTRAINT " ++ (← identWording)
          | some title => return say title
          | none => settledOptions n

/-- Changes of a table, behind `TABLE`. -/
def alterTable (mark : String) : Parser Wording := do
  let guard ← ifExists
  let only := if ← word "ONLY" then "ONLY " else ""
  let table ← nameWording n false
  let cluster ← onCluster
  let changes ← commaList (tableChange n)
  let place ← do
    match ← clauseOf ["LOCATION"] identWording with
    | some w => pure w
    | none => optionalClause ["SET", "LOCATION"] identWording
  flatStatement (say ("ALTER " ++ mark ++ "TABLE " ++ guard ++ only) ++ table ++ cluster ++ say " "
    ++ commas changes ++ place)

/-- The upkeep of a table whose rows follow from others. -/
def alterDynamicTable : Parser Wording := do
  let table ← nameWording n true
  match ← oneOf ["REFRESH", "SUSPEND", "RESUME"] with
  | some k => flatStatement (say "ALTER DYNAMIC TABLE " ++ table ++ say (" " ++ k))
  | none => expected "REFRESH, SUSPEND, or RESUME after ALTER DYNAMIC TABLE"

/-! ### Other things -/

def alterView : Parser Wording := do
  let view ← nameWording n false
  let columns ← optionalColumns
  let options ← optionsAfter n "WITH"
  needWord "AS"
  let q ← n.query
  flatStatement (say "ALTER VIEW " ++ view ++ titled " WITH " options ++ columns ++ say " AS "
    ++ q.wording)

def alterIndex : Parser Wording := do
  let index ← nameWording n false
  if ← word "RENAME" then
    if ← word "TO" then
      flatStatement (say "ALTER INDEX " ++ index ++ say " RENAME TO " ++ (← nameWording n false))
    else expected "TO after RENAME"
  else expected "RENAME after ALTER INDEX"

def alterSchema : Parser Wording := do
  let guard ← ifExists
  let schema ← nameWording n false
  let options : Parser Wording := do
    return (← afterWord "OPTIONS" (optionList n)).elim [] fun os =>
      say " OPTIONS " ++ wordingInParens os
  let change ← do
    match ← firstWords [["SET", "DEFAULT", "COLLATE"], ["ADD", "REPLICA"], ["DROP", "REPLICA"],
        ["RENAME", "TO"], ["OWNER", "TO"]] with
    | some "SET DEFAULT COLLATE" => pure (say "SET DEFAULT COLLATE " ++ (← expr n).wording)
    | some "ADD REPLICA" =>
      let replica ← identWording
      pure (say "ADD REPLICA " ++ replica ++ (← options))
    | some "RENAME TO" => pure (say "RENAME TO " ++ (← nameWording n false))
    | some "OWNER TO" => pure (say "OWNER TO " ++ (← owner))
    | some title => pure (say (title ++ " ") ++ (← identWording))
    | none =>
      if ← peekWords ["SET", "OPTIONS"] then
        skip 1
        pure (say "SET" ++ (← options))
      else expected "ALTER SCHEMA operation"
  flatStatement (say ("ALTER SCHEMA " ++ guard) ++ schema ++ say " " ++ change)

def alterType : Parser Wording := do
  let type ← nameWording n false
  let change ← do
    match ← firstWords [["RENAME", "TO"], ["ADD", "VALUE"], ["RENAME", "VALUE"]] with
    | some "RENAME TO" => pure (say "RENAME TO " ++ (← identWording))
    | some "ADD VALUE" =>
      let guard ← ifNotExists
      let value ← identWording
      let place ← do
        match ← oneOf ["BEFORE", "AFTER"] with
        | some k => pure (say (" " ++ k ++ " ") ++ (← identWording))
        | none => pure []
      pure (say ("ADD VALUE " ++ guard) ++ value ++ place)
    | some _ =>
      let value ← identWording
      needWord "TO"
      pure (say "RENAME VALUE " ++ value ++ say " TO " ++ (← identWording))
    | none => expected "\x7bRENAME TO | \x7b RENAME | ADD \x7d VALUE\x7d"
  flatStatement (say "ALTER TYPE " ++ type ++ say " " ++ change)

/-- A member that comes into a role or leaves it, or another name for the role. -/
def roleMembers : Parser Wording := do
  match ← firstWords [["ADD", "MEMBER"], ["DROP", "MEMBER"], ["WITH", "NAME"]] with
  | some "WITH NAME" =>
    if ← sign "=" then return say "RENAME TO " ++ (← identWording)
    else expected "= after WITH NAME "
  | some title => return say (title ++ " ") ++ (← identWording)
  | none => expected "'ADD' or 'DROP' or 'WITH NAME'"

/-- A right of a role, if one is ahead. -/
def roleOption : Parser Wording := do
  match ← oneOf (["CONNECTION", "PASSWORD", "VALID"] ++ roleFlags ++ roleFlags.map ("NO" ++ ·)) with
  | some "CONNECTION" =>
    needWord "LIMIT"
    return say "CONNECTION LIMIT " ++ (← numberLiteral)
  | some "PASSWORD" => password
  | some "VALID" =>
    needWord "UNTIL"
    return say "VALID UNTIL " ++ (← literal)
  | some k => return say k
  | none => expected "option"

/-- The value of a variable of a role. -/
def roleVariable : Parser Wording := do
  let key ← nameWording n false
  if ← words ["FROM", "CURRENT"] then return say "SET " ++ key ++ say " FROM CURRENT"
  else if ← sign "=" <||> word "TO" then
    if ← word "DEFAULT" then return say "SET " ++ key ++ say " TO DEFAULT"
    else
      match ← attempt (expr n) with
      | some e => return say "SET " ++ key ++ say " TO " ++ e.wording
      | none => expected "config value"
  else expected "'TO' or '=' or 'FROM CURRENT'"

/-- What a role is and may do from now on. -/
def roleChange : Parser Wording := do
  let database ←
    if ← words ["IN", "DATABASE"] then
      pure ((← attempt (nameWording n false)).elim [] fun w => say "IN DATABASE " ++ w ++ say " ")
    else pure []
  match ← oneOf ["RENAME", "SET", "RESET"] with
  | some "RENAME" =>
    if ← word "TO" then return say "RENAME TO " ++ (← identWording)
    else expected "TO after RENAME"
  | some "SET" => return database ++ (← roleVariable n)
  | some _ =>
    if ← word "ALL" then return database ++ say "RESET ALL"
    else return database ++ say "RESET " ++ (← nameWording n false)
  | none =>
    discard (word "WITH")
    match ← many (attempt roleOption) with
    | [] => expected "option"
    | options => return say "WITH " ++ (options.intersperse (say " ")).flatten

def alterRole : Parser Wording := do
  match ← dialect with
  | .postgres =>
    let role ← identWording
    flatStatement (say "ALTER ROLE " ++ role ++ say " " ++ (← roleChange n))
  | .mssql =>
    let role ← identWording
    flatStatement (say "ALTER ROLE " ++ role ++ say " " ++ (← roleMembers))
  | _ =>
    throw (.other "ALTER ROLE is only support for PostgreSqlDialect, MsSqlDialect" none)

def alterPolicy : Parser Wording := do
  let label ← identWording
  needWord "ON"
  let table ← nameWording n false
  let change ← do
    if ← word "RENAME" then
      needWord "TO"
      pure (say " RENAME TO " ++ (← identWording))
    else policyConditions n
  flatStatement (say "ALTER POLICY " ++ label ++ say " ON " ++ table ++ change)

def alterConnector : Parser Wording := do
  let label ← identWording
  needWord "SET"
  let properties ← propertiesAfter n ["DCPROPERTIES"]
  let place ← optionalClause ["URL"] enclosedText
  let holder ←
    if ← word "OWNER" then
      let kind ← needOneOf ["USER", "ROLE"]
      pure (say (" SET OWNER " ++ kind ++ " ") ++ (← identWording))
    else pure []
  flatStatement (say "ALTER CONNECTOR " ++ label ++ titled " SET DCPROPERTIES" properties
    ++ (if place.isEmpty then [] else say " SET" ++ place) ++ holder)

/-- What an operator may be told anew. -/
def operatorOption : Parser Wording := do
  let k ← needOneOf ["RESTRICT", "JOIN", "COMMUTATOR", "NEGATOR", "HASHES", "MERGES"]
  if k = "HASHES" || k = "MERGES" then return say k
  else
    needSign "="
    let value ← do
      if k = "COMMUTATOR" || k = "NEGATOR" then operatorName
      else if ← word "NONE" then pure (say "NONE")
      else nameWording n false
    return say (k ++ " = ") ++ value

def alterOperator : Parser Wording := do
  let operator ← operatorSignature n
  let change ← do
    match ← firstWords [["OWNER", "TO"], ["SET", "SCHEMA"], ["SET"]] with
    | some "OWNER TO" => pure (say " OWNER TO " ++ (← owner))
    | some "SET SCHEMA" => pure (say " SET SCHEMA " ++ (← nameWording n false))
    | some _ =>
      let options ← parens (separated (operatorOption n) (sign ","))
      pure (say " SET " ++ wordingInParens options)
    | none => expected "OWNER TO, SET SCHEMA, or SET after ALTER OPERATOR"
  flatStatement (say "ALTER OPERATOR " ++ operator ++ change)

/-! ### Users -/

/-- A second way to prove who one is. -/
def proofMethod : Parser Wording := do
  match ← oneOf ["PASSKEY", "TOTP", "DUO"] with
  | some k => return say k
  | none => expected "PASSKEY, TOTP or DUO"

/-- The role that a user hands on. -/
def delegatedRole : Parser Wording := do
  if ← words ["AUTHORIZATION", "OF", "ROLE"] then
    return say " AUTHORIZATION OF ROLE " ++ (← identWording)
  else if ← word "AUTHORIZATIONS" then return say " AUTHORIZATIONS"
  else expected "REMOVE DELEGATED AUTHORIZATION OF ROLE | REMOVE DELEGATED AUTHORIZATIONS"

/-- Rights that others get through an integration or lose there. -/
def delegation : Parser Wording := do
  let given ← optionalClause ["ADD", "DELEGATED", "AUTHORIZATION", "OF", "ROLE"] do
    let role ← identWording
    needWords ["TO", "SECURITY", "INTEGRATION"]
    return role ++ say " TO SECURITY INTEGRATION " ++ (← identWording)
  let taken ← afterWords ["REMOVE", "DELEGATED"] do
    let role ← delegatedRole
    needWords ["FROM", "SECURITY", "INTEGRATION"]
    return say " REMOVE DELEGATED" ++ role ++ say " FROM SECURITY INTEGRATION " ++ (← identWording)
  return given ++ taken.getD []

/-- The further proofs that a user has to give. -/
def proofChanges : Parser Wording := do
  let enrolled ← optionalWords ["ENROLL", "MFA"]
  let usual ← optionalClause ["SET", "DEFAULT_MFA_METHOD"] proofMethod
  let removed ← optionalClause ["REMOVE", "MFA", "METHOD"] proofMethod
  let modified ← optionalClause ["MODIFY", "MFA", "METHOD"] do
    let method ← proofMethod
    needWords ["SET", "COMMENT"]
    return method ++ say " SET COMMENT " ++ (← quotedText)
  let added ← afterWords ["ADD", "MFA", "METHOD", "OTP"] do
    let count ← afterWord "COUNT" do
      needSign "="
      return say " COUNT = " ++ (← literal)
    return say " ADD MFA METHOD OTP" ++ count.getD []
  return say enrolled ++ usual ++ removed ++ modified ++ added.getD []

/-- The kinds of rules that a user is bound by. -/
def userPolicies : List (List String) :=
  [["AUTHENTICATION", "POLICY"], ["PASSWORD", "POLICY"], ["SESSION", "POLICY"]]

/-- Options behind a heading, which is not written without them. -/
def headedOptions (heading : List String) : Parser Wording := do
  let options := (← afterWords heading (keyValueList false [])).getD []
  return if options.isEmpty then [] else say (" " ++ " ".intercalate heading ++ " ") ++ options

/-- A change of a user: another name, a new password, rights, proofs, or options. -/
def alterUser : Parser Wording := do
  let guard ← ifExists
  let user ← identWording
  let newName ← optionalClause ["RENAME", "TO"] identWording
  let reset ← optionalWords ["RESET", "PASSWORD"]
  let abort ← optionalWords ["ABORT", "ALL", "QUERIES"]
  let rights ← delegation
  let proofs ← proofChanges
  let policy ←
    match ← firstWords (userPolicies.map ("SET" :: ·)) with
    | some k => pure (say (" " ++ k ++ " ") ++ (← identWording))
    | none => pure []
  let noPolicy ← optionalOneOf (userPolicies.map ("UNSET" :: ·))
  let tags ← headedOptions ["SET", "TAG"]
  let noTags ← optionalClause ["UNSET", "TAG"] idents
  let options ← headedOptions ["SET"]
  let unset ← optionalClause ["UNSET"] idents
  flatStatement (say ("ALTER USER " ++ guard) ++ user ++ newName ++ say (reset ++ abort) ++ rights
    ++ proofs ++ policy ++ say noPolicy ++ tags ++ noTags ++ options ++ unset)

/-- A change, behind `ALTER`. -/
def alter : Parser Wording := do
  match ← needOneOf ["VIEW", "TYPE", "TABLE", "INDEX", "ROLE", "POLICY", "CONNECTOR", "ICEBERG",
      "SCHEMA", "USER", "OPERATOR"] with
  | "VIEW" => alterView n
  | "TYPE" => alterType n
  | "TABLE" => alterTable n ""
  | "INDEX" => alterIndex n
  | "ROLE" => alterRole n
  | "POLICY" => alterPolicy n
  | "CONNECTOR" => alterConnector n
  | "ICEBERG" =>
    needWord "TABLE"
    alterTable n "ICEBERG "
  | "SCHEMA" => alterSchema n
  | "USER" => alterUser
  | _ => alterOperator n

end EmbeddedSql.Sql.Grammar
