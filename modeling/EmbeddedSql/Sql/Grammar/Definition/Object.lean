import EmbeddedSql.Sql.Grammar.Definition.Table

/-! What a database holds besides tables and routines: schemas, sequences, types, roles, rules
about rows, and connections to what lies outside. -/
namespace EmbeddedSql.Sql.Grammar

open Text

variable (n : Nested)

/-! ### Schemas and databases -/

/-- The name of a schema, or of the user that owns it. -/
def schemaName : Parser Wording := do
  if ← word "AUTHORIZATION" then return say "AUTHORIZATION " ++ (← identWording)
  else
    let schema ← nameWording n false
    return schema ++ (← optionalClause ["AUTHORIZATION"] identWording)

def createSchema : Parser Wording := do
  let guard ← ifNotExists
  let schema ← schemaName n
  let order ← optionalClause ["DEFAULT", "COLLATE"] do return (← expr n).wording
  let listed (k title : String) : Parser Wording := do
    return (← afterWord k (optionList n)).elim [] fun os => say title ++ wordingInParens os
  let given ← listed "WITH" " WITH "
  let others ← listed "OPTIONS" " OPTIONS"
  let clone ← optionalClause ["CLONE"] (nameWording n false)
  flatStatement (say ("CREATE SCHEMA " ++ guard) ++ schema ++ order ++ given ++ others ++ clone)

def createDatabase : Parser Wording := do
  let guard ← ifNotExists
  let database ← nameWording n false
  let places ← inAnyOrder true
    [clauseOf ["LOCATION"] enclosedText, clauseOf ["MANAGEDLOCATION"] enclosedText]
  let clone ← optionalClause ["CLONE"] (nameWording n false)
  flatStatement (say ("CREATE DATABASE " ++ guard) ++ database ++ places ++ clone)

/-- How the names of schemas are brought over to another catalog. -/
def namespaceMode : Parser Wording := do
  match ← oneOf ["NEST", "FLATTEN"] with
  | some k => return say k
  | none => expected "NEST or FLATTEN"

/-- Whom to turn to, and what for. -/
def contactEntry : Parser Wording := do
  let purpose ← ident
  needSign "="
  return say (purpose.value ++ " = " ++ (← ident).value)

/-- A database with its clauses in any order, behind `DATABASE`. -/
def createLooseDatabase (mark : String) : Parser Wording := do
  let guard ← ifNotExists
  let database ← nameWording n false
  let set (k : String) (p : Parser Wording) : Parser (Option Wording) := setClause " = " k p
  let count : Parser Wording := return say (← wholeNumber)
  let clauses ← inAnyOrder true [
    clauseOf ["CLONE"] (nameWording n false), set "DATA_RETENTION_TIME_IN_DAYS" count,
    set "MAX_DATA_EXTENSION_TIME_IN_DAYS" count, set "EXTERNAL_VOLUME" enclosedText,
    set "CATALOG" enclosedText, set "REPLACE_INVALID_CHARACTERS" (do return say (← truthWord)),
    set "DEFAULT_DDL_COLLATION" enclosedText,
    set "STORAGE_SERIALIZATION_POLICY" serializationPolicy, set "COMMENT" enclosedText,
    set "CATALOG_SYNC" enclosedText, set "CATALOG_SYNC_NAMESPACE_MODE" namespaceMode,
    set "CATALOG_SYNC_NAMESPACE_FLATTEN_DELIMITER" enclosedText,
    clauseOf ["WITH", "TAG"] (tagList n),
    clauseOf ["WITH", "CONTACT"] do return wordingInParens (← parens (commaList contactEntry))]
  if ← word "WITH" then expected "TAG or CONTACT"
  else if (← peek) = .endOfInput || (← peekSign ";") then
    flatStatement (say ("CREATE " ++ mark ++ "DATABASE " ++ guard) ++ database ++ clauses)
  else expected "end of statement"

/-! ### Sequences, types and domains -/

def createSequence (temporary : String) : Parser Wording := do
  let guard ← ifNotExists
  let label ← nameWording n false
  let type ← optionalClause ["AS"] (typeWording n)
  let options ← sequenceOptions
  let owner ←
    optionalClause ["OWNED", "BY"] do
      if ← word "NONE" then return say "NONE" else nameWording n false
  flatStatement (say ("CREATE " ++ temporary ++ "SEQUENCE " ++ guard) ++ label ++ type ++ options
    ++ owner)

/-- A key of a type of ranges and its value. -/
def rangeOption : Parser Wording := do
  match ← oneOf ["SUBTYPE", "SUBTYPE_OPCLASS", "COLLATION", "CANONICAL", "SUBTYPE_DIFF",
      "MULTIRANGE_TYPE_NAME"] with
  | none => expected "range option keyword"
  | some k =>
    needSign "="
    let value ← if k = "SUBTYPE" then typeWording n else nameWording n false
    return say (k ++ " = ") ++ value

/-- The fields of a type up to the closing parenthesis. -/
def typeFields : Parser (List Wording) := do
  if ← sign ")" then return []
  else
    let fields ← separated (do
      let field ← identWording
      let type ← typeWording n
      return field ++ say " " ++ type ++ (← optionalClause ["COLLATE"] (nameWording n false)))
      (sign ",")
    needSign ")"
    return fields

/-- A text written behind a key as a word in small letters. -/
def smallWord (ks : List String) (message : String) : Parser Wording := do
  match ← oneOf ks with
  | some k => return say k.toLower
  | none => expected message

/-- How long the values of a type are. -/
def valueLength : Parser Wording := do
  if ← word "VARIABLE" then return say "VARIABLE" else return say (← wholeNumber)

/-- The letter of a group of types. -/
def categoryLetter : Parser Wording := do
  match (← literalText).toList with
  | c :: _ => return say ("'" ++ c.toString ++ "'")
  | [] => throw (.other "CATEGORY value must be a single character" none)

/-- A truth value, which holds unless it is denied. -/
def affirmed : Parser Wording := do
  if ← word "TRUE" then return say "true"
  else if ← word "FALSE" then return say "false"
  else return say "true"

/-- A key of a type with its own input and output, and its value. -/
def baseTypeOption : Parser Wording := do
  match ← oneOf ["INPUT", "OUTPUT", "RECEIVE", "SEND", "TYPMOD_IN", "TYPMOD_OUT", "ANALYZE",
      "SUBSCRIPT", "INTERNALLENGTH", "PASSEDBYVALUE", "ALIGNMENT", "STORAGE", "LIKE", "CATEGORY",
      "PREFERRED", "DEFAULT", "ELEMENT", "DELIMITER", "COLLATABLE"] with
  | none => expected "SQL definition option keyword"
  | some "PASSEDBYVALUE" => return say "PASSEDBYVALUE"
  | some k =>
    needSign "="
    let value ←
      match k with
      | "INTERNALLENGTH" => valueLength
      | "ALIGNMENT" =>
        smallWord ["CHAR", "INT2", "INT4", "DOUBLE"]
          "alignment value (char, int2, int4, or double)"
      | "STORAGE" =>
        smallWord ["PLAIN", "EXTERNAL", "EXTENDED", "MAIN"]
          "storage value (plain, external, extended, or main)"
      | "CATEGORY" => categoryLetter
      | "PREFERRED" | "COLLATABLE" => affirmed
      | "DEFAULT" => pure (← expr n).wording
      | "ELEMENT" => typeWording n
      | "DELIMITER" => quotedText
      | _ => nameWording n false
    return say (k ++ " = ") ++ value

def createType : Parser Wording := do
  let label ← nameWording n false
  let done (w : Wording) : Parser Wording := flatStatement (say "CREATE TYPE " ++ label ++ w)
  if ← word "AS" then
    if ← word "ENUM" then
      done (say " AS ENUM " ++ wordingInParens (← parens (commaListUntil ")" identWording)))
    else if ← word "RANGE" then
      done (say " AS RANGE " ++ wordingInParens (← parens (commaListUntil ")" (rangeOption n))))
    else if ← sign "(" then done (say " AS " ++ wordingInParens (← typeFields n))
    else expected "ENUM, RANGE, or '(' after AS"
  else if ← peekSign "(" then
    done (say " " ++ wordingInParens (← parens (commaListUntil ")" (baseTypeOption n))))
  else done []

def createDomain : Parser Wording := do
  let label ← nameWording n false
  needWord "AS"
  let type ← typeWording n
  let order ← optionalClause ["COLLATE"] identWording
  let value ← exprAfter n "DEFAULT"
  let constraints ← many (tableConstraint n)
  flatStatement (say "CREATE DOMAIN " ++ label ++ say " AS " ++ type ++ order ++ value
    ++ constraints.flatMap (say " " ++ ·))

/-! ### Roles and users -/

/-- A password, which may be missing. -/
def password : Parser Wording := do
  if ← word "NULL" then return say "PASSWORD NULL" else return say "PASSWORD " ++ (← literal)

/-- What a role may do, by the word that allows it; the same word behind `NO` forbids it. -/
def roleFlags : List String := [
  "SUPERUSER", "CREATEDB", "CREATEROLE", "INHERIT", "LOGIN", "REPLICATION", "BYPASSRLS"]

/-- What is said of a role, by the name of it in messages. -/
def roleParts (d : Dialect) : List Slot :=
  let flag (k : String) : Slot :=
    ⟨k ++ " or NO" ++ k, do return (← oneOf [k, "NO" ++ k]).map fun k => say (" " ++ k), none⟩
  let listed (ks : List String) : Slot := ⟨" ".intercalate ks, clauseOf ks idents, none⟩
  match d with
  | .postgres =>
    roleFlags.map flag ++ [
      ⟨"CONNECTION LIMIT", afterWord "CONNECTION" do
        needWord "LIMIT"
        return say " CONNECTION LIMIT " ++ (← numberLiteral), none⟩,
      ⟨"PASSWORD", afterWord "PASSWORD" do return say " " ++ (← password), none⟩,
      ⟨"VALID UNTIL", afterWord "VALID" do
        needWord "UNTIL"
        return say " VALID UNTIL " ++ (← literal), none⟩,
      listed ["IN", "ROLE"], listed ["IN", "GROUP"], listed ["ROLE"], listed ["USER"],
      listed ["ADMIN"]]
  | .mssql => [⟨"AUTHORIZATION", clauseOf ["AUTHORIZATION"] (nameWording n false), none⟩]
  | _ => []

/-- Reads one of the parts of a role, none of which comes twice. -/
def fillRolePart : List Slot → Parser (Option (List Slot))
  | [] => return none
  | slot :: slots => do
    let left ← get
    match ← slot.read with
    | some w =>
      if slot.found.isSome then
        throw (.other ("Found multiple " ++ slot.label) (placeOf left))
      else return some ({slot with found := some w} :: slots)
    | none => return (← fillRolePart slots).map (slot :: ·)

/-- Reads the parts of a role in any order. -/
def fillRole : Nat → List Slot → Parser Wording
  | 0, slots => return slotsWording slots
  | fuel + 1, slots => do
    match ← fillRolePart slots with
    | some filled => fillRole fuel filled
    | none =>
      if ← pure (slots.any (·.label = "IN ROLE")) <&&> word "IN" then
        expected "ROLE or GROUP after IN"
      else return slotsWording slots

def createRole : Parser Wording := do
  let guard ← ifNotExists
  let labels ← names n
  discard (word "WITH")
  let parts ← fillRole (← bound) (roleParts n (← dialect))
  flatStatement (say ("CREATE ROLE " ++ guard) ++ labels ++ parts)

def createUser (mark : String) : Parser Wording := do
  let guard ← ifNotExists
  let label ← identWording
  let options := spaced (← keyValueMembers false ["WITH", "TAG"])
  let given := if ← word "WITH" then " WITH" else ""
  let tags ← if ← word "TAG" then pure (commas (← keyValueMembers true [])) else pure []
  flatStatement (say ("CREATE " ++ mark ++ "USER " ++ guard) ++ label
    ++ (if options.isEmpty then [] else say " " ++ options)
    ++ if tags.isEmpty then [] else say (given ++ " TAG (") ++ tags ++ say ")")

/-! ### Rules about rows -/

/-- The conditions under which rows are seen and written. -/
def policyConditions : Parser Wording := do
  let holders ← optionalClause ["TO"] owners
  let seen ← optionalClause ["USING"] (exprInParens n)
  let written ← optionalClause ["WITH", "CHECK"] (exprInParens n)
  return holders ++ seen ++ written

def createPolicy : Parser Wording := do
  let label ← identWording
  needWord "ON"
  let table ← nameWording n false
  let kind ← optionalClause ["AS"] do return say (← needOneOf ["PERMISSIVE", "RESTRICTIVE"])
  let command ←
    optionalClause ["FOR"] do
      return say (← needOneOf ["ALL", "SELECT", "INSERT", "UPDATE", "DELETE"])
  let conditions ← policyConditions n
  flatStatement (say "CREATE POLICY " ++ label ++ say " ON " ++ table ++ kind ++ command
    ++ conditions)

/-! ### What lies outside -/

def createExtension : Parser Wording := do
  let guard ← ifNotExists
  let label ← identWording
  let clauses ← do
    if ← word "WITH" then
      let schema ← optionalClause ["SCHEMA"] identWording
      let version ← optionalClause ["VERSION"] identWording
      let cascade ← optionalWords ["CASCADE"]
      pure (schema ++ version ++ if cascade = "" then [] else say cascade)
    else pure []
  flatStatement (say ("CREATE EXTENSION " ++ guard) ++ label
    ++ if clauses.isEmpty then [] else say " WITH" ++ clauses)

def createConnector : Parser Wording := do
  let guard ← ifNotExists
  let label ← identWording
  let kind ← optionalClause ["TYPE"] enclosedText
  let place ← optionalClause ["URL"] enclosedText
  let remark ←
    if ← word "COMMENT" then
      discard (sign "=")
      pure (say (" COMMENT = '" ++ (← remarkText) ++ "'"))
    else pure []
  let properties ← propertiesAfter n ["WITH", "DCPROPERTIES"]
  flatStatement (say ("CREATE CONNECTOR " ++ guard) ++ label ++ kind ++ place ++ remark
    ++ titled " WITH DCPROPERTIES" properties)

/-- A secret, and where it is kept. -/
def createSecret (replace : String) (temporary persistent : Bool) : Parser Wording := do
  let guard ← ifNotExists
  let keeper : Parser Wording := do
    return (← attempt identWording).elim [] fun w => say "IN " ++ w ++ say " "
  let (label, place) ← do
    if ← peekSign "(" then pure ([], [])
    else if ← word "IN" then pure ([], ← keeper)
    else
      let label := (← attempt identWording).elim [] (· ++ say " ")
      pure (label, ← if ← word "IN" then keeper else pure [])
  needSign "("
  needWord "TYPE"
  let kind ← identWording
  let options ←
    if ← sign "," then
      let members ← commaList do
        let key ← identWording
        return key ++ say " " ++ (← identWording)
      pure (say ", " ++ commas members)
    else pure []
  needSign ")"
  if temporary && persistent then expected "TEMPORARY or PERSISTENT"
  else
    let reach := if temporary then "TEMPORARY " else if persistent then "PERSISTENT " else ""
    flatStatement (say ("CREATE " ++ replace ++ reach ++ "SECRET " ++ guard) ++ label ++ place
      ++ say "( TYPE " ++ kind ++ options ++ say " )")

def createServer : Parser Wording := do
  let guard ← ifNotExists
  let label ← nameWording n false
  let kind ← optionalClause ["TYPE"] identWording
  let version ← optionalClause ["VERSION"] identWording
  needWords ["FOREIGN", "DATA", "WRAPPER"]
  let wrapper ← nameWording n false
  let options ← optionalClause ["OPTIONS"] do
    return wordingInParens (← parens (commaList do
      let key ← identWording
      return key ++ say " " ++ (← identWording)))
  flatStatement (say ("CREATE SERVER " ++ guard) ++ label ++ kind ++ version
    ++ say " FOREIGN DATA WRAPPER " ++ wrapper ++ options)

/-! ### Operators -/

/-- The name of an operator, which may be of signs. -/
def operatorName : Parser Wording := do
  let parts ← separated (do return (← next).display) (sign ".")
  return say (".".intercalate parts)

/-- An operator that a new one is told of. -/
def relatedOperator : Parser Wording := do
  if ← word "OPERATOR" then parens operatorName else operatorName

/-- A way of writing operators down, behind `FAMILY`. -/
def operatorFamily : Parser Wording := do
  let label ← nameWording n false
  needWord "USING"
  let method ← identWording
  flatStatement (say "CREATE OPERATOR FAMILY " ++ label ++ say " USING " ++ method)

/-- What an operator of a class is for. -/
def operatorPurpose : Parser Wording := do
  if ← word "FOR" then
    if ← word "SEARCH" then return say " FOR SEARCH"
    else if ← words ["ORDER", "BY"] then return say " FOR ORDER BY " ++ (← nameWording n false)
    else expected "SEARCH or ORDER BY after FOR"
  else return []

/-- The operators and routines by which an index compares values. -/
def operatorClassMember : Parser (Option Wording) := do
  let type : Parser Wording := typeWording n
  match ← oneOf ["OPERATOR", "FUNCTION", "STORAGE"] with
  | some "OPERATOR" =>
    let number ← wholeNumber
    let operator ← operatorName
    let operands ← do
      if ← sign "(" then
        let left ← type
        needSign ","
        let right ← type
        needSign ")"
        pure (say " (" ++ left ++ say ", " ++ right ++ say ")")
      else pure []
    return some (say ("OPERATOR " ++ number ++ " ") ++ operator ++ operands
      ++ (← operatorPurpose n))
  | some "FUNCTION" =>
    let number ← wholeNumber
    let operands ← do
      if ← sign "(" <&&> (! ·) <$> peekSign ")" then
        let types ← separated type (sign ",")
        needSign ")"
        pure (say " " ++ wordingInParens types)
      else pure []
    let routine ← nameWording n false
    let arguments ← do
      if ← sign "(" then
        let goesOn : Parser Bool := sign "," <&&> (! ·) <$> peekSign ")"
        let types ← if ← peekSign ")" then pure [] else separated type goesOn
        needSign ")"
        pure types
      else pure []
    return some (say ("FUNCTION " ++ number) ++ operands ++ say " " ++ routine
      ++ if arguments.isEmpty then [] else wordingInParens arguments)
  | some _ => return some (say "STORAGE " ++ (← type))
  | none => return none

/-- The way in which an index compares values of a type, behind `CLASS`. -/
def operatorClass : Parser Wording := do
  let label ← nameWording n false
  let standard ← optionalWords ["DEFAULT"]
  needWords ["FOR", "TYPE"]
  let type ← typeWording n
  needWord "USING"
  let method ← identWording
  let family ← optionalClause ["FAMILY"] (nameWording n false)
  needWord "AS"
  let members ← separated (operatorClassMember n) (sign ",")
  flatStatement (say "CREATE OPERATOR CLASS " ++ label ++ say (standard ++ " FOR TYPE ") ++ type
    ++ say " USING " ++ method ++ family ++ say " AS " ++ commas (members.filterMap id))

/-- The parameters of an operator, each with its title; none comes twice, and a procedure is a
function. -/
def operatorParameters : Nat → List (String × Wording) → Parser (List (String × Wording))
  | 0, read => return read
  | fuel + 1, read => do
    let k ← needOneOf ["FUNCTION", "PROCEDURE", "LEFTARG", "RIGHTARG", "COMMUTATOR", "NEGATOR",
      "RESTRICT", "JOIN", "HASHES", "MERGES"]
    let title := if k = "PROCEDURE" then "FUNCTION" else k
    if read.any (·.1 = title) then
      throw (.other ("Duplicate or unexpected keyword " ++ k ++ " in CREATE OPERATOR") none)
    else
      let parameter ← do
        if k = "HASHES" || k = "MERGES" then pure (say k)
        else
          needSign "="
          let value ←
            match k with
            | "LEFTARG" | "RIGHTARG" => typeWording n
            | "COMMUTATOR" | "NEGATOR" => relatedOperator
            | _ => nameWording n false
          pure (say (k ++ " = ") ++ value)
      let read := read ++ [(title, parameter)]
      if ← sign "," then operatorParameters fuel read else return read

def createOperator : Parser Wording := do
  let label ← operatorName
  let fuel ← bound
  let parameters ← parens (operatorParameters n fuel [])
  let first := ["FUNCTION", "LEFTARG", "RIGHTARG"]
  let ordered := first.filterMap (fun k => parameters.lookup k)
    ++ (parameters.filter fun p => !first.contains p.1).map Prod.snd
  if parameters.any (·.1 = "FUNCTION") then
    flatStatement (say "CREATE OPERATOR " ++ label ++ say " " ++ wordingInParens ordered)
  else throw (.other "CREATE OPERATOR requires FUNCTION parameter" none)

end EmbeddedSql.Sql.Grammar
