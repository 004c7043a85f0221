import EmbeddedSql.Sql.Grammar.Name

/-! Types of data and their canonical spelling. -/
namespace EmbeddedSql.Sql.Grammar

/-- A type as it is written, and what else a reader of literals asks about it. -/
inductive DataType
  | known (spelling : Wording)
  | interval (spelling : Wording)
  /-- A name that no type of the language has. -/
  | custom (spelling : Wording)

def DataType.spelling : DataType → Wording
  | known s | interval s | custom s => s

/-! ### What stands behind the name of a type -/

/-- A number in parentheses. -/
def precision : Parser String := do
  if ← sign "(" then
    let n ← wholeNumber
    needSign ")"
    return "(" ++ n ++ ")"
  else return ""

/-- Two numbers, or one, in parentheses. -/
def precisionAndScale : Parser String := do
  if ← sign "(" then
    let n ← wholeNumber
    let scale ← if ← sign "," then pure ("," ++ (← signedNumber)) else pure ""
    needSign ")"
    return "(" ++ n ++ scale ++ ")"
  else return ""

/-- The length of a text in parentheses. -/
def characterLength : Parser String := do
  if ← sign "(" then
    let length ←
      if ← word "MAX" then pure "MAX"
      else do
        let n ← wholeNumber
        match ← oneOf ["CHARACTERS", "OCTETS"] with
        | some unit => pure (n ++ " " ++ unit)
        | none => pure n
    needSign ")"
    return "(" ++ length ++ ")"
  else return ""

def binaryLength : Parser String := do
  if ← sign "(" then
    let length ← if ← word "MAX" then pure "MAX" else wholeNumber
    needSign ")"
    return "(" ++ length ++ ")"
  else return ""

/-- What is said about negative numbers; `signed` tells whether the word for having them may
stand here. -/
def unsignedSuffix (signed : Bool) : Parser String := do
  if ← word "UNSIGNED" then return " UNSIGNED"
  else
    if signed && (← allows Dialect.signedSuffix) then discard (word "SIGNED")
    return ""

def timeZone : Parser String := do
  if ← word "WITH" then
    needWords ["TIME", "ZONE"]
    return " WITH TIME ZONE"
  else if ← word "WITHOUT" then
    needWords ["TIME", "ZONE"]
    return " WITHOUT TIME ZONE"
  else return ""

/-- The labels of an enumeration, which may have numbers. -/
def labels : Parser Wording := do
  needSign "("
  let members ← commaList do
    let label := singleQuoted (← literalText)
    if ← sign "=" then return label ++ say " = " ++ (← signedLiteral) else return label
  needSign ")"
  return say "(" ++ commas members ++ say ")"

/-- Texts and the closing parenthesis. -/
def texts : Nat → Parser (List Wording)
  | 0 => return []
  | fuel + 1 => do
    match ← peek with
    | .text .single s =>
      skip 1
      if ← sign "," then return singleQuoted s :: (← texts fuel)
      else if ← sign ")" then return [singleQuoted s]
      else expected ", or \x7d"
    | _ => expected "a string"

/-- The words behind the name of a type of the user's own. -/
def modifiers : Nat → Parser (List String)
  | 0 => return []
  | fuel + 1 => do
    match ← peek with
    | t@(.word ..) => skip 1; return t.display :: (← modifiers fuel)
    | .number digits _ => skip 1; return digits :: (← modifiers fuel)
    | .text .single s => skip 1; return s :: (← modifiers fuel)
    | .sign "," => skip 1; modifiers fuel
    | .sign ")" => skip 1; return []
    | _ => expected "type modifiers"

/-- The fields of an interval. -/
def intervalFields : Parser String := do
  match ← oneOf ["YEAR", "MONTH", "DAY", "HOUR", "MINUTE", "SECOND"] with
  | none => return ""
  | some unit =>
    let upTo (ends : List String) : Parser String := do
      if ← word "TO" then
        match ends with
        | [last] => needWord last; return " " ++ unit ++ " TO " ++ last
        | ends => return " " ++ unit ++ " TO " ++ (← needOneOf ends)
      else return " " ++ unit
    match unit with
    | "YEAR" => upTo ["MONTH"]
    | "DAY" => upTo ["HOUR", "MINUTE", "SECOND"]
    | "HOUR" => upTo ["MINUTE", "SECOND"]
    | "MINUTE" => upTo ["SECOND"]
    | _ => return " " ++ unit

/-- Types of numbers with an optional width and sign, and whether the word for having negative
numbers may stand behind them. -/
def integerTypes : List (String × Bool) := [
  ("TINYINT", true), ("INT2", false), ("SMALLINT", true), ("MEDIUMINT", true), ("INT", true),
  ("INT4", false), ("INTEGER", true), ("BIGINT", true), ("INT8", false)]

/-- Types that are one word and take nothing. -/
def bareTypes : List (String × String) := [
  ("BOOLEAN", "BOOLEAN"), ("BOOL", "BOOL"), ("FLOAT4", "FLOAT4"), ("FLOAT32", "Float32"),
  ("FLOAT64", "FLOAT64"), ("FLOAT8", "FLOAT8"), ("INT16", "Int16"), ("INT32", "Int32"),
  ("INT64", "INT64"), ("INT128", "Int128"), ("INT256", "Int256"), ("HUGEINT", "HUGEINT"),
  ("UBIGINT", "UBIGINT"), ("UHUGEINT", "UHUGEINT"), ("USMALLINT", "USMALLINT"),
  ("UTINYINT", "UTINYINT"), ("UINT8", "UInt8"), ("UINT16", "UInt16"),
  ("UINT32", "UInt32"), ("UINT64", "UInt64"), ("UINT128", "UInt128"),
  ("UINT256", "UInt256"), ("UUID", "UUID"), ("DATE", "DATE"), ("DATE32", "Date32"),
  ("JSON", "JSON"), ("JSONB", "JSONB"), ("REGCLASS", "REGCLASS"), ("TEXT", "TEXT"),
  ("TINYTEXT", "TINYTEXT"), ("MEDIUMTEXT", "MEDIUMTEXT"), ("LONGTEXT", "LONGTEXT"),
  ("TINYBLOB", "TINYBLOB"), ("MEDIUMBLOB", "MEDIUMBLOB"), ("LONGBLOB", "LONGBLOB"),
  ("BYTEA", "BYTEA"), ("TRIGGER", "TRIGGER")]

/-- Types with a number in parentheses. -/
def precisionTypes : List String := [
  "CLOB", "BLOB", "BINARY", "BYTES", "DATETIME", "STRING", "VARBIT", "TIMESTAMPTZ", "TIMETZ",
  "TIMESTAMP_NTZ"]

/-- Types of figures in the plane. -/
def figureTypes : List String := ["POINT", "LINE", "LSEG", "BOX", "PATH", "POLYGON", "CIRCLE"]

variable (n : Nested)

/-- Options of a field, behind its type. -/
def fieldOptions : Parser Wording := do
  if ← word "OPTIONS" then
    needSign "("
    let options ← commaListUntil ")" (keyedValue n)
    needSign ")"
    return say " OPTIONS(" ++ commas options ++ say ")"
  else return []

/-- The sign that closes a type in angle brackets. Two of them may stand together and close
two types. -/
def closeAngle (closed : Bool) : Parser Bool := do
  if closed then return false
  else if ← sign ">>" then return true
  else
    needSign ">"
    return false

mutual

/-- A type, and whether the sign that closes the type around it has been read with it. -/
def openType : Nat → Parser (DataType × Bool)
  | 0 => expected "a data type name"
  | fuel + 1 => do
    let (type, closed) ← namedType fuel
    if ← allows Dialect.bracketArrayTypes then return (← bracketed fuel type, closed)
    else return (type, closed)

/-- A type that closes itself. -/
def closedType : Nat → Parser DataType
  | 0 => expected "a data type name"
  | fuel + 1 => do
    let (type, closed) ← openType fuel
    if closed then
      throw (.other ("unmatched > after parsing data type "
        ++ String.ofList (writePieces false 0 type.spelling) ++ (← peek).display) none)
    else return type

def bracketed : Nat → DataType → Parser DataType
  | 0, type => return type
  | fuel + 1, type => do
    if ← sign "[" then
      let size := (← attempt wholeNumber).getD ""
      needSign "]"
      bracketed fuel (.known (type.spelling ++ say ("[" ++ size ++ "]")))
    else return type

/-- A type in parentheses, behind a title. -/
def wrappedType : Nat → String → Parser (DataType × Bool)
  | 0, _ => expected "a data type name"
  | fuel + 1, title => do
    let inner ← parens (closedType fuel)
    return (.known (say (title ++ "(") ++ inner.spelling ++ say ")"), false)

def namedType : Nat → Parser (DataType × Bool)
  | 0 => expected "a data type name"
  | fuel + 1 => do
    let left ← get
    let d ← dialect
    let whole (s : String) : Parser (DataType × Bool) := return (.known (say s), false)
    let wording (w : Wording) : Parser (DataType × Bool) := return (.known w, false)
    let own : Parser (DataType × Bool) := ownType fuel left
    let analytic := d.isOneOf [.clickhouse, .generic]
    match ← peek with
    | .word _ _ keyword =>
      skip 1
      if let some s := bareTypes.lookup keyword then whole s
      else if let some signed := integerTypes.lookup keyword then
        let p ← precision
        whole (keyword ++ p ++ (← unsignedSuffix signed))
      else if precisionTypes.contains keyword then whole (keyword ++ (← precision))
      else if d.geometricOperators && figureTypes.contains keyword then
        whole (Text.lower keyword)
      else
        match keyword with
        | "FLOAT" | "DECIMAL" | "DEC" =>
          let p ← precisionAndScale
          whole (keyword ++ p ++ (← unsignedSuffix false))
        | "REAL" => whole (keyword ++ (← unsignedSuffix false))
        | "DOUBLE" =>
          if ← word "PRECISION" then whole ("DOUBLE PRECISION" ++ (← unsignedSuffix false))
          else
            let p ← precisionAndScale
            whole ("DOUBLE" ++ p ++ (← unsignedSuffix false))
        | "NUMERIC" | "BIGNUMERIC" | "BIGDECIMAL" => whole (keyword ++ (← precisionAndScale))
        | "VARCHAR" | "NVARCHAR" => whole (keyword ++ (← characterLength))
        | "CHARACTER" | "CHAR" =>
          if ← word "VARYING" then whole (keyword ++ " VARYING" ++ (← characterLength))
          else if ← words ["LARGE", "OBJECT"] then
            whole (keyword ++ " LARGE OBJECT" ++ (← precision))
          else whole (keyword ++ (← characterLength))
        | "VARBINARY" => whole (keyword ++ (← binaryLength))
        | "BIT" =>
          if ← word "VARYING" then whole ("BIT VARYING" ++ (← precision))
          else whole ("BIT" ++ (← precision))
        | "TIMESTAMP" | "TIME" =>
          let p ← precision
          whole (keyword ++ p ++ (← timeZone))
        | "DATETIME64" =>
          needSign "("
          let n ← wholeNumber
          let zone ← if ← sign "," then pure (", '" ++ (← literalText) ++ "'") else pure ""
          needSign ")"
          whole ("DateTime64(" ++ n ++ zone ++ ")")
        | "FIXEDSTRING" => whole ("FixedString(" ++ (← parens wholeNumber) ++ ")")
        | "INTERVAL" =>
          if d.intervalOptions then
            let fields ← intervalFields
            return (.interval (say ("INTERVAL" ++ fields ++ (← precision))), false)
          else return (.interval (say "INTERVAL"), false)
        | "ENUM" | "ENUM8" | "ENUM16" => wording (say keyword ++ (← labels))
        | "SET" =>
          needSign "("
          wording (say "SET(" ++ commas (← texts (← bound)) ++ say ")")
        | "SIGNED" | "UNSIGNED" =>
          if ← word "INTEGER" then whole (keyword ++ " INTEGER") else whole keyword
        | "TSVECTOR" | "TSQUERY" =>
          if d.isOneOf [.postgres, .generic] then whole keyword else own
        | "ANY" => if ← word "TYPE" then whole "ANY TYPE" else own
        | "TABLE" =>
          if ← peekSign "(" then
            wording (say "TABLE(" ++ commas (← parens (commaList n.column)) ++ say ")")
          else whole "TABLE"
        | "ARRAY" =>
          if d = .snowflake then whole "ARRAY"
          else if d = .clickhouse then wrappedType fuel "Array"
          else
            needSign "<"
            let (inner, closed) ← openType fuel
            let closed ← closeAngle closed
            return (.known (say "ARRAY<" ++ inner.spelling ++ say ">"), closed)
        | "STRUCT" =>
          if d = .duckdb then
            let fields ← parensFirst (commaList (namedField fuel))
            wording (say "STRUCT(" ++ commas fields ++ say ")")
          else if d.isOneOf [.bigquery, .generic] then
            if ← sign "<" then
              let (fields, closed) ← structFields fuel
              let closed ← closeAngle closed
              return (.known (say "STRUCT<" ++ commas fields ++ say ">"), closed)
            else whole "STRUCT"
          else own
        | "UNION" =>
          if d.isOneOf [.duckdb, .generic] then
            wording (say "UNION(" ++ commas (← parens (commaList (namedField fuel))) ++ say ")")
          else own
        | "NULLABLE" => if analytic then wrappedType fuel "Nullable" else own
        | "LOWCARDINALITY" => if analytic then wrappedType fuel "LowCardinality" else own
        | "MAP" =>
          if analytic then
            needSign "("
            let key ← closedType fuel
            needSign ","
            let value ← closedType fuel
            needSign ")"
            wording (say "Map(" ++ key.spelling ++ say ", " ++ value.spelling ++ say ")")
          else own
        | "NESTED" =>
          if analytic then
            wording (say "Nested(" ++ commas (← parens (commaList n.column)) ++ say ")")
          else own
        | "TUPLE" =>
          if analytic then
            wording (say "Tuple(" ++ commas (← parens (tupleFields fuel)) ++ say ")")
          else own
        | _ => own
    | _ => expected "a data type name"

/-- A type of the user's own, which starts where `left` does. -/
def ownType : Nat → List Lexeme → Parser (DataType × Bool)
  | 0, _ => expected "a data type name"
  | fuel + 1, left => do
    set left
    let spelling ← nameWording n false
    if ← sign "(" then
      let words ← modifiers fuel
      return (.custom (spelling ++ if words.isEmpty then [] else
        say ("(" ++ ", ".intercalate words ++ ")")), false)
    else return (.custom spelling, false)

/-- A name and a type. -/
def namedField : Nat → Parser Wording
  | 0 => expected "identifier"
  | fuel + 1 => do
    let name ← identWording
    return name ++ say " " ++ (← closedType fuel).spelling

/-- A type with its options, and the name in front of it if there is one. -/
def structField : Nat → Parser (Wording × Bool)
  | 0 => expected "a data type name"
  | fuel + 1 => do
    let named :=
      match ← peek, ← peekAt 1 with
      | .word .., .word .. => true
      | .word .., .sign ":" => true
      | _, _ => false
    let name ← do
      if named then
        let name ← identWording
        discard (sign ":")
        pure (name ++ say " ")
      else pure []
    let (type, closed) ← openType fuel
    return (name ++ type.spelling ++ (← fieldOptions n), closed)

/-- The fields of a type in angle brackets, behind the opening one. -/
def structFields : Nat → Parser (List Wording × Bool)
  | 0 => expected "a data type name"
  | fuel + 1 => do
    let (field, closed) ← structField fuel
    if ← pure (!closed) <&&> sign "," then
      let (fields, closed) ← structFields fuel
      return (field :: fields, closed)
    else return ([field], closed)

/-- The fields of a type in parentheses, behind the opening one. -/
def tupleFields : Nat → Parser (List Wording)
  | 0 => return []
  | fuel + 1 => do
    let (field, _) ← structField fuel
    if ← sign "," then return field :: (← tupleFields fuel) else return [field]

end

def dataType : Parser DataType := do closedType n (6 * (← bound))

def typeWording : Parser Wording := return (← dataType n).spelling

/-- The second name of a table, and those of its columns. -/
def tableLabel : Parser (Option Alias) := do
  match ← secondName (freely namesTable) with
  | none => return none
  | some (marked, name) =>
    let columns ←
      if ← sign "(" then do
        let columns ← commaList do
          let column ← ident
          let type := (← attempt (typeWording n)).getD []
          return (column, String.ofList (writePieces false 0 type))
        needSign ")"
        pure columns
      else pure []
    return some ⟨marked, name, columns⟩

end EmbeddedSql.Sql.Grammar
