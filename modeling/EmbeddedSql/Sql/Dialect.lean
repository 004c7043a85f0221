import EmbeddedSql.Text.Blank
import EmbeddedSql.Text.Letter

/-! The dialects of SQL and what sets them apart.

`Dialect.named?` finds a dialect by one of the names in use for it. The rest of the file
is one predicate for each construct that some dialects read and others do not; the lexer
and the grammar ask only these. -/
namespace EmbeddedSql.Sql

open Text

inductive Dialect
  | generic | ansi | postgres | mysql | sqlite | mssql | redshift | snowflake
  | bigquery | databricks | hive | duckdb | clickhouse
deriving DecidableEq, Repr, Inhabited

namespace Dialect

/-- The dialect with this name. White space around it and the case of ASCII letters do not
matter; some dialects answer to the name of a close relative. -/
def named? (name : String) : Option Dialect :=
  match String.ofList ((trimChars name.toList).map Char.toLower) with
  | "generic" | "sql" => some generic
  | "ansi" => some ansi
  | "postgresql" | "postgres" => some postgres
  | "mysql" | "mariadb" => some mysql
  | "sqlite" => some sqlite
  | "mssql" | "tsql" => some mssql
  | "redshift" => some redshift
  | "snowflake" => some snowflake
  | "bigquery" => some bigquery
  | "spark" | "databricks" => some databricks
  | "hive" => some hive
  | "duckdb" => some duckdb
  | "clickhouse" => some clickhouse
  | _ => none

/-- The name under which a dialect shows itself in messages. -/
def title : Dialect → String
  | generic => "GenericDialect"
  | ansi => "AnsiDialect"
  | postgres => "PostgreSqlDialect"
  | mysql => "MySqlDialect"
  | sqlite => "SQLiteDialect"
  | mssql => "MsSqlDialect"
  | redshift => "RedshiftSqlDialect"
  | snowflake => "SnowflakeDialect"
  | bigquery => "BigQueryDialect"
  | databricks => "DatabricksDialect"
  | hive => "HiveDialect"
  | duckdb => "DuckDbDialect"
  | clickhouse => "ClickHouseDialect"

def isOneOf (d : Dialect) (ds : List Dialect) : Bool := ds.contains d

/-! ### Words -/

/-- Starts a name in quotes. -/
def opensName (d : Dialect) (c : Char) : Bool :=
  match d with
  | postgres => c = '"'
  | mysql | bigquery | databricks => c = '\x60'
  | sqlite => c = '\x60' || c = '"' || c = '['
  | mssql => c = '"' || c = '['
  | _ => c = '"' || c = '\x60'

/-- Starts a plain word. -/
def startsWord (d : Dialect) (c : Char) : Bool :=
  match d with
  | generic | mssql => isAlphabetic c || c = '_' || c = '#' || c = '@'
  | ansi => c.isAlpha
  | snowflake | databricks | clickhouse => c.isAlpha || c = '_'
  | postgres => isAlphabetic c || c = '_' || 128 ≤ c.toNat
  | redshift => isAlphabetic c || c = '_' || 128 ≤ c.toNat || c = '#'
  | mysql => isAlphabetic c || c = '_' || c = '$' || c = '@' || 128 ≤ c.toNat
  | sqlite => c.isAlpha || c = '_' || (127 ≤ c.toNat && c.toNat ≤ 0xffff)
  | duckdb => isAlphabetic c || c = '_'
  | bigquery => c.isAlpha || c = '_' || c = '@'
  | hive => c.isAlphanum || c = '$'

/-- Goes on with a plain word. -/
def continuesWord (d : Dialect) (c : Char) : Bool :=
  match d with
  | generic | mssql =>
    isAlphabetic c || c.isDigit || c = '@' || c = '$' || c = '#' || c = '_'
  | ansi | bigquery | databricks => c.isAlphanum || c = '_'
  | clickhouse | sqlite | mysql => d.startsWord c || c.isDigit
  | postgres => isAlphabetic c || c.isDigit || c = '$' || c = '_' || 128 ≤ c.toNat
  | redshift => isAlphabetic c || c.isDigit || c = '$' || c = '_' || 128 ≤ c.toNat || c = '#'
  | snowflake => c.isAlphanum || c = '$' || c = '_'
  | duckdb => isAlphabetic c || c.isDigit || c = '$' || c = '_'
  | hive => c.isAlphanum || c = '_' || c = '$' || c = '\x7b' || c = '\x7d'

/-- A word may begin with digits. -/
def wordsMayStartWithDigits (d : Dialect) : Bool := d.isOneOf [mysql, hive]

/-- A bracket opens a name if a name or a quoted name follows it. -/
def bracketsMayQuote (d : Dialect) : Bool := d = redshift

/-! ### Literals and comments -/

def backslashEscapes (d : Dialect) : Bool :=
  d.isOneOf [mysql, snowflake, bigquery, redshift, clickhouse]

/-- A backslash before a wildcard of a pattern stays in the literal. -/
def keepsWildcardEscapes (d : Dialect) : Bool := d = mysql

def tripleQuotes (d : Dialect) : Bool := d = bigquery

def byteStrings (d : Dialect) : Bool := d.isOneOf [bigquery, postgres, mysql, generic]

def rawStrings (d : Dialect) : Bool := d.isOneOf [bigquery, generic]

def escapeStrings (d : Dialect) : Bool := d.isOneOf [generic, postgres, redshift]

def unicodeStrings (d : Dialect) : Bool := d.isOneOf [generic, postgres]

def digitSeparators (d : Dialect) : Bool := d.isOneOf [postgres, clickhouse]

def dollarPlaceholders (d : Dialect) : Bool := d = sqlite

def nestedComments (d : Dialect) : Bool :=
  d.isOneOf [generic, ansi, postgres, mssql, databricks, clickhouse]

def hashComments (d : Dialect) : Bool := d.isOneOf [snowflake, bigquery, mysql, hive]

def slashComments (d : Dialect) : Bool := d = snowflake

/-- Two dashes open a comment only before a blank. -/
def dashCommentNeedsBlank (d : Dialect) : Bool := d = mysql

/-! ### Operators -/

def geometricOperators (d : Dialect) : Bool := d.isOneOf [postgres, redshift]

def customOperatorPart (d : Dialect) (c : Char) : Bool :=
  d = postgres && "+-*/<>=~!@#%^&|\x60?".toList.contains c

def integerDivision (d : Dialect) : Bool := d.isOneOf [duckdb, generic]

def pipeOperator (d : Dialect) : Bool := d.isOneOf [bigquery, generic]

def booleanLiterals (d : Dialect) : Bool := d ≠ mssql

def bangNot (d : Dialect) : Bool := d = hive

def factorial (d : Dialect) : Bool := d = postgres

def shiftOperators (d : Dialect) : Bool := d.isOneOf [generic, postgres, duckdb, redshift]

def doubleAmpersand (d : Dialect) : Bool := d = mysql

def notNullOperator (d : Dialect) : Bool := d.isOneOf [postgres, sqlite, duckdb]

def emptyInList (d : Dialect) : Bool := d = sqlite

/-- Brackets and dots walk into semi-structured values. -/
def bracketPaths (d : Dialect) : Bool := d.isOneOf [redshift, snowflake]

def colonPaths (d : Dialect) : Bool := d = snowflake

/-! ### Expressions -/

/-- The unit of an interval must be written, and a whole expression may stand before it. -/
def intervalNeedsUnit (d : Dialect) : Bool :=
  d.isOneOf [ansi, bigquery, clickhouse, databricks, hive, mysql]

def intervalOptions (d : Dialect) : Bool := d.isOneOf [generic, postgres]

def lambdas (d : Dialect) : Bool := d.isOneOf [clickhouse, databricks, duckdb, snowflake]

def aggregateFilter (d : Dialect) : Bool :=
  d.isOneOf [generic, postgres, sqlite, hive, duckdb, databricks, snowflake]

def nullTreatmentArgument (d : Dialect) : Bool := d.isOneOf [generic, bigquery, snowflake]

def subqueryArgument (d : Dialect) : Bool := d = snowflake

def parametricCalls (d : Dialect) : Bool := d.isOneOf [clickhouse, generic]

def namedArgumentsByExpression (d : Dialect) : Bool := d.isOneOf [mssql, postgres]

/-- The signs that join the name of an argument to its value. -/
def namesArgument (d : Dialect) : String → Bool
  | "=>" => d ≠ mssql
  | "=" => d = duckdb
  | ":=" => d.isOneOf [generic, duckdb, postgres]
  | ":" => d.isOneOf [mssql, postgres]
  | _ => false

def typeBeforeValue (d : Dialect) : Bool := d.isOneOf [mssql, redshift]

def tryConvert (d : Dialect) : Bool := d.isOneOf [generic, mssql]

def structLiterals (d : Dialect) : Bool := d.isOneOf [generic, bigquery, databricks]

def dictionaries (d : Dialect) : Bool := d.isOneOf [generic, duckdb, clickhouse, snowflake]

def mapLiterals (d : Dialect) : Bool := d.isOneOf [generic, duckdb]

def matchAgainst (d : Dialect) : Bool := d.isOneOf [generic, mysql]

def customExtractFields (d : Dialect) : Bool := d.isOneOf [generic, postgres, snowflake]

def quotedExtractFields (d : Dialect) : Bool :=
  d.isOneOf [generic, postgres, redshift, snowflake]

def extractComma (d : Dialect) : Bool := d.isOneOf [generic, snowflake]

def commaTrim (d : Dialect) : Bool := d.isOneOf [generic, duckdb, snowflake, bigquery]

def outerJoinOperator (d : Dialect) : Bool := d.isOneOf [mssql, snowflake]

def bracketArrayTypes (d : Dialect) : Bool := d.isOneOf [generic, postgres, duckdb, redshift]

def signedSuffix (d : Dialect) : Bool := d.isOneOf [generic, mysql]

def adjacentStrings (d : Dialect) : Bool := d = mysql

def groupingSets (d : Dialect) : Bool :=
  d.isOneOf [generic, postgres, duckdb, snowflake, databricks, clickhouse, bigquery]

def groupByModifiers (d : Dialect) : Bool := d.isOneOf [generic, clickhouse, databricks, hive]

def connectBy (d : Dialect) : Bool := d.isOneOf [generic, mssql, redshift, snowflake]

/-! ### Lists and names -/

def trailingCommas (d : Dialect) : Bool := d = duckdb

def trailingCommasInProjection (d : Dialect) : Bool :=
  d.isOneOf [generic, bigquery, snowflake, duckdb]

def trailingCommasInColumns (d : Dialect) : Bool := d.isOneOf [bigquery, duckdb]

def trailingCommasInFrom (d : Dialect) : Bool := d = snowflake

/-- Two dots in a row skip the schema. -/
def doubleDotNames (d : Dialect) : Bool := d.isOneOf [mssql, snowflake]

def identifierFunction (d : Dialect) : Bool := d = snowflake

/-- Dashes may join the words of a table's name, and dots inside quotes divide it. -/
def dashedNames (d : Dialect) : Bool := d = bigquery

/-! ### Queries -/

def fromFirst (d : Dialect) : Bool := d.isOneOf [generic, duckdb, clickhouse]

def emptyProjection (d : Dialect) : Bool := d.isOneOf [generic, postgres]

def topBeforeDistinct (d : Dialect) : Bool := d = redshift

def aliasByEquals (d : Dialect) : Bool := d = mssql

def expressionStar (d : Dialect) : Bool := d.isOneOf [bigquery, snowflake]

def wildcardExclude (d : Dialect) : Bool := d.isOneOf [generic, duckdb, redshift, snowflake]

/-- Columns are left out behind the items as a whole. -/
def selectExclude (d : Dialect) : Bool := d = redshift

def wildcardExcept (d : Dialect) : Bool :=
  d.isOneOf [generic, bigquery, clickhouse, databricks]

def commaLimit (d : Dialect) : Bool :=
  d.isOneOf [generic, mysql, sqlite, clickhouse]

/-- The clauses that rewind columns and filter before reading: `PREWHERE`, `LIMIT BY`,
`SETTINGS`, `FORMAT`, `WITH FILL`, `INTERPOLATE`. -/
def columnStoreClauses (d : Dialect) : Bool := d.isOneOf [clickhouse, generic]

def orderByAll (d : Dialect) : Bool := d.isOneOf [duckdb, clickhouse]

def leftAssociativeJoins (d : Dialect) : Bool := d ≠ snowflake

def crossJoinConstraint (d : Dialect) : Bool := d = mysql

def parenthesizedTables (d : Dialect) : Bool := d.isOneOf [generic, snowflake]

def valuesAsTable (d : Dialect) : Bool := d.isOneOf [generic, snowflake, databricks]

def unnestTables (d : Dialect) : Bool := d.isOneOf [bigquery, postgres, generic]

def partitionSelection (d : Dialect) : Bool := d.isOneOf [mysql, generic]

def tableVersions (d : Dialect) : Bool := d.isOneOf [bigquery, mssql, snowflake]

def sampleBeforeAlias (d : Dialect) : Bool := d = hive

def tableHints (d : Dialect) : Bool := d = mysql

def semanticViews (d : Dialect) : Bool := d = snowflake

def matchRecognize (d : Dialect) : Bool := d.isOneOf [generic, snowflake]

def namedWindowReference (d : Dialect) : Bool := d.isOneOf [generic, bigquery]

/-! ### Statements -/

/-- The table that a new one takes after may stand in parentheses. -/
def likenessInParens (d : Dialect) : Bool := d.isOneOf [generic, redshift]

def insertSet (d : Dialect) : Bool := d = mysql

def insertTableFunction (d : Dialect) : Bool := d = clickhouse

def insertFormat (d : Dialect) : Bool := d = clickhouse

def describeNeedsTable (d : Dialect) : Bool := d.isOneOf [clickhouse, snowflake]

def explainOptions (d : Dialect) : Bool := d.isOneOf [generic, postgres, duckdb]

def commentOn (d : Dialect) : Bool := d.isOneOf [generic, postgres, snowflake]

/-- Things that are shown are chosen by their names before it is said where they are. -/
def shownFilterFirst (d : Dialect) : Bool := d = snowflake

def executeImmediate (d : Dialect) : Bool := d.isOneOf [bigquery, snowflake]

def setNames (d : Dialect) : Bool := d.isOneOf [generic, postgres, mysql]

def setWithoutOperator (d : Dialect) : Bool := d = mssql

def setLists (d : Dialect) : Bool := d.isOneOf [generic, mysql]

def parenthesizedSet (d : Dialect) : Bool := d.isOneOf [generic, bigquery, snowflake]

def beginModifiers (d : Dialect) : Bool := d.isOneOf [generic, sqlite, mssql]

def endModifiers (d : Dialect) : Bool := d = mssql

end Dialect

end EmbeddedSql.Sql
