import EmbeddedSql.Sql.Grammar.Definition.Clause

/-! Transactions: how they begin, what they promise, and how they end. -/
namespace EmbeddedSql.Sql.Grammar

open Text

/-! ### Characteristics -/

def isolationLevel : Parser String := do
  match ← firstWords [["READ", "UNCOMMITTED"], ["READ", "COMMITTED"], ["REPEATABLE", "READ"],
      ["SERIALIZABLE"], ["SNAPSHOT"]] with
  | some level => return "ISOLATION LEVEL " ++ level
  | none => expected "isolation level"

def transactionMode : Parser (Option String) := do
  if ← words ["ISOLATION", "LEVEL"] then return some (← isolationLevel)
  else firstWords [["READ", "ONLY"], ["READ", "WRITE"]]

/-- Characteristics with or without commas between them; behind a comma there is one. -/
def transactionModesFrom : Nat → Bool → Parser (List String)
  | 0, _ => return []
  | fuel + 1, needed => do
    match ← transactionMode with
    | some mode => return mode :: (← transactionModesFrom fuel (← sign ","))
    | none => if needed then expected "transaction mode" else return []

/-- Characteristics of a transaction, as they are written behind others. -/
def transactionModes : Parser String := do
  let modes ← transactionModesFrom (← bound) false
  return if modes.isEmpty then "" else " " ++ ", ".intercalate modes

/-! ### Begin and end -/

def startTransaction : Parser Wording := do
  needWord "TRANSACTION"
  flatStatement (say ("START TRANSACTION" ++ (← transactionModes)))

/-- The words in front of the kind of a transaction. -/
def beginModifiers : List (List String) := [
  ["DEFERRED"], ["IMMEDIATE"], ["EXCLUSIVE"], ["TRY"], ["CATCH"]]

def transactionKinds : List (List String) := [["TRANSACTION"], ["WORK"]]

def beginTransaction : Parser Wording := do
  let modifier ← if ← allows Dialect.beginModifiers then optionalOneOf beginModifiers else pure ""
  let kind ← optionalOneOf transactionKinds
  flatStatement (say ("BEGIN" ++ modifier ++ kind ++ (← transactionModes)))

/-- Whether the next transaction starts at once. -/
def chained : Parser String := do
  discard (firstWords transactionKinds)
  if ← word "AND" then
    let negated ← word "NO"
    needWord "CHAIN"
    return if negated then "" else " AND CHAIN"
  else return ""

def commit : Parser Wording := do flatStatement (say ("COMMIT" ++ (← chained)))

def endTransaction : Parser Wording := do
  let modifier ←
    if ← allows Dialect.endModifiers then optionalOneOf [["TRY"], ["CATCH"]] else pure ""
  flatStatement (say ("END" ++ modifier ++ (← chained)))

def rollback : Parser Wording := do
  let chain ← chained
  let mark ← do
    if ← word "TO" then
      discard (word "SAVEPOINT")
      pure (say " TO SAVEPOINT " ++ (← identWording))
    else pure []
  flatStatement (say ("ROLLBACK" ++ chain) ++ mark)

def savepoint : Parser Wording := do flatStatement (say "SAVEPOINT " ++ (← identWording))

def release : Parser Wording := do
  discard (word "SAVEPOINT")
  flatStatement (say "RELEASE SAVEPOINT " ++ (← identWording))

end EmbeddedSql.Sql.Grammar
