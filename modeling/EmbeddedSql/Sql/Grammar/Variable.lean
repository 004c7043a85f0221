import EmbeddedSql.Sql.Grammar.Transaction

/-! Variables of a session: what stands behind `SET`, `RESET` and `ALTER SESSION`. -/
namespace EmbeddedSql.Sql.Grammar

open Text

variable (n : Nested)

/-- How far a variable reaches. -/
def scope : Parser String := do
  return (← oneOf ["SESSION", "LOCAL", "GLOBAL"]).elim "" (· ++ " ")

def toOrEquals : Parser Bool := sign "=" <||> word "TO"

/-! ### Values -/

/-- A value: a query, or an expression. Of what is wrong with it only the place is told. -/
def settingValue : Parser Wording := do
  if ← peekIsOf ["SELECT", "WITH"] then return say "(" ++ (← n.query).wording ++ say ")"
  else fun setting left =>
    match expr n setting left with
    | .ok (e, rest) => .ok (e.wording, rest)
    | .error .tooDeep => .error .tooDeep
    | .error e => expectedAt "variable value" (leftAtFault left e) setting left

def settingValues : Parser Wording := return commas (← separated (settingValue n) (sign ","))

/-! ### Variables -/

/-- A variable and its value, in a list of such, behind how far it reaches. -/
def variableSetting : Parser (String × Wording) := do
  let reach ← scope
  if (← allows Dialect.parenthesizedSet) && (← peekSign "(") then
    expected "Unparenthesized assignment"
  else
    let target ← nameWording n false
    if ← toOrEquals then return (reach, target ++ say " = " ++ (← expr n).wording)
    else expected "assignment operator"

/-- Variables with their values, where the dialect has lists of them. A `mark` belongs to a single
one. -/
def variableSettings (mark : String) : Parser (Option Wording) := do
  if ← allows Dialect.setLists then
    match ← attempt (commaList (variableSetting n)) with
    | some [(reach, w)] => return some (say (reach ++ mark) ++ w)
    | some settings => return some (commas (settings.map fun (reach, w) => say reach ++ w))
    | none => return none
  else return none

def onOrOff : Parser Wording := do
  match ← oneOf ["ON", "OFF"] with
  | some k => return say (" " ++ k)
  | none => expected "ON or OFF"

/-- Words as they are written, with commas between them. -/
def writtenWords (what : String) : Parser Wording := do
  let ws ← commaList do
    match ← peek with
    | t@(.word ..) => skip 1; return say t.display
    | _ => expected what
  return commas ws

/-- A switch of the session, and whether it is on. -/
def sessionSwitch : Parser Wording := do
  match ← oneOf ["STATISTICS", "IDENTITY_INSERT", "OFFSETS"] with
  | some "STATISTICS" =>
    match ← oneOf ["IO", "PROFILE", "TIME", "XML"] with
    | some topic => return say ("STATISTICS " ++ topic) ++ (← onOrOff)
    | none => expected "IO, PROFILE, TIME or XML"
  | some "IDENTITY_INSERT" =>
    let table ← nameWording n false
    return say "IDENTITY_INSERT " ++ table ++ (← onOrOff)
  | some _ =>
    let keywords ← writtenWords "SQL keyword"
    return say "OFFSETS " ++ keywords ++ (← onOrOff)
  | none =>
    let labels ← writtenWords "Session param name"
    return labels ++ say " " ++ (← expr n).wording

/-- What a variable, or several in parentheses, are set to. `mark` is what is written in front of a
single one. -/
def setVariable (mark : String) : Parser Wording := do
  if ← allows Dialect.parenthesizedSet <&&> sign "(" then
    let targets ← idents
    needSign ")"
    if ← toOrEquals then
      let values ← parens (settingValues n)
      return say "(" ++ targets ++ say ") = (" ++ values ++ say ")"
    else expected "equals sign or TO"
  else
    let start ← get
    let target ← nameWording n false
    if ← toOrEquals then return say mark ++ target ++ say " = " ++ (← settingValues n)
    else if ← allows Dialect.setWithoutOperator then
      set (start.drop (start.length - (← get).length - 1))
      sessionSwitch n
    else expected "equals sign or TO"

/-! ### Settings with a form of their own -/

def setRole (reach : String) : Parser Wording := do
  needWord "ROLE"
  let role ← if ← word "NONE" then pure (say "NONE") else identWording
  return say (reach ++ "ROLE ") ++ role

def setTimeZone (reach mark : String) : Parser Wording := do
  if ← toOrEquals then return say (reach ++ mark ++ "TIMEZONE = ") ++ (← settingValues n)
  else
    let «local» := if reach = "LOCAL " then reach else ""
    return say («local» ++ "TIME ZONE ") ++ (← expr n).wording

def setCharset : Parser Wording := do
  if ← word "DEFAULT" then return say "NAMES DEFAULT"
  else
    let charset ← identWording
    let order ← if ← word "COLLATE" then pure (" COLLATE " ++ (← literalText)) else pure ""
    return say "NAMES " ++ charset ++ say order

def setTransaction : Parser Wording := do
  if ← word "SNAPSHOT" then return say "TRANSACTION SNAPSHOT " ++ (← literal)
  else return say ("TRANSACTION" ++ (← transactionModes))

/-- The user whose rights count, from `AUTHORIZATION` on. -/
def setAuthorization (reach : String) : Parser Wording := do
  if reach = "" then expected "SESSION, LOCAL, or other scope modifier before AUTHORIZATION"
  else
    needWord "AUTHORIZATION"
    let user ← if ← word "DEFAULT" then pure (say "DEFAULT") else identWording
    return say (reach ++ "AUTHORIZATION ") ++ user

/-- Variables and their values, behind the verb. -/
def setting : Parser Wording := do
  let mark := if ← word "HIVEVAR" then "HIVEVAR:" else ""
  if mark ≠ "" then needSign ":"
  let start ← get
  let reach ← if mark = "" then scope else pure ""
  let done (p : Parser Wording) : Parser Wording := do flatStatement (say "SET " ++ (← p))
  match ← attempt (setRole reach) with
  | some w => done (return w)
  | none =>
    if ← words ["TIME", "ZONE"] <||> word "TIMEZONE" then done (setTimeZone n reach mark)
    else if ← allows Dialect.setNames <&&> word "NAMES" then done setCharset
    else if ← word "CHARACTERISTICS" then
      needWords ["AS", "TRANSACTION"]
      done (return say ("SESSION CHARACTERISTICS AS TRANSACTION" ++ (← transactionModes)))
    else if ← word "TRANSACTION" then done setTransaction
    else if ← peekIs "AUTHORIZATION" then done (setAuthorization reach)
    else
      if ← allows Dialect.setLists then set start
      match ← variableSettings n mark with
      | some w => done (return w)
      | none => done (setVariable n (reach ++ mark))

def reset : Parser Wording := do
  if ← word "ALL" then flatStatement (say "RESET ALL")
  else flatStatement (say "RESET " ++ (← nameWording n false))

/-- Parameters up to a semicolon or the end: with `isSet` they have values. -/
def sessionParameters (isSet : Bool) : Nat → Parser (List Wording)
  | 0 => return []
  | fuel + 1 => do
    match ← peek with
    | .endOfInput | .sign ";" => return []
    | .sign "," =>
      skip 1
      sessionParameters isSet fuel
    | .word key .. =>
      skip 1
      let parameter ← if isSet then keyValue key else pure (say key)
      return parameter :: (← sessionParameters isSet fuel)
    | _ => expected "another option or end of statement"

/-- Parameters of the session get values or lose them, behind `ALTER SESSION`. -/
def alterSession : Parser Wording := do
  match ← oneOf ["SET", "UNSET"] with
  | none => expected "SET or UNSET"
  | some way =>
    let parameters ← sessionParameters (way = "SET") (← bound)
    if parameters.isEmpty then throw (.other "expected at least one option" none)
    else
      flatStatement (say ("ALTER SESSION " ++ way ++ " ")
        ++ if way = "SET" then spaced parameters else commas parameters)

end EmbeddedSql.Sql.Grammar
