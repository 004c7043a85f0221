import EmbeddedSql.Sql.Grammar.Definition.View

/-! Rights: who may do what with which things. -/
namespace EmbeddedSql.Sql.Grammar

open Text

variable (n : Nested)

/-! ### What may be done -/

/-- The things that may be created. -/
def creatable : List (List String) := [
  ["APPLICATION", "PACKAGE"], ["COMPUTE", "POOL"], ["DATA", "EXCHANGE", "LISTING"],
  ["EXTERNAL", "VOLUME"], ["FAILOVER", "GROUP"], ["NETWORK", "POLICY"],
  ["ORGANIZATION", "LISTING"], ["REPLICATION", "GROUP"], ["ACCOUNT"], ["APPLICATION"],
  ["DATABASE"], ["INTEGRATION"], ["ROLE"], ["SCHEMA"], ["SHARE"], ["USER"], ["WAREHOUSE"]]

/-- The things that may be carried out. -/
def executable : List (List String) := [
  ["ALERT"], ["DATA", "METRIC", "FUNCTION"], ["MANAGED", "ALERT"], ["MANAGED", "TASK"], ["TASK"]]

def appliable : List (List String) := [
  ["AGGREGATION", "POLICY"], ["AUTHENTICATION", "POLICY"], ["JOIN", "POLICY"],
  ["MASKING", "POLICY"], ["PACKAGES", "POLICY"], ["PASSWORD", "POLICY"],
  ["PROJECTION", "POLICY"], ["ROW", "ACCESS", "POLICY"], ["SESSION", "POLICY"], ["TAG"]]

def manageable : List (List String) := [
  ["ACCOUNT", "SUPPORT", "CASES"], ["EVENT", "SHARING"], ["GRANTS"],
  ["LISTING", "AUTO", "FULFILLMENT"], ["ORGANIZATION", "SUPPORT", "CASES"],
  ["USER", "SUPPORT", "CASES"], ["WAREHOUSES"]]

/-- Rights of several words. -/
def longRights : List (List String) := [
  ["IMPORTED", "PRIVILEGES"], ["ADD", "SEARCH", "OPTIMIZATION"], ["ATTACH", "LISTING"],
  ["ATTACH", "POLICY"], ["BIND", "SERVICE", "ENDPOINT"], ["DATABASE", "ROLE"],
  ["EVOLVE", "SCHEMA"], ["IMPORT", "SHARE"], ["MANAGE", "VERSIONS"], ["MANAGE", "RELEASES"],
  ["OVERRIDE", "SHARE", "RESTRICTIONS"], ["PURCHASE", "DATA", "EXCHANGE", "LISTING"],
  ["RESOLVE", "ALL"], ["READ", "SESSION"]]

/-- Rights of one word. -/
def shortRights : List String := [
  "APPLY", "APPLYBUDGET", "AUDIT", "CONNECT", "CREATE", "DELETE", "EXEC", "EXECUTE", "FAILOVER",
  "INSERT", "MANAGE", "MODIFY", "MONITOR", "OPERATE", "REFERENCES", "READ", "REPLICATE", "ROLE",
  "SELECT", "TEMPORARY", "TRIGGER", "TRUNCATE", "UPDATE", "USAGE", "OWNERSHIP", "DROP"]

/-- Something that a role may do. -/
def permission : Parser Wording := do
  match ← firstWords longRights with
  | some "DATABASE ROLE" => return say "DATABASE ROLE " ++ (← nameWording n false)
  | some right => return say right
  | none =>
    match ← oneOf shortRights with
    | none => expected "a privilege keyword"
    | some k =>
      let kindOf (kinds : List (List String)) : Parser Wording := do
        return say (k ++ (← optionalOneOf kinds))
      let needKind (kinds : List (List String)) : Parser Wording := do
        match ← firstWords kinds with
        | some kind => return say (k ++ " " ++ kind)
        | none => expected ("GRANT " ++ k ++ " type")
      match k with
      | "CREATE" => kindOf creatable
      | "EXEC" | "EXECUTE" => kindOf executable
      | "MODIFY" =>
        kindOf [["LOG", "LEVEL"], ["TRACE", "LEVEL"], ["SESSION", "LOG", "LEVEL"],
          ["SESSION", "TRACE", "LEVEL"]]
      | "MONITOR" => kindOf [["EXECUTION"], ["SECURITY"], ["USAGE"]]
      | "APPLY" => needKind appliable
      | "MANAGE" => needKind manageable
      | "ROLE" => return say "ROLE " ++ (← nameWording n false)
      | "SELECT" | "INSERT" | "UPDATE" | "REFERENCES" => return say k ++ (← optionalColumns)
      | _ => return say k

/-- Everything, or a list of rights, which may have a comma behind its last member. -/
def permissions : Parser Wording := do
  if ← word "ALL" then return say ("ALL" ++ (← optionalWords ["PRIVILEGES"]))
  else
    let trailing ← allows Dialect.trailingCommas
    return commas (← separated (permission n) (listGoesOn trailing fun keyword _ => keyword = "ON"))

/-! ### With which things -/

/-- Things of one kind that belong to another one, now or from now on. -/
def thingsInside : List (List String) :=
  let inSchema (ks : List String) : List String := ks ++ ["IN", "SCHEMA"]
  [["TABLES"], ["EXTERNAL", "TABLES"], ["VIEWS"], ["MATERIALIZED", "VIEWS"],
      ["SEQUENCES"]].flatMap (fun ks => [inSchema ("ALL" :: ks), inSchema ("FUTURE" :: ks)])
    ++ [inSchema ["ALL", "FUNCTIONS"], ["FUTURE", "SCHEMAS", "IN", "DATABASE"],
      ["RESOURCE", "MONITOR"], ["COMPUTE", "POOL"], ["FAILOVER", "GROUP"],
      ["REPLICATION", "GROUP"], ["EXTERNAL", "VOLUME"]]

/-- The name of a thing, of which the last word, or the only one, may be a star. -/
def thing : Parser Wording := do
  if ← sign "*" then
    if ← sign "." then
      if ← sign "*" then return say "*.*" else return say "*." ++ (← nameWording n false)
    else return say "*"
  else
    let starred ← attempt do
      let first ← identWording
      needSign "."
      needSign "*"
      return first ++ say ".*"
    match starred with
    | some w => return w
    | none => nameWording n false

/-- What a right is about. A plain table is written without its kind. -/
def rightObjects : Parser Wording := do
  if ← word "ON" then
    match ← firstWords thingsInside with
    | some kind => return say (" ON " ++ kind ++ " ") ++ (← names n)
    | none =>
      let kind ← oneOf ["SEQUENCE", "DATABASE", "SCHEMA", "TABLE", "VIEW", "WAREHOUSE",
        "INTEGRATION", "USER", "CONNECTION", "PROCEDURE", "FUNCTION"]
      let things ← commaList (thing n)
      match kind with
      | none | some "TABLE" => return say " ON " ++ commas things
      | some k =>
        if k = "PROCEDURE" || k = "FUNCTION" then
          let types ← do
            if ← peekSign "(" then parens (commaListUntil ")" (typeWording n)) else pure []
          return say (" ON " ++ k ++ " ") ++ (things.head?.getD []) ++ titled "" types
        else return say (" ON " ++ k ++ " ") ++ commas things
  else return []

/-! ### Who -/

/-- Holders of rights. A kind that is written once holds for those behind it as well. -/
def granteesOf (kind : String) : Nat → Parser (List Wording)
  | 0 => return []
  | fuel + 1 => do
    let left ← get
    let found ← firstWords [["ROLE"], ["USER"], ["SHARE"], ["GROUP"], ["PUBLIC"],
      ["DATABASE", "ROLE"], ["APPLICATION", "ROLE"], ["APPLICATION"]]
    let barred := found = some "PUBLIC" && (← dialect) = .mssql
    if barred then set left
    let kind := if barred then kind else (found.map (· ++ " ")).getD kind
    let label ← do
      if kind = "PUBLIC " then pure []
      else
        let label ← userName n
        if ← sign ":" then pure (label ++ say ":" ++ (← identWording)) else pure label
    if ← sign "," then return (say kind ++ label) :: (← granteesOf kind fuel)
    else return [say kind ++ label]

def grantees : Parser Wording := return commas (← granteesOf n "" (← bound))

/-! ### The statements -/

def grant : Parser Wording := do
  let rights ← permissions n
  let objects ← rightObjects n
  needWord "TO"
  let holders ← grantees n
  let option ← optionalWords ["WITH", "GRANT", "OPTION"]
  let current ← optionalOneOf [["COPY", "CURRENT", "GRANTS"], ["REVOKE", "CURRENT", "GRANTS"]]
  let stated ← optionalClause ["AS"] identWording
  let giver ← optionalClause ["GRANTED", "BY"] identWording
  flatStatement (say "GRANT " ++ rights ++ objects ++ say " TO " ++ holders
    ++ say (option ++ current) ++ stated ++ giver)

def revoke : Parser Wording := do
  let rights ← permissions n
  let objects ← rightObjects n
  needWord "FROM"
  let holders ← grantees n
  let giver ← optionalClause ["GRANTED", "BY"] identWording
  flatStatement (say "REVOKE " ++ rights ++ objects ++ say " FROM " ++ holders ++ giver
    ++ say (← dropBehaviour))

def deny : Parser Wording := do
  let rights ← permissions n
  let objects ← rightObjects n
  if objects.isEmpty then failHere "DENY statements must specify an object"
  else
    needWord "TO"
    let holders ← grantees n
    let cascade ← dropBehaviour
    let giver ← optionalClause ["AS"] identWording
    flatStatement (say "DENY " ++ rights ++ objects ++ say " TO " ++ holders ++ say cascade
      ++ giver)

end EmbeddedSql.Sql.Grammar
