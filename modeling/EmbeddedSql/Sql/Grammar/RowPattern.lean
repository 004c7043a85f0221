import EmbeddedSql.Sql.Grammar.Expression

/-! `MATCH_RECOGNIZE`: rows of a table that follow one another in a pattern. -/
namespace EmbeddedSql.Sql.Grammar

open Text

variable (n : Nested)

/-- How often a part of a pattern may occur, if its token says so. -/
def repetition : Parser (Option String) := do
  match ← peek with
  | .sign "*" => skip 1; return some "*"
  | .sign "+" => skip 1; return some "+"
  | .placeholder "?" => skip 1; return some "?"
  | .sign "\x7b" =>
    skip 1
    return some ("\x7b" ++ (← range) ++ "\x7d")
  | _ => return none
where
  /-- The least and the most occurrences, up to the closing brace. A number that is too large is
  reported where the range starts. -/
  range : Parser String := do
    let place := placeOf (← get)
    let number (digits : String) : Parser String :=
      return toString (← numberOf "u32" UInt32.size digits place)
    match ← next with
    | .sign "," =>
      match ← peek with
      | .number most _ =>
        skip 1
        needSign "\x7d"
        return "," ++ (← number most)
      | _ => expected "literal number"
    | .number least _ =>
      if ← sign "," then
        match ← peek with
        | .number most _ =>
          skip 1
          needSign "\x7d"
          let least ← number least
          return least ++ "," ++ (← number most)
        | .sign "\x7d" =>
          skip 1
          return (← number least) ++ ","
        | _ => expected "\x7d or upper bound"
      else
        needSign "\x7d"
        number least
    | t => throw (.expected "quantifier range" t place)

mutual

/-- A symbol of a pattern, or a pattern in parentheses. -/
def patternSymbol : Nat → Parser String
  | 0 => expected "identifier"
  | fuel + 1 => do
    if ← sign "^" then return "^"
    else if (← peek) = .placeholder "$" then
      skip 1
      return "$"
    else if ← sign "\x7b" then
      needSign "-"
      let symbol ← identText
      needSign "-"
      needSign "\x7d"
      return "\x7b- " ++ symbol ++ " -\x7d"
    else if ← sign "(" then
      let inner ← rowPattern fuel
      needSign ")"
      return "( " ++ inner ++ " )"
    else
      match ← peek with
      | .word "PERMUTE" none _ =>
        skip 1
        return "PERMUTE(" ++ ", ".intercalate (← parens (commaList identText)) ++ ")"
      | _ => identText

/-- Symbols that follow one another, each as often as it says. -/
def patternRun : Nat → Parser String
  | 0 => expected "identifier"
  | fuel + 1 => do
    let symbol ← patternSymbol fuel
    let part := symbol ++ String.join (← many repetition)
    if (← peekSign ")") || (← peekSign "|") then return part
    else return part ++ " " ++ (← patternRun fuel)

def rowPattern : Nat → Parser String
  | 0 => expected "identifier"
  | fuel + 1 => do
    let first ← patternRun fuel
    if ← sign "|" then return first ++ " | " ++ (← rowPattern fuel) else return first

end

/-- Which rows a match gives. -/
def rowsPerMatch : Parser String := do
  if ← words ["ONE", "ROW", "PER", "MATCH"] then return "ONE ROW PER MATCH "
  else if ← words ["ALL", "ROWS", "PER", "MATCH"] then
    let mode ← firstWords [["SHOW", "EMPTY", "MATCHES"], ["OMIT", "EMPTY", "MATCHES"],
      ["WITH", "UNMATCHED", "ROWS"]]
    return "ALL ROWS PER MATCH" ++ mode.elim "" (" " ++ ·) ++ " "
  else return ""

/-- Where the next match is looked for. -/
def matchResumption : Parser Wording := do
  if ← words ["AFTER", "MATCH", "SKIP"] then
    if ← words ["PAST", "LAST", "ROW"] then return say "AFTER MATCH SKIP PAST LAST ROW "
    else if ← words ["TO", "NEXT", "ROW"] then return say "AFTER MATCH SKIP  TO NEXT ROW "
    else
      match ← firstWords [["TO", "FIRST"], ["TO", "LAST"]] with
      | some place =>
        return say ("AFTER MATCH SKIP " ++ place ++ " ") ++ (← identWording) ++ say " "
      | none => expected "after match skip option"
  else return []

/-- The pattern and what its symbols mean, behind the opening parenthesis. -/
def recognition : Parser Wording := do
  let partition ←
    if ← words ["PARTITION", "BY"] then pure (say "PARTITION BY " ++ (← exprs n) ++ say " ")
    else pure []
  let order ←
    if ← words ["ORDER", "BY"] then pure (say "ORDER BY " ++ (← sortKeys n) ++ say " ")
    else pure []
  let measures ←
    if ← word "MEASURES" then
      let members ← commaList do
        let e ← expr n
        discard (word "AS")
        return e.wording ++ say " AS " ++ (← identWording)
      pure (say "MEASURES " ++ commas members ++ say " ")
    else pure []
  let rows ← rowsPerMatch
  let resumption ← matchResumption
  needWord "PATTERN"
  let pattern ← parens (rowPattern (3 * (← bound)))
  needWord "DEFINE"
  let symbols ← commaList do
    let symbol ← identWording
    needWord "AS"
    return symbol ++ say " AS " ++ (← expr n).wording
  needSign ")"
  return partition ++ order ++ measures ++ say rows ++ resumption
    ++ say ("PATTERN (" ++ pattern ++ ") DEFINE ") ++ commas symbols ++ say ")"

end EmbeddedSql.Sql.Grammar
