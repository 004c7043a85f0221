import EmbeddedSql.Recipe.Basic

/-! Laying out the SQL in text blocks. -/
namespace EmbeddedSql.Recipe

open Text

structure FormatSql where
  engine : Engine
  format : String → Except Error String

namespace FormatSql

def title : Title :=
  ⟨"Format SQL in String Text Blocks",
    "Checks whether a text block may contain SQL, and if so, formats the text accordingly."⟩

def default : FormatSql := ⟨defaultEngine, Format.all .generic Format.defaultUnit⟩

def ofSettings (s : Settings) : Except Error FormatSql := do
  let d ← dialectOf s.dialect
  return ⟨.ofDialect d s.style, Format.all d s.indent⟩

/-- A text block is written anew if its text is SQL and is not laid out already. The line
break at its end does not count. -/
def visit (r : FormatSql) (h : Host) : Host :=
  match h.body? with
  | none => h
  | some body =>
    if !r.engine.isSql h.text then h
    else
      match r.format h.text with
      | .error _ => h
      | .ok formatted =>
        let value := h.text.toList
        let current :=
          if TextBlock.endsInLineBreak body then (dropLast? '\n' value).getD value else value
        if formatted.toList = current then h else h.withTextBlock r.engine.style formatted

end FormatSql

end EmbeddedSql.Recipe
