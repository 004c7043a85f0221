import EmbeddedSql.Engine
import EmbeddedSql.Format
import EmbeddedSql.Table

/-! Recipes: what is done to every text of a document. A visit gives back the part of the
document that takes the place of the visited one, and the recipe with what it has noted. -/
namespace EmbeddedSql.Recipe

/-- What a recipe is called, and what it is for. -/
structure Title where
  name : String
  description : String
deriving DecidableEq, Repr

/-- The engine of a recipe that nobody chose settings for. -/
def defaultEngine : Engine := .ofDialect .generic {}

def queryTable : Table QueryRow := .empty "Database queries" "Queries found in the source."

end EmbeddedSql.Recipe
