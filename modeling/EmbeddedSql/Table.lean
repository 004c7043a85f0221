/-! Tables of findings. Rows are added at the end and stay. -/
namespace EmbeddedSql

structure Table (Row : Type) where
  name : String
  description : String
  rows : List Row
deriving Repr

namespace Table

variable {Row : Type}

def empty (name description : String) : Table Row := ⟨name, description, []⟩

def insert (t : Table Row) (r : Row) : Table Row := {t with rows := t.rows ++ [r]}

def insertAll (t : Table Row) (rs : List Row) : Table Row := {t with rows := t.rows ++ rs}

def length (t : Table Row) : Nat := t.rows.length

def isEmpty (t : Table Row) : Bool := t.rows.isEmpty

end Table

/-- A query that was found. -/
structure QueryRow where
  path : String
  query : String
deriving DecidableEq, Repr

end EmbeddedSql
