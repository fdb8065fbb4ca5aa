/-! # Tables -/

namespace ParamSql

/-- A table's alias is its name. -/
structure Table where
  schema : String
  name : String
deriving DecidableEq, Inhabited

namespace Table

def qualifiedName (table : Table) : String := table.schema ++ "." ++ table.name

def fromClause (table : Table) : String := table.qualifiedName ++ " AS " ++ table.name

end Table

end ParamSql
