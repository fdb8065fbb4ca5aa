import ParamSql.Backend
import ParamSql.Catalog
import ParamSql.KeyRule

/-!
# Engines

Everything about a database that stays the same while it is used.
-/

namespace ParamSql

structure Engine where
  config : Config
  backend : Backend
  catalog : Option Catalog
  keyRule : Option KeyRule

/-- A table, or its key in the catalog. -/
inductive TableRef where
  | key (key : String)
  | table (table : Table)

namespace Engine

def ofConfig (config : Config) (catalog : Option Catalog) (keyRule : Option KeyRule) :
    Except Error Engine := do
  let backend ← Backend.ofDriver config.driver
  return ⟨config, backend, catalog, keyRule⟩

def resolve (engine : Engine) : TableRef → Except Error Table
  | .table table => .ok table
  | .key key => match engine.catalog with
    | some catalog => catalog.table key
    | none => .error (.noMetadata key)

/-! ## Lines of the debug log -/

def openedLine (engine : Engine) (opened : Int) : String :=
  "Opened " ++ engine.config.driver ++ " connection " ++ toString opened ++ "/"
    ++ toString engine.config.poolSize

end Engine

def Query.executingLine (query : Query) : String :=
  "Executing " ++ query.text ++ " with " ++ toString query.values.length ++ " value(s)"

def rollingBackLine (reason : String) : String := "Rolling back transaction after " ++ reason

end ParamSql
