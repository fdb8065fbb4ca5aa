import ParamSql.Config
import ParamSql.Style
import ParamSql.Text.Lower

/-!
# Backends

The kinds of database that can be connected to, and in what their drivers differ: the binding style,
the connect arguments, what is set on a new connection, and how a failure to connect is reported.
-/

namespace ParamSql

inductive Backend where
  | sqlite
  | postgresql
deriving DecidableEq

namespace Backend

/-- The name of a driver is matched without regard to case. -/
def ofDriver (driver : String) : Except Error Backend :=
  let name := Text.lower driver.toList
  if name = "sqlite".toList then .ok .sqlite
  else if name = "postgresql".toList then .ok .postgresql
  else .error (.unsupportedDriver driver)

def style : Backend → Style
  | sqlite => .qmark
  | postgresql => .format

def connectArguments (config : Config) : Backend → Row
  | sqlite => config.fileArguments
  | postgresql => config.serverArguments.insert "row_factory" (.text "dict_row")

/-- Rows by name are asked for on the connection itself, once it is open. -/
def setsRowFactory : Backend → Bool
  | sqlite => true
  | postgresql => false

def connectError (config : Config) (failure : Failure) : Backend → Error
  | sqlite => .driver failure
  | postgresql =>
    if failure.operational then .cannotConnect config.database failure else .driver failure

end Backend

end ParamSql
