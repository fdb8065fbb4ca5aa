import ParamSql.Blocking.Pool
import ParamSql.Template

/-!
# Executing queries

A query runs on a connection of the pool, and its work is committed before the connection goes back.
If it fails there, the work is undone.
-/

namespace ParamSql.Blocking

/-! ## On one connection -/

def execute (handle : Handle) (statement : Prepared) : Blocking (Option Cursor) := do
  let connection ← done (connectionOf "execute" handle)
  call (.execute connection statement)

def fetch (handle : Handle) (cursor : Cursor) : Blocking (List ResultRow) := do
  let connection ← done (connectionOf "fetchall" handle)
  let _ ← call (.fetch connection cursor)
  done cursor.assemble

def commit (handle : Handle) : Blocking Unit := do
  let connection ← done (connectionOf "commit" handle)
  let _ ← call (.commit connection)

def rollback (handle : Handle) : Blocking Unit := do
  let connection ← done (connectionOf "rollback" handle)
  let _ ← call (.rollback connection)

/-- The rows of a query; one without results has none. -/
def runQuery (engine : Engine) (handle : Handle) (query : Query) : Blocking (List ResultRow) := do
  let statement ← done (query.prepare engine.backend.style)
  match ← execute handle statement with
  | none => return []
  | some cursor => fetch handle cursor

/-- Runs a query and renames its columns. All errors but those of the key rule tell the query. -/
def executeOn (engine : Engine) (handle : Handle) (query : Query) : Blocking (List ResultRow) := do
  record (.debug query.executingLine)
  match ← attempt (runQuery engine handle query) with
  | .ok rows => done (renameRows engine.keyRule rows)
  | .error error => raise (.queryFailed query.text error.message (some error))

def commitQuery (handle : Handle) (query : Query) : Blocking Unit := do
  match ← attempt (commit handle) with
  | .ok () => return ()
  | .error error =>
    raise (.queryFailed query.text ("commit failed: " ++ error.message) (some error))

/-! ## On a connection of the pool -/

def executeAndCommit (engine : Engine) (handle : Handle) (query : Query) :
    Blocking (List ResultRow) := do
  let rows ← executeOn engine handle query
  commitQuery handle query
  return rows

/-- A failed query is rolled back; any other error leaves the connection as it is. -/
def executeOrUndo (engine : Engine) (handle : Handle) (query : Query) :
    Blocking (List ResultRow) := do
  match ← attempt (executeAndCommit engine handle query) with
  | .ok rows => return rows
  | .error error =>
    if error.isQueryFailure then rollback handle
    raise error

/-- The connection goes back to the pool whatever happens. -/
def executeQuery (engine : Engine) (query : Query) : Blocking (List ResultRow) := do
  let handle ← acquire engine
  let outcome ← attempt (executeOrUndo engine handle query)
  release handle
  done outcome

def rawQuery (engine : Engine) (template : String) (named : Row) : Blocking (List ResultRow) := do
  executeQuery engine (← done (Template.bind template named))

end ParamSql.Blocking
