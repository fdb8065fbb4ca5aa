import ParamSql.Template
import ParamSql.Waiting.Pool

/-!
# Executing queries with waits

As with blocking connections, a query's work is committed before its connection goes back to the
pool, and undone if the query fails. Every call on the connection is a wait.
-/

namespace ParamSql.Waiting

/-! ## On one connection -/

def execute (handle : Handle) (statement : Prepared) : Waiting (Option Cursor) := do
  let connection ← done (connectionOf "execute" handle)
  call (.execute connection statement)

def fetch (handle : Handle) (cursor : Cursor) : Waiting (List ResultRow) := do
  let connection ← done (connectionOf "fetchall" handle)
  let _ ← call (.fetch connection cursor)
  done cursor.assemble

def commit (handle : Handle) : Waiting Unit := do
  let connection ← done (connectionOf "commit" handle)
  let _ ← call (.commit connection)

def rollback (handle : Handle) : Waiting Unit := do
  let connection ← done (connectionOf "rollback" handle)
  let _ ← call (.rollback connection)

/-- Binds the values of a query as the backend wants them and executes it. -/
def send (engine : Engine) (handle : Handle) (query : Query) : Waiting (Option Cursor) :=
  coroutine do
    let statement ← done (query.prepare engine.backend.style)
    execute handle statement

def runQuery (engine : Engine) (handle : Handle) (query : Query) : Waiting (List ResultRow) := do
  match ← send engine handle query with
  | none => return []
  | some cursor => fetch handle cursor

/-- Runs a query and renames its columns. All errors but those of the key rule tell the query. -/
def executeOn (engine : Engine) (handle : Handle) (query : Query) : Waiting (List ResultRow) :=
  coroutine do
    record (.debug query.executingLine)
    match ← attempt (runQuery engine handle query) with
    | .ok rows => done (renameRows engine.keyRule rows)
    | .error error => raise (.queryFailed query.text error.message (some error))

def commitQuery (handle : Handle) (query : Query) : Waiting Unit := coroutine do
  match ← attempt (commit handle) with
  | .ok () => return ()
  | .error error =>
    raise (.queryFailed query.text ("commit failed: " ++ error.message) (some error))

/-! ## On a connection of the pool -/

/-- A failed query is rolled back; any other error leaves the connection as it is. -/
def executeOrUndo (engine : Engine) (handle : Handle) (query : Query) :
    Waiting (List ResultRow) := do
  let outcome ← attempt do
    let rows ← executeOn engine handle query
    commitQuery handle query
    return rows
  match outcome with
  | .ok rows => return rows
  | .error error =>
    if error.isQueryFailure then rollback handle
    raise error

/-- The connection goes back to the pool whatever happens. -/
def executeQuery (engine : Engine) (query : Query) : Waiting (List ResultRow) := coroutine do
  let handle ← acquire engine
  let outcome ← attempt (executeOrUndo engine handle query)
  release handle
  done outcome

def rawQuery (engine : Engine) (template : String) (named : Row) : Waiting (List ResultRow) :=
  coroutine do executeQuery engine (← done (Template.bind template named))

end ParamSql.Waiting
