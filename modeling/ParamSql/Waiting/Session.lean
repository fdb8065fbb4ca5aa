import ParamSql.Session.Step
import ParamSql.Waiting.Transaction

/-!
# Waiting sessions

What each step of a session does, and the reports of a session in which every step is waited for
before the next one begins.
-/

namespace ParamSql.Waiting

def executeBy (engine : Engine) (executor : Executor) (query : Query) : Waiting (List ResultRow) :=
  match executor with
  | none => executeQuery engine query
  | some name => executeIn engine name query

def rawQueryBy (engine : Engine) (executor : Executor) (template : String) (named : Row) :
    Waiting (List ResultRow) :=
  match executor with
  | none => rawQuery engine template named
  | some name => rawQueryIn engine name template named

/-- A method of a repository over anything that executes queries. -/
def useTable (executeQuery : Query → Waiting (List ResultRow)) (table : Table)
    (properties : Properties) (method : Method) : Waiting Answer := coroutine do
  let query ← done (method.statement.query table properties).outcome
  let rows ← executeQuery query
  done (method.answer table (rows.map some))

def takeConnection (engine : Engine) (name : String) : Waiting Outcome := do
  let handle ← acquire engine
  update (·.setHeld name handle)
  return .connection handle

def giveBack (name : String) : Waiting Outcome := do
  match (← current).held.get? name with
  | some handle =>
    release handle
    return .nothing
  | none => return .skipped

def step (engine : Engine) : Step → Waiting Outcome
  | .query executor query => do return .answer (.found (← executeBy engine executor query))
  | .rawQuery executor template named => do
    return .answer (.found (← rawQueryBy engine executor template named))
  | .repository executor table properties method => do
    let table ← done (engine.resolve table)
    return .answer (← useTable (executeBy engine executor) table properties method)
  | .statement table properties statement => do
    let table ← done (engine.resolve table)
    return .query (← done (statement.query table properties).outcome)
  | .resolve table => do return .table (← done (engine.resolve table))
  | .catalog => return .keys (engine.catalog.map Fields.keys)
  | .begin name => do
    update (·.setTransaction name Transaction.fresh)
    return .nothing
  | .enter name => do
    enter engine name
    return .entered
  | .leave name reason => do
    leave name reason
    return .nothing
  | .commit name => do
    commitIn name
    return .nothing
  | .rollback name => do
    rollbackIn name
    return .nothing
  | .acquire name => takeConnection engine name
  | .release name => giveBack name
  | .close => do
    closePool
    return .nothing

/-- The reports of all steps; a failed step does not end the session. -/
def runAll (engine : Engine) : List Step → Session → List Report
  | [], _ => []
  | first :: others, session =>
    let (outcome, after) := (step engine first).run session
    Report.ofSessions outcome session after :: runAll engine others after

end ParamSql.Waiting
