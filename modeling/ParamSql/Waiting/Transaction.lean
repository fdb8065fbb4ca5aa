import ParamSql.Waiting.Execution

/-!
# Waiting transactions

A transaction holds a connection from entering to leaving, and waits wherever it uses it. Its state
changes only when the driver has answered.
-/

namespace ParamSql.Waiting

def setState (name : String) (state : TransactionState) : Waiting Unit :=
  update fun session =>
    session.setTransaction name { session.transaction name with state := state }

def enter (engine : Engine) (name : String) : Waiting Unit := coroutine do
  let handle ← acquire engine
  update (·.setTransaction name ⟨.active, handle⟩)

/-- Ends what is open: a reason to leave rolls back, else the work is committed. -/
def finish (name : String) (reason : Option String) : Waiting Unit := do
  let transaction := (← current).transaction name
  if transaction.state = .active then
    match reason with
    | some reason =>
      record (.debug (rollingBackLine reason))
      rollback transaction.connection
      setState name .rolledBack
    | none =>
      commit transaction.connection
      setState name .committed

def leave (name : String) (reason : Option String) : Waiting Unit := coroutine do
  let outcome ← attempt (finish name reason)
  release ((← current).transaction name).connection
  done outcome

def executeIn (engine : Engine) (name : String) (query : Query) : Waiting (List ResultRow) :=
  coroutine do
    let transaction := (← current).transaction name
    done (transaction.check .execute)
    executeOn engine transaction.connection query

def rawQueryIn (engine : Engine) (name : String) (template : String) (named : Row) :
    Waiting (List ResultRow) :=
  coroutine do executeIn engine name (← done (Template.bind template named))

def commitIn (name : String) : Waiting Unit := coroutine do
  let transaction := (← current).transaction name
  done (transaction.check .commit)
  commit transaction.connection
  setState name .committed

def rollbackIn (name : String) : Waiting Unit := coroutine do
  let transaction := (← current).transaction name
  done (transaction.check .rollback)
  rollback transaction.connection
  setState name .rolledBack

end ParamSql.Waiting
