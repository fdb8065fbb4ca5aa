import ParamSql.Blocking.Execution

/-!
# Blocking transactions

A transaction holds a connection from entering to leaving. Leaving it commits or rolls back what is
still open and puts the connection back.
-/

namespace ParamSql.Blocking

def setState (name : String) (state : TransactionState) : Blocking Unit :=
  update fun session =>
    session.setTransaction name { session.transaction name with state := state }

def enter (engine : Engine) (name : String) : Blocking Unit := do
  let handle ← acquire engine
  update (·.setTransaction name ⟨.active, handle⟩)

/-- Ends what is open: a reason to leave rolls back, else the work is committed. -/
def finish (name : String) (reason : Option String) : Blocking Unit := do
  let transaction := (← current).transaction name
  if transaction.state = .active then
    match reason with
    | some reason =>
      record (.debug (rollingBackLine reason))
      rollback transaction.connection
      setState name .rolledBack
    | none =>
      commit transaction.connection
      setState name .committed

def leave (name : String) (reason : Option String) : Blocking Unit := do
  let outcome ← attempt (finish name reason)
  release ((← current).transaction name).connection
  done outcome

def executeIn (engine : Engine) (name : String) (query : Query) : Blocking (List ResultRow) := do
  let transaction := (← current).transaction name
  done (transaction.check .execute)
  executeOn engine transaction.connection query

def rawQueryIn (engine : Engine) (name : String) (template : String) (named : Row) :
    Blocking (List ResultRow) := do
  executeIn engine name (← done (Template.bind template named))

def commitIn (name : String) : Blocking Unit := do
  let transaction := (← current).transaction name
  done (transaction.check .commit)
  commit transaction.connection
  setState name .committed

def rollbackIn (name : String) : Blocking Unit := do
  let transaction := (← current).transaction name
  done (transaction.check .rollback)
  rollback transaction.connection
  setState name .rolledBack

end ParamSql.Blocking
