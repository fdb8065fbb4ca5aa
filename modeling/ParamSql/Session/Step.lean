import ParamSql.Engine
import ParamSql.Repository
import ParamSql.Session

/-!
# The steps of a session

A session runs as a list of steps on one engine. Of every step its outcome is seen, the events that
it caused, and the pool and the transactions as it left them.
-/

namespace ParamSql

/-- Queries run on the engine, or in the transaction that is named. -/
abbrev Executor := Option String

inductive Step where
  | query (executor : Executor) (query : Query)
  | rawQuery (executor : Executor) (template : String) (named : Row)
  | repository (executor : Executor) (table : TableRef) (properties : Properties)
      (method : Method)
  | statement (table : TableRef) (properties : Properties) (statement : Statement)
  | resolve (table : TableRef)
  | catalog
  | begin (name : String)
  | enter (name : String)
  | leave (name : String) (reason : Option String)
  | commit (name : String)
  | rollback (name : String)
  | acquire (name : String)
  | release (name : String)
  | close

inductive Outcome where
  | nothing
  | answer (answer : Answer)
  | query (query : Query)
  | table (table : Table)
  | keys (keys : Option (List String))
  | entered
  | connection (handle : Handle)
  | skipped

structure Report where
  outcome : Except Error Outcome
  trace : List Event
  opened : Int
  /-- The connections in the pool, the first released first. -/
  idle : List Handle
  transactions : List (String × Transaction)

def Report.ofSessions (outcome : Except Error Outcome) (before after : Session) : Report where
  outcome := outcome
  trace := after.wire.trace.drop before.wire.trace.length
  opened := after.pool.opened
  idle := after.pool.idle.reverse
  transactions := after.transactions.entries

structure Setup where
  config : Row
  catalog : Option Row
  keyRule : Option KeyRule

/-- The catalog is read first, then the settings; the driver's name is looked at last. -/
def Setup.engine (setup : Setup) : Except Error Engine := do
  let catalog ← setup.catalog.mapM Catalog.ofValues
  let config ← Config.ofSettings setup.config
  Engine.ofConfig config catalog setup.keyRule

end ParamSql
