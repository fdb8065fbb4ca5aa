import ParamSql.Blocking.Basic
import ParamSql.Engine

/-!
# The pool of blocking connections

Connections that are not in use are handed out first. A new one is opened only while fewer are open
than the settings allow.
-/

namespace ParamSql.Blocking

def connect (engine : Engine) : Blocking Nat := do
  let connection := (← current).wire.attempts + 1
  match ← ask (.connect connection (engine.backend.connectArguments engine.config)) with
  | .ok _ =>
    if engine.backend.setsRowFactory then record (.rowFactory connection)
    return connection
  | .error failure => raise (engine.backend.connectError engine.config failure)

def openNew (engine : Engine) : Blocking Handle := do
  let connection ← connect engine
  update (·.addOpened 1)
  record (.debug (engine.openedLine (← current).pool.opened))
  return some connection

def acquire (engine : Engine) : Blocking Handle := do
  match (← current).pool.idle with
  | handle :: others =>
    update (·.setIdle others)
    return handle
  | [] =>
    if engine.config.poolSize ≤ (← current).pool.opened then
      raise (.poolExhausted engine.config.poolSize)
    else openNew engine

def release (handle : Handle) : Blocking Unit :=
  update fun session => session.setIdle (handle :: session.pool.idle)

def disconnect (handle : Handle) : Blocking Unit := do
  let connection ← done (connectionOf "close" handle)
  let _ ← call (.close connection)

/-- Closes connections one by one, each taken from the pool before; the first failure stops it. -/
def closeAll : List Handle → Blocking Unit
  | [] => pure ()
  | handle :: others => do
    update (·.setIdle others)
    disconnect handle
    update (·.addOpened (-1))
    closeAll others

def closePool : Blocking Unit := do closeAll (← current).pool.idle

end ParamSql.Blocking
