import ParamSql.Engine
import ParamSql.Waiting.Basic

/-!
# The pool of waiting connections

The bound on open connections is checked before a connection is asked for, and the count grows when
the connection is there.
-/

namespace ParamSql.Waiting

def connect (engine : Engine) : Waiting Nat := coroutine do
  let connection := (← current).wire.attempts + 1
  match ← ask (.connect connection (engine.backend.connectArguments engine.config)) with
  | .ok _ =>
    if engine.backend.setsRowFactory then record (.rowFactory connection)
    return connection
  | .error failure => raise (engine.backend.connectError engine.config failure)

def openNew (engine : Engine) : Waiting Handle := do
  let connection ← connect engine
  update (·.addOpened 1)
  record (.debug (engine.openedLine (← current).pool.opened))
  return some connection

def acquire (engine : Engine) : Waiting Handle := coroutine do
  match (← current).pool.idle with
  | handle :: others =>
    update (·.setIdle others)
    return handle
  | [] =>
    if engine.config.poolSize ≤ (← current).pool.opened then
      raise (.poolExhausted engine.config.poolSize)
    else openNew engine

def release (handle : Handle) : Waiting Unit :=
  coroutine (update fun session => session.setIdle (handle :: session.pool.idle))

def disconnect (handle : Handle) : Waiting Unit := coroutine do
  let connection ← done (connectionOf "close" handle)
  let _ ← call (.close connection)

/-- Closes what the pool holds, looking again after each wait, for at most `rounds` connections. -/
def closeUpTo : Nat → Waiting Unit
  | 0 => pure ()
  | rounds + 1 => do
    match (← current).pool.idle with
    | [] => pure ()
    | handle :: others => do
      update (·.setIdle others)
      disconnect handle
      update (·.addOpened (-1))
      closeUpTo rounds

/-- Alone, a pool is empty after as many rounds as it holds connections. -/
def closePool : Waiting Unit := coroutine do closeUpTo (← current).pool.idle.length

end ParamSql.Waiting
