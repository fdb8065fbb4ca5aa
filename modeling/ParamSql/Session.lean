import ParamSql.Transaction
import ParamSql.Wire

/-!
# Sessions

All that changes while an engine is used: the wire, the pool of connections, the transactions, and
the connections that the caller has taken from the pool.
-/

namespace ParamSql

structure Pool where
  /-- The connections that are not in use, the last one released first. -/
  idle : List Handle
  opened : Int

structure Session where
  wire : Wire
  pool : Pool
  transactions : Fields String Transaction
  held : Fields String Handle

namespace Session

def start (script : Script) : Session :=
  ⟨Wire.start script, ⟨[], 0⟩, Fields.empty, Fields.empty⟩

def record (session : Session) (event : Event) : Session :=
  { session with wire := session.wire.record event }

def ask (session : Session) (request : Request) : Session :=
  { session with wire := session.wire.asked request }

def setIdle (session : Session) (idle : List Handle) : Session :=
  { session with pool := { session.pool with idle := idle } }

def addOpened (session : Session) (change : Int) : Session :=
  { session with pool := { session.pool with opened := session.pool.opened + change } }

/-- A transaction that nobody has used yet is fresh. -/
def transaction (session : Session) (name : String) : Transaction :=
  (session.transactions.get? name).getD Transaction.fresh

def setTransaction (session : Session) (name : String) (transaction : Transaction) : Session :=
  { session with transactions := session.transactions.insert name transaction }

def setHeld (session : Session) (name : String) (handle : Handle) : Session :=
  { session with held := session.held.insert name handle }

end Session

end ParamSql
