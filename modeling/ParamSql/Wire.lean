import ParamSql.Cursor
import ParamSql.Style

/-!
# The wire to a database driver

What a driver can be asked, a driver that answers from a script, and the trace of all that happened.
-/

namespace ParamSql

/-! ## Requests and events -/

/-- Connections are numbered by the attempts to open one. -/
inductive Request where
  | connect (connection : Nat) (arguments : Row)
  | execute (connection : Nat) (statement : Prepared)
  | fetch (connection : Nat) (cursor : Cursor)
  | commit (connection : Nat)
  | rollback (connection : Nat)
  | close (connection : Nat)

inductive Event where
  | asked (request : Request)
  /-- Rows by name were switched on. -/
  | rowFactory (connection : Nat)
  /-- A line of the debug log. -/
  | debug (line : String)

/-! ## A scripted driver -/

inductive Execution where
  | nothing
  | results (cursor : Cursor)
  | failure (failure : Failure)

/-- What the driver will answer, call by call; beyond the end of a queue every call succeeds. -/
structure Script where
  connects : List (Option Failure)
  executions : List Execution
  commits : List (Option Failure)
  rollbacks : List (Option Failure)
  closes : List (Option Failure)

/-- The script once a request has used its entry. -/
def Script.advance (script : Script) : Request → Script
  | .connect _ _ => { script with connects := script.connects.tail }
  | .execute _ _ => { script with executions := script.executions.tail }
  | .fetch _ _ => script
  | .commit _ => { script with commits := script.commits.tail }
  | .rollback _ => { script with rollbacks := script.rollbacks.tail }
  | .close _ => { script with closes := script.closes.tail }

def Request.isConnect : Request → Bool
  | connect _ _ => true
  | _ => false

def plainAnswer : Option Failure → Except Failure (Option Cursor)
  | none => .ok none
  | some failure => .error failure

def executionAnswer : Option Execution → Except Failure (Option Cursor)
  | none => .ok none
  | some .nothing => .ok none
  | some (.results cursor) => .ok (some cursor)
  | some (.failure failure) => .error failure

structure Wire where
  script : Script
  attempts : Nat
  trace : List Event

namespace Wire

def start (script : Script) : Wire := ⟨script, 0, []⟩

def record (wire : Wire) (event : Event) : Wire := { wire with trace := wire.trace ++ [event] }

/-- The cursor of a statement with results, or nothing. -/
def answer (wire : Wire) : Request → Except Failure (Option Cursor)
  | .connect _ _ => plainAnswer wire.script.connects.head?.join
  | .execute _ _ => executionAnswer wire.script.executions.head?
  | .fetch _ cursor => plainAnswer cursor.failure
  | .commit _ => plainAnswer wire.script.commits.head?.join
  | .rollback _ => plainAnswer wire.script.rollbacks.head?.join
  | .close _ => plainAnswer wire.script.closes.head?.join

/-- The wire once a request has been made. -/
def asked (wire : Wire) (request : Request) : Wire where
  script := wire.script.advance request
  attempts := if request.isConnect then wire.attempts + 1 else wire.attempts
  trace := wire.trace ++ [.asked request]

end Wire

end ParamSql
