import ParamSql.Proofs.Accounts
import ParamSql.Waiting.Pool

/-!
# Taking turns

Tasks that share a pool run one at a time. A task goes on until it has made its call or waits for
the driver, and then any other one may go on. The driver answers in any order.
-/

namespace ParamSql

/-! ## Up to the next wait -/

/-- A computation that is over, or waits for the answer to a request. -/
inductive Paused (α : Type) where
  | finished (outcome : Except Error α)
  | waits (request : Request) (next : Except Failure (Option Cursor) → Waiting α)

/-- The session when a computation has stopped: its request is made, but not answered yet. -/
def Paused.asked {α : Type} (paused : Paused α) (session : Session) : Session :=
  match paused with
  | finished _ => session
  | waits request _ => session.ask request

def Request.opening? : Request → Option Nat
  | connect connection _ => some connection
  | _ => none

namespace Waiting

variable {α β : Type}

def advance : Waiting α → Session → Paused α × Session
  | done outcome, session => (.finished outcome, session)
  | look rest, session => (rest session).advance session
  | change f rest, session => rest.advance (f session)
  | await request rest, session => (.waits request rest, session)

/-- A computation that runs alone gets the answer to its request at once. -/
theorem run_eq_advance (body : Waiting α) (session : Session) :
    body.run session = match body.advance session with
      | (.finished outcome, after) => (outcome, after)
      | (.waits request next, after) =>
        (next (after.wire.answer request)).run (after.ask request) := by
  induction body generalizing session with
  | done outcome => rfl
  | look rest ih => exact ih session session
  | change f rest ih => exact ih (f session)
  | await request rest ih => rfl

theorem advance_bind (first : Waiting α) (next : α → Waiting β) (session : Session) :
    (first >>= next).advance session = match first.advance session with
      | (.finished (.ok value), after) => (next value).advance after
      | (.finished (.error error), after) => (.finished (.error error), after)
      | (.waits request rest, after) =>
        (.waits request fun answer => rest answer >>= next, after) := by
  show (first.bind next).advance session = _
  induction first generalizing session with
  | done outcome => cases outcome <;> rfl
  | look rest ih => exact ih session session
  | change f rest ih => exact ih (f session)
  | await request rest ih => rfl

theorem advance_coroutine (body : Waiting α) (session : Session) :
    body.coroutine.advance session = match body.advance session with
      | (.finished outcome, after) => (.finished (outcome.mapError Error.outside), after)
      | (.waits request rest, after) =>
        (.waits request fun answer => (rest answer).coroutine, after) := by
  induction body generalizing session with
  | done outcome => rfl
  | look rest ih => exact ih session session
  | change f rest ih => exact ih (f session)
  | await request rest ih => rfl

@[simp] theorem advance_pure (value : α) (session : Session) :
    (pure value : Waiting α).advance session = (.finished (.ok value), session) := rfl

@[simp] theorem advance_done (outcome : Except Error α) (session : Session) :
    (done outcome).advance session = (.finished outcome, session) := rfl

@[simp] theorem advance_raise (error : Error) (session : Session) :
    (raise error : Waiting α).advance session = (.finished (.error error), session) := rfl

@[simp] theorem advance_current (session : Session) :
    current.advance session = (.finished (.ok session), session) := rfl

@[simp] theorem advance_update (f : Session → Session) (session : Session) :
    (update f).advance session = (.finished (.ok ()), f session) := rfl

@[simp] theorem advance_record (event : Event) (session : Session) :
    (record event).advance session = (.finished (.ok ()), session.record event) := rfl

@[simp] theorem advance_ask (request : Request) (session : Session) :
    (ask request).advance session = (.waits request fun answer => done (.ok answer), session) := rfl

end Waiting

/-! ## Tasks -/

/-- A call on the pool. Closing goes on while connections are found in the pool, for so many rounds
at most: whoever closes the pool is given as many as it takes. -/
inductive TaskCall where
  | acquire
  | release (handle : Handle)
  | close (rounds : Nat)

/-- What a call does. Its value are the connections that the caller gets. -/
def TaskCall.body (engine : Engine) : TaskCall → Waiting (List Handle)
  | acquire => do return [← Waiting.acquire engine]
  | release handle => do
    Waiting.release handle
    return []
  | close rounds => do
    Waiting.coroutine (Waiting.closeUpTo rounds)
    return []

/-- The connections that a task has, and the request that it waits for, with what it does next. -/
structure Task where
  held : List Handle
  waits : Option (Request × (Except Failure (Option Cursor) → Waiting (List Handle)))

namespace Task

/-- A task calls nothing while it waits, and gives back only what it has. -/
def Allows (task : Task) : TaskCall → Prop
  | .release handle => task.waits.isNone = true ∧ handle ∈ task.held
  | _ => task.waits.isNone = true

instance (task : Task) (call : TaskCall) : Decidable (task.Allows call) :=
  match call with
  | .acquire => inferInstanceAs (Decidable (task.waits.isNone = true))
  | .release handle => inferInstanceAs (Decidable (task.waits.isNone = true ∧ handle ∈ task.held))
  | .close _ => inferInstanceAs (Decidable (task.waits.isNone = true))

/-- What a task still has when it makes a call. -/
def keeps (task : Task) : TaskCall → List Handle
  | .release handle => task.held.erase handle
  | _ => task.held

def after (held : List Handle) : Paused (List Handle) → Task
  | .finished outcome => ⟨outcome.toOption.getD [] ++ held, none⟩
  | .waits request next => ⟨held, some (request, next)⟩

/-- The connection that a task is opening. -/
def opening? (task : Task) : Option Nat := task.waits.bind fun stop => stop.1.opening?

/-- The connection that a task is closing. -/
def closing? (task : Task) : Option Nat := task.waits.bind fun stop => stop.1.closing?

/-- The connections that a task has, or has taken from the pool to close them. -/
def claims (task : Task) : List Handle := task.closing?.toList.map some ++ task.held

end Task

/-- The connections that are being opened. -/
def underWay (tasks : List Task) : List Nat := tasks.filterMap Task.opening?

/-- Tasks on one pool. -/
structure Crowd where
  session : Session
  tasks : List Task
  /-- The connections that were opened and not closed. -/
  live : List Nat
  /-- The greatest number of connections that were being opened at once. -/
  peak : Nat

def liveAfter (live : List Nat) : Request → Except Failure (Option Cursor) → List Nat
  | .connect connection _, .ok _ => connection :: live
  | .close connection, .ok _ => live.erase connection
  | _, _ => live

/-- A task makes a call, or the driver answers to a task that waits. -/
inductive Move where
  | call (index : Nat) (call : TaskCall)
  | answer (index : Nat) (answer : Except Failure (Option Cursor))

namespace Crowd

def start (script : Script) (tasks : Nat) : Crowd :=
  ⟨Session.start script, List.replicate tasks ⟨[], none⟩, [], 0⟩

/-- One task goes on until it is done or has to wait, and no other one meanwhile. -/
def proceed (crowd : Crowd) (index : Nat) (held : List Handle) (body : Waiting (List Handle)) :
    Crowd :=
  let (paused, session) := body.advance crowd.session
  let tasks := crowd.tasks.set index (Task.after held paused)
  ⟨paused.asked session, tasks, crowd.live, max crowd.peak (underWay tasks).length⟩

/-- A move that is not possible changes nothing. -/
def next (engine : Engine) (crowd : Crowd) : Move → Crowd
  | .call index call =>
    match crowd.tasks[index]? with
    | some task =>
      if task.Allows call then crowd.proceed index (task.keeps call) (call.body engine) else crowd
    | none => crowd
  | .answer index answer =>
    match crowd.tasks[index]? with
    | some ⟨held, some (request, next)⟩ =>
      { crowd with live := liveAfter crowd.live request answer }.proceed index held (next answer)
    | _ => crowd

def run (engine : Engine) (crowd : Crowd) (moves : List Move) : Crowd :=
  moves.foldl (next engine) crowd

end Crowd

/-! ## What the calls do -/

/-- What a task does after it has asked for a connection. -/
structure Opens (connection : Nat) (next : Except Failure (Option Cursor) → Waiting (List Handle)) :
    Prop where
  ok (cursor? : Option Cursor) (session : Session) : ∃ after,
    (next (.ok cursor?)).advance session = (.finished (.ok [some connection]), after) ∧
      after.pool = (session.addOpened 1).pool ∧ after.wire.attempts = session.wire.attempts
  error (failure : Failure) (session : Session) : ∃ error,
    (next (.error failure)).advance session = (.finished (.error error), session)

/-- What a task does after it has asked to close a connection. -/
structure Closes (engine : Engine) (rounds : Nat)
    (next : Except Failure (Option Cursor) → Waiting (List Handle)) : Prop where
  ok (cursor? : Option Cursor) (session : Session) : (next (.ok cursor?)).advance session =
    ((TaskCall.close rounds).body engine).advance (session.addOpened (-1))
  error (failure : Failure) (session : Session) : ∃ error,
    (next (.error failure)).advance session = (.finished (.error error), session)

section Calls

variable {engine : Engine} {session : Session}

theorem advance_acquire_of_idle {handle : Handle} {others : List Handle}
    (h : session.pool.idle = handle :: others) :
    (TaskCall.acquire.body engine).advance session =
      (.finished (.ok [handle]), session.setIdle others) := by
  simp [TaskCall.body, Waiting.acquire, Waiting.advance_bind, Waiting.advance_coroutine, h,
    Except.mapError]

theorem advance_acquire_of_full (hidle : session.pool.idle = [])
    (hfull : (engine.config.poolSize : Int) ≤ session.pool.opened) :
    (TaskCall.acquire.body engine).advance session =
      (.finished (.error (.poolExhausted engine.config.poolSize)), session) := by
  simp [TaskCall.body, Waiting.acquire, Waiting.advance_bind, Waiting.advance_coroutine, hidle,
    hfull, Except.mapError, Error.outside]

theorem advance_acquire_of_room (hidle : session.pool.idle = [])
    (hroom : ¬ (engine.config.poolSize : Int) ≤ session.pool.opened) :
    ∃ next, (TaskCall.acquire.body engine).advance session =
      (.waits (engine.opening session) next, session) ∧ Opens (session.wire.attempts + 1) next := by
  simp only [TaskCall.body, Waiting.acquire, Waiting.openNew, Waiting.connect,
    Waiting.advance_bind, Waiting.advance_coroutine, Waiting.advance_current, hidle, if_neg hroom,
    Waiting.advance_ask]
  refine ⟨_, rfl, fun cursor? session => ?_, fun failure session => ⟨_, rfl⟩⟩
  cases engine.backend.setsRowFactory
  all_goals
    simp only [Waiting.advance_bind, Waiting.advance_coroutine, if_true, Bool.false_eq_true,
      if_false, Waiting.advance_pure, Waiting.advance_record, Waiting.advance_update,
      Waiting.advance_current]
    exact ⟨_, rfl, rfl, rfl⟩

theorem advance_release (handle : Handle) :
    ((TaskCall.release handle).body engine).advance session =
      (.finished (.ok []), session.setIdle (handle :: session.pool.idle)) := rfl

theorem advance_close_of_empty {rounds : Nat} (h : session.pool.idle = []) :
    ((TaskCall.close rounds).body engine).advance session = (.finished (.ok []), session) := by
  cases rounds with
  | zero => rfl
  | succ rounds =>
    simp [TaskCall.body, Waiting.closeUpTo, Waiting.advance_bind, Waiting.advance_coroutine, h,
      Except.mapError]

theorem advance_close_of_idle {rounds : Nat} {connection : Nat} {others : List Handle}
    (h : session.pool.idle = some connection :: others) :
    ∃ next, ((TaskCall.close (rounds + 1)).body engine).advance session =
      (.waits (.close connection) next, session.setIdle others) ∧ Closes engine rounds next := by
  simp only [TaskCall.body, Waiting.closeUpTo, Waiting.disconnect, Waiting.call, connectionOf,
    Waiting.advance_bind, Waiting.advance_coroutine, Waiting.advance_current,
    Waiting.advance_update, Waiting.advance_done, Waiting.advance_ask, h]
  refine ⟨_, rfl, fun cursor? session => ?_, fun failure session => ⟨_, rfl⟩⟩
  simp [TaskCall.body, Waiting.advance_bind, Waiting.advance_coroutine, Except.mapError]

end Calls

end ParamSql
