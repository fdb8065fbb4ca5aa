import ParamSql.Session

/-!
# Waiting computations

A computation that stops wherever it asks its driver, and goes on when the answer is there. Between
two stops nothing else can touch the session; what happens at a stop is for the surroundings to say.
A coroutine is a computation that others wait for as a whole. Some errors change as they leave it.
-/

namespace ParamSql

inductive Waiting (α : Type) : Type where
  | done (outcome : Except Error α)
  | look (next : Session → Waiting α)
  | change (f : Session → Session) (next : Waiting α)
  | await (request : Request) (next : Except Failure (Option Cursor) → Waiting α)

namespace Waiting

variable {α β : Type}

protected def pure (value : α) : Waiting α := done (.ok value)

protected def bind (first : Waiting α) (next : α → Waiting β) : Waiting β :=
  match first with
  | done (.ok value) => next value
  | done (.error error) => done (.error error)
  | look rest => look fun session => (rest session).bind next
  | change f rest => change f (rest.bind next)
  | await request rest => await request fun answer => (rest answer).bind next

instance : Monad Waiting where
  pure := Waiting.pure
  bind := Waiting.bind

def raise (error : Error) : Waiting α := done (.error error)

/-- Runs a computation and keeps its error as a value. -/
def attempt : Waiting α → Waiting (Except Error α)
  | done outcome => done (.ok outcome)
  | look rest => look fun session => (rest session).attempt
  | change f rest => change f rest.attempt
  | await request rest => await request fun answer => (rest answer).attempt

/-- Runs a computation as a coroutine of its own. -/
def coroutine : Waiting α → Waiting α
  | done outcome => done (outcome.mapError Error.outside)
  | look rest => look fun session => (rest session).coroutine
  | change f rest => change f rest.coroutine
  | await request rest => await request fun answer => (rest answer).coroutine

def current : Waiting Session := look fun session => done (.ok session)

def update (f : Session → Session) : Waiting Unit := change f (done (.ok ()))

def record (event : Event) : Waiting Unit := update (·.record event)

def ask (request : Request) : Waiting (Except Failure (Option Cursor)) :=
  await request fun answer => done (.ok answer)

/-- Waits for the driver; its failure is the error of the computation. -/
def call (request : Request) : Waiting (Option Cursor) := do
  done ((← ask request).mapError .driver)

/-- Runs a computation alone, with every wait answered before anything else happens. -/
def run : Waiting α → Session → Except Error α × Session
  | done outcome, session => (outcome, session)
  | look rest, session => (rest session).run session
  | change f rest, session => rest.run (f session)
  | await request rest, session =>
    (rest (session.wire.answer request)).run (session.ask request)

/-! ## One step at a time -/

theorem run_bind (first : Waiting α) (next : α → Waiting β) (session : Session) :
    (first >>= next).run session = match first.run session with
      | (.ok value, after) => (next value).run after
      | (.error error, after) => (.error error, after) := by
  show (first.bind next).run session = _
  induction first generalizing session with
  | done outcome => cases outcome <;> rfl
  | look rest ih => exact ih session session
  | change f rest ih => exact ih (f session)
  | await request rest ih => exact ih _ _

theorem run_attempt (body : Waiting α) (session : Session) :
    body.attempt.run session = ((.ok (body.run session).1), (body.run session).2) := by
  induction body generalizing session with
  | done outcome => rfl
  | look rest ih => exact ih session session
  | change f rest ih => exact ih (f session)
  | await request rest ih => exact ih _ _

theorem run_coroutine (body : Waiting α) (session : Session) :
    body.coroutine.run session =
      ((body.run session).1.mapError Error.outside, (body.run session).2) := by
  induction body generalizing session with
  | done outcome => rfl
  | look rest ih => exact ih session session
  | change f rest ih => exact ih (f session)
  | await request rest ih => exact ih _ _

@[simp] theorem run_pure (value : α) (session : Session) :
    (pure value : Waiting α).run session = (.ok value, session) := rfl

@[simp] theorem run_done (outcome : Except Error α) (session : Session) :
    (done outcome).run session = (outcome, session) := rfl

@[simp] theorem run_raise (error : Error) (session : Session) :
    (raise error : Waiting α).run session = (.error error, session) := rfl

@[simp] theorem run_current (session : Session) :
    current.run session = (.ok session, session) := rfl

@[simp] theorem run_update (f : Session → Session) (session : Session) :
    (update f).run session = (.ok (), f session) := rfl

@[simp] theorem run_record (event : Event) (session : Session) :
    (record event).run session = (.ok (), session.record event) := rfl

@[simp] theorem run_ask (request : Request) (session : Session) :
    (ask request).run session = (.ok (session.wire.answer request), session.ask request) := rfl

@[simp] theorem run_call (request : Request) (session : Session) :
    (call request).run session
      = ((session.wire.answer request).mapError .driver, session.ask request) := rfl

end Waiting

end ParamSql
