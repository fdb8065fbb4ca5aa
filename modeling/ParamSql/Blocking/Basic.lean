import ParamSql.Session

/-!
# Blocking computations

A computation that has its driver's answer as soon as it asks. If it fails, what it did to the
session stays done.
-/

namespace ParamSql

structure Blocking (α : Type) where
  run : Session → Except Error α × Session

namespace Blocking

variable {α β : Type}

protected def pure (value : α) : Blocking α := ⟨fun session => (.ok value, session)⟩

protected def bind (first : Blocking α) (next : α → Blocking β) : Blocking β :=
  ⟨fun session => match first.run session with
    | (.ok value, after) => (next value).run after
    | (.error error, after) => (.error error, after)⟩

instance : Monad Blocking where
  pure := Blocking.pure
  bind := Blocking.bind

def done (outcome : Except Error α) : Blocking α := ⟨fun session => (outcome, session)⟩

def raise (error : Error) : Blocking α := done (.error error)

/-- Runs a computation and keeps its error as a value. -/
def attempt (body : Blocking α) : Blocking (Except Error α) :=
  ⟨fun session => (.ok (body.run session).1, (body.run session).2)⟩

def current : Blocking Session := ⟨fun session => (.ok session, session)⟩

def update (f : Session → Session) : Blocking Unit := ⟨fun session => (.ok (), f session)⟩

def record (event : Event) : Blocking Unit := update (·.record event)

def ask (request : Request) : Blocking (Except Failure (Option Cursor)) :=
  ⟨fun session => (.ok (session.wire.answer request), session.ask request)⟩

/-- Asks the driver; its failure is the error of the computation. -/
def call (request : Request) : Blocking (Option Cursor) := do
  done ((← ask request).mapError .driver)

/-! ## One step at a time -/

theorem run_bind (first : Blocking α) (next : α → Blocking β) (session : Session) :
    (first >>= next).run session = match first.run session with
      | (.ok value, after) => (next value).run after
      | (.error error, after) => (.error error, after) := rfl

@[simp] theorem run_pure (value : α) (session : Session) :
    (pure value : Blocking α).run session = (.ok value, session) := rfl

@[simp] theorem run_done (outcome : Except Error α) (session : Session) :
    (done outcome).run session = (outcome, session) := rfl

@[simp] theorem run_raise (error : Error) (session : Session) :
    (raise error : Blocking α).run session = (.error error, session) := rfl

@[simp] theorem run_attempt (body : Blocking α) (session : Session) :
    (attempt body).run session = (.ok (body.run session).1, (body.run session).2) := rfl

@[simp] theorem run_current (session : Session) :
    current.run session = (.ok session, session) := rfl

@[simp] theorem run_update (f : Session → Session) (session : Session) :
    (update f).run session = (.ok (), f session) := rfl

@[simp] theorem run_record (event : Event) (session : Session) :
    (record event).run session = (.ok (), session.record event) := rfl

@[simp] theorem run_ask (request : Request) (session : Session) :
    (ask request).run session = (.ok (session.wire.answer request), session.ask request) := rfl

@[simp] theorem run_call (request : Request) (session : Session) :
    (call request).run session
      = ((session.wire.answer request).mapError .driver, session.ask request) := rfl

end Blocking

end ParamSql
