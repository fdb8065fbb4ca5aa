import ParamSql.Blocking.Session
import ParamSql.Proofs.Ledger

/-!
# The calls of a transaction

What each call does to the session, told exactly: which calls are refused, what is asked of the
driver, and the state that is left.
-/

namespace ParamSql

open Blocking

/-! ## Sessions and their transactions -/

namespace Session

theorem transaction_congr {session other : Session} (h : session.transactions = other.transactions)
    (name : String) : session.transaction name = other.transaction name := by
  rw [Session.transaction, h, Session.transaction]

theorem transaction_setTransaction_self (session : Session) (name : String)
    (transaction : Transaction) :
    (session.setTransaction name transaction).transaction name = transaction := by
  rw [Session.transaction, setTransaction, Fields.get?_insert_self]
  rfl

theorem transaction_setTransaction_of_ne (session : Session) {name other : String}
    (transaction : Transaction) (h : other ≠ name) :
    (session.setTransaction name transaction).transaction other = session.transaction other := by
  rw [Session.transaction, setTransaction, Fields.get?_insert_of_ne _ _ h]
  rfl

end Session

/-! ## Steps that run a query -/

/-- What runs a step's query, and the query, if it is a step that runs one. -/
def Step.queryOf (engine : Engine) : Step → Option (Executor × Except Error Query)
  | .query executor compiled => some (executor, .ok compiled)
  | .rawQuery executor template named => some (executor, Template.bind template named)
  | .repository executor table properties method => some (executor, do
      (method.statement.query (← engine.resolve table) properties).outcome)
  | _ => none

theorem run_bind_done {α β : Type} (body : Blocking α) (finish : α → Except Error β)
    (session : Session) :
    (body >>= fun value => done (finish value)).run session =
      ((body.run session).1 >>= finish, (body.run session).2) := by
  rw [run_bind]
  rcases body.run session with ⟨_ | _, after⟩
  · rfl
  · rfl

theorem run_rawQueryBy (engine : Engine) (executor : Executor) (template : String) (named : Row)
    (session : Session) :
    (rawQueryBy engine executor template named).run session =
      (done (Template.bind template named) >>= executeBy engine executor).run session := by
  cases executor
  · rfl
  · rfl

section Table

variable {table : Table} {properties : Properties} {method : Method}
  (execute : Query → Blocking (List ResultRow))

theorem run_useTable_of_error {error : Error}
    (h : (method.statement.query table properties).outcome = .error error) (session : Session) :
    (useTable execute table properties method).run session = (.error error, session) := by
  unfold useTable
  rw [h]
  rfl

theorem run_useTable_of_ok {query : Query}
    (h : (method.statement.query table properties).outcome = .ok query) (session : Session) :
    (useTable execute table properties method).run session =
      (((execute query).run session).1 >>= fun rows => method.answer table (rows.map some),
        ((execute query).run session).2) := by
  unfold useTable
  rw [h]
  exact run_bind_done (execute query) _ session

end Table

theorem run_step_of_query {engine : Engine} {step : Step} {executor : Executor}
    {compiled : Except Error Query} (h : step.queryOf engine = some (executor, compiled)) :
    ∃ finish : List ResultRow → Except Error Outcome, ∀ session,
      (Blocking.step engine step).run session =
        (done compiled >>= fun query =>
          executeBy engine executor query >>= fun rows => done (finish rows)).run session := by
  cases step
  case query executor query =>
    cases h
    exact ⟨fun rows => .ok (.answer (.found rows)), fun session => rfl⟩
  case rawQuery executor template named =>
    cases h
    refine ⟨fun rows => .ok (.answer (.found rows)), fun session => ?_⟩
    show (rawQueryBy engine executor template named >>= _).run session = _
    rw [run_bind, run_rawQueryBy]
    cases Template.bind template named with
    | error error => rfl
    | ok query => rfl
  case repository executor table properties method =>
    cases h
    have hstep : ∀ session, (Blocking.step engine (.repository executor table properties method)).run
        session = (done (engine.resolve table) >>= fun table =>
          useTable (executeBy engine executor) table properties method >>= fun answer =>
            done (.ok (.answer answer))).run session := fun _ => rfl
    cases hresolve : engine.resolve table with
    | error error =>
      refine ⟨fun _ => .error error, fun session => ?_⟩
      rw [hstep, hresolve]
      rfl
    | ok table =>
      refine ⟨fun rows => (method.answer table (rows.map some)).map .answer, fun session => ?_⟩
      rw [hstep, hresolve]
      show (useTable (executeBy engine executor) table properties method >>= _).run session =
        (done (method.statement.query table properties).outcome >>= _).run session
      rw [run_bind_done]
      cases hquery : (method.statement.query table properties).outcome with
      | error error =>
        rw [run_useTable_of_error _ hquery]
        rfl
      | ok query =>
        rw [run_useTable_of_ok _ hquery]
        refine Eq.trans ?_ (run_bind_done _ _ session).symm
        rcases (executeBy engine executor query).run session with ⟨_ | rows, after⟩
        · rfl
        · rfl
  all_goals cases h

theorem run_step_of_error {engine : Engine} {step : Step} {executor : Executor} {error : Error}
    (h : step.queryOf engine = some (executor, .error error)) (session : Session) :
    (Blocking.step engine step).run session = (.error error, session) := by
  obtain ⟨finish, hrun⟩ := run_step_of_query h
  exact hrun session

theorem run_step_of_ok {engine : Engine} {step : Step} {executor : Executor} {query : Query}
    (h : step.queryOf engine = some (executor, .ok query)) :
    ∃ finish : List ResultRow → Except Error Outcome, ∀ session,
      (Blocking.step engine step).run session =
        (((executeBy engine executor query).run session).1 >>= finish,
          ((executeBy engine executor query).run session).2) := by
  obtain ⟨finish, hrun⟩ := run_step_of_query h
  exact ⟨finish, fun session => (hrun session).trans (run_bind_done _ finish session)⟩

theorem run_executeQuery (engine : Engine) (query : Query) (session : Session) :
    (executeQuery engine query).run session = match (acquire engine).run session with
      | (.ok handle, borrowed) =>
        (((executeOrUndo engine handle query).run borrowed).1,
          ((executeOrUndo engine handle query).run borrowed).2.setIdle
            (handle :: ((executeOrUndo engine handle query).run borrowed).2.pool.idle))
      | (.error error, after) => (.error error, after) := by
  unfold executeQuery
  rw [run_bind]
  rcases (acquire engine).run session with ⟨_ | handle, borrowed⟩
  · rfl
  · rfl

theorem run_enter (engine : Engine) (name : String) (session : Session) :
    (enter engine name).run session = match (acquire engine).run session with
      | (.ok handle, after) => (.ok (), after.setTransaction name ⟨.active, handle⟩)
      | (.error error, after) => (.error error, after) := by
  unfold enter
  rw [run_bind]
  rcases (acquire engine).run session with ⟨_ | handle, after⟩
  · rfl
  · rfl

/-! ## The two ways to end a transaction -/

inductive Ending where
  | commit
  | rollback
deriving DecidableEq

namespace Ending

def action : Ending → TransactionAction
  | commit => .commit
  | rollback => .rollback

def request : Ending → Nat → Request
  | commit => .commit
  | rollback => .rollback

def state : Ending → TransactionState
  | commit => .committed
  | rollback => .rolledBack

def perform : Ending → Handle → Blocking Unit
  | commit => Blocking.commit
  | rollback => Blocking.rollback

def call : Ending → String → Blocking Unit
  | commit => commitIn
  | rollback => rollbackIn

def step : Ending → String → Step
  | commit => .commit
  | rollback => .rollback

/-- How leaving ends a transaction that is still open. -/
def onLeaving (reason : Option String) : Ending := if reason.isSome then rollback else commit

theorem perform_eq (ending : Ending) (handle : Handle) :
    ending.perform handle = (do
      let connection ← done (connectionOf ending.action.name handle)
      let _ ← Blocking.call (ending.request connection)) := by
  cases ending
  · rfl
  · rfl

theorem serves_request (ending : Ending) (connection : Nat) :
    (ending.request connection).Serves (some connection) := by
  cases ending
  · exact .inr rfl
  · exact .inr rfl

end Ending

/-- What comes of ending a transaction, by the connection that it has and what the driver says. -/
inductive Ends (session : Session) (name : String) (ending : Ending) :
    Except Error Unit × Session → Prop
  | noConnection (h : (session.transaction name).connection = none) :
    Ends session name ending (.error (.noConnection ending.action.name), session)
  | fails {connection : Nat} {failure : Failure}
      (h : (session.transaction name).connection = some connection)
      (hanswer : session.wire.answer (ending.request connection) = .error failure) :
    Ends session name ending (.error (.driver failure), session.ask (ending.request connection))
  | succeeds {connection : Nat} {cursor? : Option Cursor}
      (h : (session.transaction name).connection = some connection)
      (hanswer : session.wire.answer (ending.request connection) = .ok cursor?) :
    Ends session name ending (.ok (), (session.ask (ending.request connection)).setTransaction name
      { session.transaction name with state := ending.state })

variable {session : Session} {name : String}

theorem check_of_allows {transaction : Transaction} {action : TransactionAction}
    (h : transaction.allows action = true) : transaction.check action = .ok () :=
  if_pos h

theorem check_of_not_allows {transaction : Transaction} {action : TransactionAction}
    (h : transaction.allows action = false) :
    transaction.check action = .error (.wrongState transaction.state.name action.name) :=
  if_neg (by simp [h])

theorem ends_perform (session : Session) (name : String) (ending : Ending) :
    Ends session name ending ((ending.perform (session.transaction name).connection >>= fun _ =>
      setState name ending.state).run session) := by
  rw [ending.perform_eq]
  cases hconnection : (session.transaction name).connection with
  | none => exact .noConnection hconnection
  | some connection =>
    cases hanswer : session.wire.answer (ending.request connection) with
    | error failure =>
      simp only [run_bind, connectionOf, run_done, run_call, hanswer]
      exact .fails hconnection hanswer
    | ok cursor? =>
      simp only [run_bind, connectionOf, run_done, run_call, hanswer]
      exact .succeeds hconnection hanswer

theorem run_call_of_not_allows {ending : Ending}
    (h : (session.transaction name).allows ending.action = false) :
    (ending.call name).run session =
      (.error (.wrongState (session.transaction name).state.name ending.action.name), session) := by
  have hcheck := check_of_not_allows h
  cases ending
  all_goals
    simp only [Ending.call, commitIn, rollbackIn, run_bind, run_current]
    simp only [Ending.action] at hcheck
    simp only [hcheck, run_done]
    rfl

theorem ends_call {ending : Ending} (h : (session.transaction name).allows ending.action = true) :
    Ends session name ending ((ending.call name).run session) := by
  have hends := ends_perform session name ending
  have hcheck := check_of_allows h
  cases ending
  all_goals
    simp only [Ending.call, commitIn, rollbackIn, run_bind, run_current]
    simp only [Ending.action] at hcheck
    simp only [hcheck, run_done]
    exact hends

/-! ## Leaving -/

/-- What is logged before a transaction that is left is ended. -/
def leavingEvents (reason : Option String) : List Event :=
  reason.toList.map fun reason => .debug (rollingBackLine reason)

theorem run_finish_of_not_active (h : (session.transaction name).state ≠ .active)
    (reason : Option String) : (finish name reason).run session = (.ok (), session) := by
  simp only [finish, run_bind, run_current, if_neg h]
  rfl

theorem ends_finish (h : (session.transaction name).state = .active) (reason : Option String) :
    Ends (session.told (leavingEvents reason)) name (.onLeaving reason)
      ((finish name reason).run session) := by
  have hends := ends_perform (session.told (leavingEvents reason)) name (.onLeaving reason)
  cases reason
  all_goals
    simp only [finish, run_bind, run_current, if_pos h]
    exact hends

/-! ## Queries -/

theorem run_executeIn_of_not_active (engine : Engine)
    (h : (session.transaction name).state ≠ .active) (query : Query) :
    (executeIn engine name query).run session =
      (.error (.wrongState (session.transaction name).state.name "execute"), session) := by
  have hallows : (session.transaction name).allows .execute = false := by
    simpa [Transaction.allows] using h
  simp only [executeIn, run_bind, run_current, check_of_not_allows hallows, run_done]
  rfl

theorem run_executeIn_of_active (engine : Engine) (h : (session.transaction name).state = .active)
    (query : Query) :
    (executeIn engine name query).run session =
      (executeOn engine (session.transaction name).connection query).run session := by
  have hallows : (session.transaction name).allows .execute = true := by
    simp [Transaction.allows, h]
  simp only [executeIn, run_bind, run_current, check_of_allows hallows, run_done]

/-! ## Calls as steps -/

theorem run_then_return (body : Blocking Unit) (outcome : Outcome) (session : Session) :
    (body >>= fun _ => pure outcome).run session =
      ((body.run session).1.map fun _ => outcome, (body.run session).2) := by
  rw [run_bind]
  rcases body.run session with ⟨_ | _, after⟩
  · rfl
  · rfl

section Steps

variable (engine : Engine) (name : String) (session : Session)

theorem run_step_enter : (Blocking.step engine (.enter name)).run session =
    (((enter engine name).run session).1.map fun _ => .entered,
      ((enter engine name).run session).2) :=
  run_then_return _ _ session

theorem run_step_leave (reason : Option String) :
    (Blocking.step engine (.leave name reason)).run session =
      (((leave name reason).run session).1.map fun _ => .nothing,
        ((leave name reason).run session).2) :=
  run_then_return _ _ session

theorem run_step_end (ending : Ending) : (Blocking.step engine (ending.step name)).run session =
    (((ending.call name).run session).1.map fun _ => .nothing,
      ((ending.call name).run session).2) := by
  cases ending
  · exact run_then_return _ _ session
  · exact run_then_return _ _ session

end Steps

/-! ## What is asked -/

section Ends

variable {ending : Ending} {result : Except Error Unit × Session}

theorem Ends.wire (h : Ends session name ending result) :
    result.2.wire = session.wire.after ((session.transaction name).connection.toList.map fun
      connection => .asked (ending.request connection)) := by
  cases h with
  | noConnection h =>
    rw [h]
    rfl
  | fails h hanswer =>
    rw [h]
    rfl
  | succeeds h hanswer =>
    rw [h]
    rfl

theorem Ends.talk (h : Ends session name ending result) :
    session.talk result.2 = (session.transaction name).connection.toList.map fun connection =>
      ⟨ending.request connection, session.wire.answer (ending.request connection)⟩ := by
  rw [Session.talk_of_wire h.wire]
  cases (session.transaction name).connection with
  | none => rfl
  | some connection => rfl

end Ends

theorem talk_leavingEvents {after : Session} {reason : Option String} {events : List Event}
    (h : after.wire = (session.told (leavingEvents reason)).wire.after events) :
    session.talk after = (session.told (leavingEvents reason)).talk after := by
  have hwire : after.wire = session.wire.after (leavingEvents reason ++ events) := by
    rw [Wire.after_append]
    exact h
  rw [Session.talk_of_wire h, Session.talk_of_wire hwire, Wire.answered_append]
  cases reason
  · rfl
  · rfl

theorem answer_leavingEvents (reason : Option String) (request : Request) :
    (session.told (leavingEvents reason)).wire.answer request = session.wire.answer request := by
  cases reason
  · rfl
  · rfl

theorem talk_finish (h : (session.transaction name).state = .active) (reason : Option String) :
    session.talk ((finish name reason).run session).2 =
      (session.transaction name).connection.toList.map fun connection =>
        ⟨(Ending.onLeaving reason).request connection,
          session.wire.answer ((Ending.onLeaving reason).request connection)⟩ := by
  have hends := ends_finish h reason
  rw [talk_leavingEvents hends.wire, hends.talk]
  simp only [answer_leavingEvents]
  rfl

/-! ## Moves -/

/-- What a call may do to a transaction: what it asks, and the transaction after it. -/
inductive Transaction.Moves (transaction : Transaction) : List Answered → Transaction → Prop
  | rests : Moves transaction [] transaction
  | works {asked : List Answered} (hactive : transaction.state = .active)
      (h : ∀ answered ∈ asked, answered.request.Uses transaction.connection) :
    Moves transaction asked transaction
  | ends (ending : Ending) {connection : Nat} {cursor? : Option Cursor}
      (hallows : transaction.allows ending.action = true)
      (h : transaction.connection = some connection) :
    Moves transaction [⟨ending.request connection, .ok cursor?⟩]
      { transaction with state := ending.state }
  | fails (ending : Ending) {connection : Nat} {failure : Failure}
      (hallows : transaction.allows ending.action = true)
      (h : transaction.connection = some connection) :
    Moves transaction [⟨ending.request connection, .error failure⟩] transaction

namespace Transaction.Moves

variable {transaction after : Transaction} {asked : List Answered}

theorem connection (h : Moves transaction asked after) :
    after.connection = transaction.connection := by
  cases h
  all_goals rfl

theorem serves (h : Moves transaction asked after) :
    ∀ answered ∈ asked, answered.request.Serves transaction.connection := by
  cases h with
  | rests => exact fun _ hmem => nomatch hmem
  | works hactive huses => exact fun answered hmem => .inl (huses answered hmem)
  | ends ending hallows hconnection =>
    intro answered hmem
    obtain rfl := List.mem_singleton.1 hmem
    rw [hconnection]
    exact ending.serves_request _
  | fails ending hallows hconnection =>
    intro answered hmem
    obtain rfl := List.mem_singleton.1 hmem
    rw [hconnection]
    exact ending.serves_request _

end Transaction.Moves

/-- Between two sessions one transaction was used. The pool and the other transactions were left
alone. -/
structure Session.Used (name : String) (before after : Session) : Prop where
  moves : (before.transaction name).Moves (before.talk after) (after.transaction name)
  wire : ∃ events, after.wire = before.wire.after events
  pool : after.pool = before.pool
  others : ∀ other, other ≠ name → after.transaction other = before.transaction other

theorem used_self (session : Session) (name : String) : session.Used name session where
  moves := by
    rw [Session.talk_self]
    exact .rests
  wire := ⟨[], rfl⟩
  pool := rfl
  others := fun _ _ => rfl

theorem used_executeIn (engine : Engine) (name : String) (query : Query) (session : Session) :
    session.Used name ((executeIn engine name query).run session).2 := by
  by_cases hactive : (session.transaction name).state = .active
  · rw [run_executeIn_of_active engine hactive]
    obtain ⟨events, hafter, hasked⟩ :=
      speaks_executeOn (session.transaction name).connection engine query session
    rw [hafter]
    refine ⟨?_, ⟨events, rfl⟩, rfl, fun _ _ => rfl⟩
    rw [Session.talk_told]
    exact .works hactive fun answered h => hasked _ (Wire.mem_events_of_mem_answered h)
  · rw [run_executeIn_of_not_active engine hactive]
    exact used_self session name

theorem Ends.used {ending : Ending} {result : Except Error Unit × Session}
    (h : Ends session name ending result)
    (hallows : (session.transaction name).allows ending.action = true) :
    session.Used name result.2 := by
  have hwire := h.wire
  have htalk := h.talk
  cases h with
  | noConnection h => exact used_self session name
  | fails h hanswer =>
    refine ⟨?_, ⟨_, hwire⟩, rfl, fun _ _ => rfl⟩
    rw [htalk, h, Option.toList_some, List.map_singleton, hanswer]
    exact .fails ending hallows h
  | succeeds h hanswer =>
    refine ⟨?_, ⟨_, hwire⟩, rfl, fun other hother => ?_⟩
    · rw [Session.transaction_setTransaction_self, htalk, h, Option.toList_some,
        List.map_singleton, hanswer]
      exact .ends ending hallows h
    · rw [Session.transaction_setTransaction_of_ne _ _ hother]
      rfl

theorem used_call (ending : Ending) (name : String) (session : Session) :
    session.Used name ((ending.call name).run session).2 := by
  cases hallows : (session.transaction name).allows ending.action with
  | false =>
    rw [run_call_of_not_allows hallows]
    exact used_self session name
  | true => exact (ends_call hallows).used hallows

theorem used_finish (name : String) (reason : Option String) (session : Session) :
    session.Used name ((finish name reason).run session).2 := by
  by_cases hactive : (session.transaction name).state = .active
  · have hallows : (session.transaction name).allows (Ending.onLeaving reason).action = true :=
      (Transaction.allows_iff _ _).2 (.inl hactive)
    obtain ⟨hmoves, ⟨events, hwire⟩, hpool, hothers⟩ := (ends_finish hactive reason).used hallows
    refine ⟨?_, ⟨leavingEvents reason ++ events, ?_⟩, hpool, hothers⟩
    · rw [talk_leavingEvents hwire]
      exact hmoves
    · rw [Wire.after_append]
      exact hwire
  · rw [run_finish_of_not_active hactive]
    exact used_self session name

end ParamSql
