import ParamSql.Blocking.Session
import ParamSql.Proofs.Coroutines
import ParamSql.Proofs.Lifecycle
import ParamSql.Waiting.Session

/-!
# Waiting alone

A waiting computation that nobody disturbs does what the blocking one of the same name does: it asks
the driver for the same things in the same order, leaves the same session, and comes to the same
outcome. Only an error that changes where it leaves a coroutine tells the two apart.
-/

namespace ParamSql

theorem Blocking.bind_assoc {α β γ : Type} (first : Blocking α) (next : α → Blocking β)
    (last : β → Blocking γ) :
    first >>= next >>= last = first >>= fun value => next value >>= last := by
  refine congrArg Blocking.mk (funext fun session => ?_)
  show (first >>= next >>= last).run session =
    (first >>= fun value => next value >>= last).run session
  simp only [run_bind]
  rcases first.run session with ⟨error | value, after⟩ <;> rfl

namespace Waiting

variable {α β : Type}

/-! ## Agreement -/

/-- Run alone, a waiting computation cannot be told from a blocking one, not even where it is left. -/
structure Agrees (waiting : Waiting α) (blocking : Blocking α) : Prop where
  run_eq : ∀ session, waiting.run session = blocking.run session
  plain : ∀ session, Plain (blocking.run session).1

namespace Agrees

theorem done {outcome : Except Error α} (h : Plain outcome) :
    Agrees (done outcome) (Blocking.done outcome) :=
  ⟨fun _ => rfl, fun _ => h⟩

theorem pure (value : α) : Agrees (Pure.pure value) (Pure.pure value) := .done (.ok value)

theorem current : Agrees current Blocking.current := ⟨fun _ => rfl, fun _ => .ok _⟩

theorem update (f : Session → Session) : Agrees (update f) (Blocking.update f) :=
  ⟨fun _ => rfl, fun _ => .ok _⟩

theorem ask (request : Request) : Agrees (ask request) (Blocking.ask request) :=
  ⟨fun _ => rfl, fun _ => .ok _⟩

theorem call (request : Request) : Agrees (call request) (Blocking.call request) :=
  ⟨fun _ => rfl, fun _ => .driver _⟩

theorem bind {first : Waiting α} {blocking : Blocking α} {next : α → Waiting β}
    {others : α → Blocking β} (hfirst : Agrees first blocking)
    (hnext : ∀ value, Agrees (next value) (others value)) :
    Agrees (first >>= next) (blocking >>= others) := by
  refine ⟨fun session => ?_, fun session => ?_⟩
  · rw [run_bind, Blocking.run_bind, hfirst.run_eq session]
    rcases blocking.run session with ⟨error | value, after⟩
    · rfl
    · exact (hnext value).run_eq after
  · have hplain := hfirst.plain session
    rw [Blocking.run_bind]
    generalize blocking.run session = result at hplain
    obtain ⟨error | value, after⟩ := result
    · exact .error (hplain error rfl)
    · exact (hnext value).plain after

theorem attempt {waiting : Waiting α} {blocking : Blocking α} (h : Agrees waiting blocking) :
    Agrees waiting.attempt blocking.attempt := by
  refine ⟨fun session => ?_, fun session => .ok _⟩
  rw [run_attempt, Blocking.run_attempt, h.run_eq session]

theorem coroutine {waiting : Waiting α} {blocking : Blocking α} (h : Agrees waiting blocking) :
    Agrees waiting.coroutine blocking := by
  refine ⟨fun session => ?_, h.plain⟩
  rw [run_coroutine, h.run_eq session, (h.plain session).mapError_eq]

theorem look {next : Session → Waiting α} {others : Session → Blocking α}
    (h : ∀ session, (next session).run session = (others session).run session ∧
      Plain ((others session).run session).1) :
    Agrees (Waiting.current >>= next) (Blocking.current >>= others) :=
  ⟨fun session => (h session).1, fun session => (h session).2⟩

end Agrees

/-- Run alone, a waiting computation does what a blocking one does, and its errors are those of the
blocking one as they leave a coroutine. -/
def Mirrors (waiting : Waiting α) (blocking : Blocking α) : Prop :=
  ∀ session, waiting.run session =
    ((blocking.run session).1.mapError Error.outside, (blocking.run session).2)

theorem Agrees.mirrors {waiting : Waiting α} {blocking : Blocking α} (h : Agrees waiting blocking) :
    Mirrors waiting blocking := by
  intro session
  rw [h.run_eq session, (h.plain session).mapError_eq]

namespace Mirrors

variable {waiting first : Waiting α} {blocking : Blocking α} {next : α → Waiting β}
  {others : α → Blocking β}

theorem bind (hfirst : Mirrors first blocking)
    (hnext : ∀ value, Mirrors (next value) (others value)) :
    Mirrors (first >>= next) (blocking >>= others) := by
  intro session
  rw [run_bind, Blocking.run_bind, hfirst session]
  rcases blocking.run session with ⟨error | value, after⟩
  · rfl
  · exact hnext value after

theorem returning (h : Mirrors waiting blocking) (f : α → β) :
    Mirrors (waiting >>= fun value => pure (f value)) (blocking >>= fun value => pure (f value)) :=
  h.bind fun value => (Agrees.pure (f value)).mirrors

theorem attempt_bind {next : Except Error α → Waiting β} {others : Except Error α → Blocking β}
    (h : Mirrors waiting blocking)
    (hnext : ∀ outcome, Mirrors (next (outcome.mapError Error.outside)) (others outcome)) :
    Mirrors (waiting.attempt >>= next) (blocking.attempt >>= others) := by
  intro session
  rw [run_bind, run_attempt, Blocking.run_bind, Blocking.run_attempt, h session]
  exact hnext (blocking.run session).1 (blocking.run session).2

theorem coroutine (h : Mirrors waiting blocking) : Mirrors waiting.coroutine blocking := by
  intro session
  rw [run_coroutine, h session]
  cases (blocking.run session).1 with
  | ok value => rfl
  | error error => exact congrArg (fun error => (Except.error error, _)) error.outside_outside

theorem coroutine_done (outcome : Except Error α) :
    Mirrors (done outcome).coroutine (Blocking.done outcome) := fun _ => rfl

theorem coroutine_bind (hfirst : Mirrors first.coroutine blocking)
    (hnext : ∀ value, Mirrors (next value).coroutine (others value)) :
    Mirrors (first >>= next).coroutine (blocking >>= others) := by
  intro session
  have h := hfirst.bind hnext session
  rw [← h, run_coroutine, run_bind, run_bind, run_coroutine]
  rcases first.run session with ⟨error | value, after⟩
  · rfl
  · exact (run_coroutine (next value) after).symm

end Mirrors

/-! ## The pool -/

section Pool

variable (engine : Engine)

theorem agrees_connect : Agrees (connect engine) (Blocking.connect engine) := by
  refine .coroutine (.bind .current fun session => .bind (.ask _) fun answer => ?_)
  cases answer with
  | error failure =>
    have hplain : Plain (.error (engine.backend.connectError engine.config failure) :
        Except Error Nat) := by
      cases engine.backend with
      | sqlite => exact .error rfl
      | postgresql =>
        unfold Backend.connectError
        dsimp only
        split <;> exact .error rfl
    exact .done hplain
  | ok cursor? =>
    cases engine.backend.setsRowFactory
    · exact .pure _
    · exact .bind (.update _) fun _ => .pure _

theorem agrees_openNew : Agrees (openNew engine) (Blocking.openNew engine) :=
  .bind (agrees_connect engine) fun _ => .bind (.update _) fun _ => .bind .current fun _ =>
    .bind (.update _) fun _ => .pure _

theorem agrees_acquire : Agrees (acquire engine) (Blocking.acquire engine) := by
  refine .coroutine (.bind .current fun session => ?_)
  cases session.pool.idle with
  | cons handle others => exact .bind (.update _) fun _ => .pure _
  | nil =>
    refine .bind .current fun session => ?_
    split
    · exact .done (.error rfl)
    · exact agrees_openNew engine

theorem agrees_release (handle : Handle) : Agrees (release handle) (Blocking.release handle) :=
  (Agrees.update _).coroutine

theorem agrees_disconnect (handle : Handle) :
    Agrees (disconnect handle) (Blocking.disconnect handle) :=
  (Agrees.bind (.done (.connectionOf _ _)) fun _ => .bind (.call _) fun _ => .pure _).coroutine

theorem idle_disconnect (handle : Handle) (session : Session) :
    ((Blocking.disconnect handle).run session).2.pool.idle = session.pool.idle := by
  cases handle with
  | none => rfl
  | some connection =>
    simp only [Blocking.disconnect, connectionOf, Blocking.run_bind, Blocking.run_done,
      Blocking.run_call]
    cases session.wire.answer (.close connection) with
    | error failure => rfl
    | ok cursor? => rfl

theorem run_closeUpTo {handles : List Handle} {session : Session}
    (h : session.pool.idle = handles) :
    (closeUpTo handles.length).run session = (Blocking.closeAll handles).run session ∧
      Plain ((Blocking.closeAll handles).run session).1 := by
  -- Nobody puts a connection into the pool while one is being closed, so looking again after each
  -- wait finds what was there at the start.
  induction handles generalizing session with
  | nil => exact ⟨rfl, .ok _⟩
  | cons handle others ih =>
    have hidle := idle_disconnect handle (session.setIdle others)
    have hplain := (agrees_disconnect handle).plain (session.setIdle others)
    show (current >>= _).run session = _ ∧ _
    rw [run_bind, run_current]
    dsimp only
    rw [h]
    show (disconnect handle >>= fun _ => _).run (session.setIdle others) =
      (Blocking.disconnect handle >>= fun _ => _).run (session.setIdle others) ∧
      Plain ((Blocking.disconnect handle >>= fun _ => _).run (session.setIdle others)).1
    rw [run_bind, Blocking.run_bind, (agrees_disconnect handle).run_eq]
    generalize (Blocking.disconnect handle).run (session.setIdle others) = result at hidle hplain
    obtain ⟨error | value, after⟩ := result
    · exact ⟨rfl, .error (hplain error rfl)⟩
    · exact ih hidle

theorem agrees_closePool : Agrees closePool Blocking.closePool :=
  .coroutine (.look fun _ => run_closeUpTo rfl)

end Pool

/-! ## Queries -/

section Queries

variable (engine : Engine) (handle : Handle)

theorem agrees_execute (statement : Prepared) :
    Agrees (execute handle statement) (Blocking.execute handle statement) :=
  .bind (.done (.connectionOf _ _)) fun _ => .call _

theorem agrees_fetch (cursor : Cursor) :
    Agrees (fetch handle cursor) (Blocking.fetch handle cursor) :=
  .bind (.done (.connectionOf _ _)) fun _ => .bind (.call _) fun _ => .done (.assemble cursor)

theorem agrees_commit : Agrees (commit handle) (Blocking.commit handle) :=
  .bind (.done (.connectionOf _ _)) fun _ => .bind (.call _) fun _ => .pure _

theorem agrees_rollback : Agrees (rollback handle) (Blocking.rollback handle) :=
  .bind (.done (.connectionOf _ _)) fun _ => .bind (.call _) fun _ => .pure _

theorem agrees_send (query : Query) : Agrees (send engine handle query)
    (.done (query.prepare engine.backend.style) >>= Blocking.execute handle) :=
  .coroutine (.bind (.done (.prepare _ _)) fun statement => agrees_execute handle statement)

theorem agrees_runQuery (query : Query) :
    Agrees (runQuery engine handle query) (Blocking.runQuery engine handle query) := by
  unfold Blocking.runQuery
  rw [← Blocking.bind_assoc]
  refine .bind (agrees_send engine handle query) fun cursor? => ?_
  cases cursor? with
  | none => exact .pure _
  | some cursor => exact agrees_fetch handle cursor

theorem mirrors_executeOn (query : Query) :
    Mirrors (executeOn engine handle query) (Blocking.executeOn engine handle query) := by
  refine .coroutine_bind (Agrees.update _).coroutine.mirrors fun _ =>
    .coroutine_bind (agrees_runQuery engine handle query).attempt.coroutine.mirrors fun outcome => ?_
  cases outcome with
  | ok rows => exact .coroutine_done _
  | error error => exact .coroutine_done _

theorem agrees_commitQuery (query : Query) :
    Agrees (commitQuery handle query) (Blocking.commitQuery handle query) := by
  refine .coroutine (.bind (agrees_commit handle).attempt fun outcome => ?_)
  cases outcome with
  | ok value => exact .pure _
  | error error => exact .done (.error rfl)

theorem mirrors_executeOrUndo (query : Query) :
    Mirrors (executeOrUndo engine handle query) (Blocking.executeOrUndo engine handle query) := by
  have hexecute : Mirrors (do
      let rows ← executeOn engine handle query
      commitQuery handle query
      return rows) (Blocking.executeAndCommit engine handle query) :=
    (mirrors_executeOn engine handle query).bind fun rows =>
      (agrees_commitQuery handle query).mirrors.returning _
  refine hexecute.attempt_bind fun outcome => ?_
  cases outcome with
  | ok rows => exact (Agrees.pure rows).mirrors
  | error error =>
    show Mirrors (if error.outside.isQueryFailure then _ else _)
      (if error.isQueryFailure then _ else _)
    rw [Error.isQueryFailure_outside]
    split
    · exact (agrees_rollback handle).mirrors.bind fun _ _ => rfl
    · exact fun _ => rfl

theorem mirrors_executeQuery (query : Query) :
    Mirrors (executeQuery engine query) (Blocking.executeQuery engine query) :=
  .coroutine ((agrees_acquire engine).mirrors.bind fun handle =>
    (mirrors_executeOrUndo engine handle query).attempt_bind fun _ =>
      (agrees_release handle).mirrors.bind fun _ _ => rfl)

theorem mirrors_rawQuery (template : String) (named : Row) :
    Mirrors (rawQuery engine template named) (Blocking.rawQuery engine template named) :=
  .coroutine ((Agrees.done (.template template named)).mirrors.bind fun query =>
    mirrors_executeQuery engine query)

end Queries

/-! ## Transactions -/

section Transactions

variable (engine : Engine) (name : String)

theorem agrees_enter : Agrees (enter engine name) (Blocking.enter engine name) :=
  .coroutine (.bind (agrees_acquire engine) fun _ => .update _)

theorem agrees_finish (reason : Option String) :
    Agrees (finish name reason) (Blocking.finish name reason) := by
  refine .bind .current fun session => ?_
  dsimp only
  split
  · cases reason with
    | some reason => exact .bind (.update _) fun _ => .bind (agrees_rollback _) fun _ => .update _
    | none => exact .bind (agrees_commit _) fun _ => .update _
  · exact .pure _

theorem mirrors_leave (reason : Option String) :
    Mirrors (leave name reason) (Blocking.leave name reason) :=
  .coroutine ((agrees_finish name reason).mirrors.attempt_bind fun _ =>
    Agrees.current.mirrors.bind fun _ => (agrees_release _).mirrors.bind fun _ _ => rfl)

theorem mirrors_executeIn (query : Query) :
    Mirrors (executeIn engine name query) (Blocking.executeIn engine name query) :=
  .coroutine (Agrees.current.mirrors.bind fun _ => (Agrees.done (.check _ _)).mirrors.bind fun _ =>
    mirrors_executeOn engine _ query)

theorem mirrors_rawQueryIn (template : String) (named : Row) :
    Mirrors (rawQueryIn engine name template named)
      (Blocking.rawQueryIn engine name template named) :=
  .coroutine ((Agrees.done (.template template named)).mirrors.bind fun query =>
    mirrors_executeIn engine name query)

theorem agrees_commitIn : Agrees (commitIn name) (Blocking.commitIn name) :=
  .coroutine (.bind .current fun _ => .bind (.done (.check _ _)) fun _ =>
    .bind (agrees_commit _) fun _ => .update _)

theorem agrees_rollbackIn : Agrees (rollbackIn name) (Blocking.rollbackIn name) :=
  .coroutine (.bind .current fun _ => .bind (.done (.check _ _)) fun _ =>
    .bind (agrees_rollback _) fun _ => .update _)

end Transactions

/-! ## Steps -/

section Steps

variable (engine : Engine)

theorem mirrors_executeBy (executor : Executor) (query : Query) :
    Mirrors (executeBy engine executor query) (Blocking.executeBy engine executor query) := by
  cases executor with
  | none => exact mirrors_executeQuery engine query
  | some name => exact mirrors_executeIn engine name query

theorem mirrors_rawQueryBy (executor : Executor) (template : String) (named : Row) :
    Mirrors (rawQueryBy engine executor template named)
      (Blocking.rawQueryBy engine executor template named) := by
  cases executor with
  | none => exact mirrors_rawQuery engine template named
  | some name => exact mirrors_rawQueryIn engine name template named

theorem mirrors_useTable {execute : Query → Waiting (List ResultRow)}
    {blocking : Query → Blocking (List ResultRow)}
    (h : ∀ query, Mirrors (execute query) (blocking query)) (table : Table) (properties : Properties)
    (method : Method) :
    Mirrors (useTable execute table properties method)
      (Blocking.useTable blocking table properties method) :=
  .coroutine_bind (.coroutine_done _) fun query =>
    .coroutine_bind (h query).coroutine fun _ => .coroutine_done _

theorem agrees_takeConnection (name : String) :
    Agrees (takeConnection engine name) (Blocking.takeConnection engine name) :=
  .bind (agrees_acquire engine) fun _ => .bind (.update _) fun _ => .pure _

theorem agrees_giveBack (name : String) : Agrees (giveBack name) (Blocking.giveBack name) := by
  refine .bind .current fun session => ?_
  cases session.held.get? name with
  | none => exact .pure _
  | some handle => exact .bind (agrees_release handle) fun _ => .pure _

end Steps

end Waiting

/-- All steps are waited for but those that only look at what is there or get a transaction ready. -/
def Step.isAwaited : Step → Bool
  | .statement .. => false
  | .resolve _ => false
  | .catalog => false
  | .begin _ => false
  | _ => true

/-- What a blocking step comes to where it is waited for. -/
def Step.awaited {α : Type} (step : Step) (outcome : Except Error α) : Except Error α :=
  if step.isAwaited then outcome.mapError Error.outside else outcome

def Step.reportAwaited (step : Step) (report : Report) : Report :=
  { report with outcome := step.awaited report.outcome }

namespace Waiting

theorem mirrors_step (engine : Engine) {step : Step} (h : step.isAwaited = true) :
    Mirrors (Waiting.step engine step) (Blocking.step engine step) := by
  cases step with
  | query executor query => exact (mirrors_executeBy engine executor query).returning _
  | rawQuery executor template named =>
    exact (mirrors_rawQueryBy engine executor template named).returning _
  | repository executor table properties method =>
    refine (Agrees.done (.resolve engine table)).mirrors.bind fun table => ?_
    exact (mirrors_useTable (mirrors_executeBy engine executor) table properties method).returning _
  | enter name => exact (agrees_enter engine name).mirrors.returning _
  | leave name reason => exact (mirrors_leave name reason).returning _
  | commit name => exact (agrees_commitIn name).mirrors.returning _
  | rollback name => exact (agrees_rollbackIn name).mirrors.returning _
  | acquire name => exact (agrees_takeConnection engine name).mirrors
  | release name => exact (agrees_giveBack name).mirrors
  | close => exact agrees_closePool.mirrors.returning _
  | _ => cases h

theorem run_step_eq (engine : Engine) (step : Step) (session : Session) :
    (Waiting.step engine step).run session =
      (step.awaited ((Blocking.step engine step).run session).1,
        ((Blocking.step engine step).run session).2) := by
  by_cases h : step.isAwaited = true
  · rw [mirrors_step engine h session, Step.awaited, if_pos h]
  · rw [Step.awaited, if_neg h]
    cases step with
    | statement table properties statement =>
      simp only [Waiting.step, Blocking.step, run_bind, run_done, Blocking.run_bind,
        Blocking.run_done]
      cases engine.resolve table with
      | error error => rfl
      | ok table => cases (statement.query table properties).outcome <;> rfl
    | resolve table =>
      simp only [Waiting.step, Blocking.step, run_bind, run_done, Blocking.run_bind,
        Blocking.run_done]
      cases engine.resolve table <;> rfl
    | catalog => rfl
    | begin name => rfl
    | _ => exact absurd rfl h

end Waiting

/-! ## Either way -/

/-- A computation blocks, or it is waited for and nothing else happens meanwhile. -/
inductive Manner where
  | blocking
  | waiting

namespace Manner

variable {α : Type} (manner : Manner)

def run (blocking : Blocking α) (waiting : Waiting α) (session : Session) :
    Except Error α × Session :=
  match manner with
  | .blocking => blocking.run session
  | .waiting => waiting.run session

/-- What the outcome of a blocking computation is to whoever asked for it. -/
def seen (outcome : Except Error α) : Except Error α :=
  match manner with
  | .blocking => outcome
  | .waiting => outcome.mapError Error.outside

theorem seen_of_plain {outcome : Except Error α} (h : Plain outcome) :
    manner.seen outcome = outcome := by
  cases manner with
  | blocking => rfl
  | waiting => exact h.mapError_eq

theorem seen_eq_ok_iff {outcome : Except Error α} {value : α} :
    manner.seen outcome = .ok value ↔ outcome = .ok value := by
  cases manner with
  | blocking => rfl
  | waiting => cases outcome <;> simp [seen, Except.mapError]

theorem error_of_seen {outcome : Except Error α} {error : Error}
    (h : manner.seen outcome = .error error) : ∃ cause, outcome = .error cause := by
  cases outcome with
  | ok value => cases (manner.seen_eq_ok_iff.2 rfl).symm.trans h
  | error cause => exact ⟨cause, rfl⟩

theorem exists_seen_error (error : Error) :
    ∃ told : Error, manner.seen (.error error : Except Error α) = .error told ∧
      told.isQueryFailure = error.isQueryFailure := by
  cases manner with
  | blocking => exact ⟨error, rfl, rfl⟩
  | waiting => exact ⟨error.outside, rfl, error.isQueryFailure_outside⟩

variable {blocking : Blocking α} {waiting : Waiting α}

theorem run_of_mirrors (h : Waiting.Mirrors waiting blocking) (session : Session) :
    manner.run blocking waiting session =
      (manner.seen (blocking.run session).1, (blocking.run session).2) := by
  cases manner with
  | blocking => rfl
  | waiting => exact h session

theorem run_of_agrees (h : Waiting.Agrees waiting blocking) (session : Session) :
    manner.run blocking waiting session = blocking.run session := by
  cases manner with
  | blocking => rfl
  | waiting => exact h.run_eq session

def step (engine : Engine) (step : Step) (session : Session) : Except Error Outcome × Session :=
  manner.run (Blocking.step engine step) (Waiting.step engine step) session

theorem step_of_awaited (engine : Engine) {step : Step} (h : step.isAwaited = true)
    (session : Session) :
    manner.step engine step session = (manner.seen ((Blocking.step engine step).run session).1,
      ((Blocking.step engine step).run session).2) :=
  manner.run_of_mirrors (Waiting.mirrors_step engine h) session

@[simp] theorem session_step (engine : Engine) (step : Step) (session : Session) :
    (manner.step engine step session).2 = ((Blocking.step engine step).run session).2 := by
  cases manner with
  | blocking => rfl
  | waiting =>
    show ((Waiting.step engine step).run session).2 = _
    rw [Waiting.run_step_eq]

end Manner

/-! ## Sessions -/

namespace Waiting

theorem runAll_eq (engine : Engine) (steps : List Step) (session : Session) :
    Waiting.runAll engine steps session =
      List.zipWith Step.reportAwaited steps (Blocking.runAll engine steps session) := by
  induction steps generalizing session with
  | nil => rfl
  | cons step steps ih =>
    simp only [Waiting.runAll, Blocking.runAll, run_step_eq, ih]
    rfl

end Waiting

theorem Step.awaited_eq_self_iff {α : Type} (step : Step) (outcome : Except Error α) :
    step.awaited outcome = outcome ↔
      (step.isAwaited = true → ∀ text, outcome ≠ .error (.exhausted text)) := by
  unfold Step.awaited
  by_cases h : step.isAwaited = true
  · rw [if_pos h, forall_prop_of_true h]
    constructor
    · rintro heq text rfl
      cases heq
    · intro hnot
      refine Plain.mapError_eq fun error herror => ?_
      cases error
      case exhausted text => exact absurd herror (hnot text)
      all_goals rfl
  · rw [if_neg h, forall_prop_of_false h]
    exact iff_of_true rfl trivial

theorem Step.reportAwaited_eq_self_iff (step : Step) (report : Report) :
    step.reportAwaited report = report ↔
      (step.isAwaited = true → ∀ text, report.outcome ≠ .error (.exhausted text)) := by
  rw [← step.awaited_eq_self_iff]
  exact ⟨congrArg Report.outcome, fun h => congrArg (fun outcome => { report with outcome }) h⟩

theorem zipWith_reportAwaited_eq_iff {steps : List Step} {reports : List Report}
    (h : steps.length = reports.length) :
    List.zipWith Step.reportAwaited steps reports = reports ↔
      ∀ entry ∈ steps.zip reports, entry.1.isAwaited = true →
        ∀ text, entry.2.outcome ≠ .error (.exhausted text) := by
  induction steps generalizing reports with
  | nil =>
    obtain rfl := List.length_eq_zero_iff.1 h.symm
    simp
  | cons step steps ih =>
    obtain ⟨report, reports, rfl⟩ := List.exists_cons_of_length_eq_add_one h.symm
    rw [List.zipWith_cons_cons, List.zip_cons_cons, List.cons_eq_cons, List.forall_mem_cons,
      step.reportAwaited_eq_self_iff, ih (Nat.succ.inj h)]

theorem Blocking.length_runAll (engine : Engine) (steps : List Step) (session : Session) :
    (Blocking.runAll engine steps session).length = steps.length := by
  induction steps generalizing session with
  | nil => rfl
  | cons step steps ih => exact congrArg (· + 1) (ih _)

/-- A session in which every step is waited for before the next one begins does what a blocking
session does: every step reports the same requests, log lines, pool and transactions, and the sessions
end alike. Its outcomes are the same, too, unless a coroutine is left by an error that it changes. -/
theorem waiting_mirrors_blocking (engine : Engine) (steps : List Step) (session : Session) :
    Waiting.runAll engine steps session =
        List.zipWith Step.reportAwaited steps (Blocking.runAll engine steps session) ∧
      steps.foldl (fun before step => ((Waiting.step engine step).run before).2) session =
        steps.foldl (fun before step => ((Blocking.step engine step).run before).2) session ∧
      (Waiting.runAll engine steps session = Blocking.runAll engine steps session ↔
        ∀ entry ∈ steps.zip (Blocking.runAll engine steps session), entry.1.isAwaited = true →
          ∀ text, entry.2.outcome ≠ .error (.exhausted text)) := by
  refine ⟨Waiting.runAll_eq engine steps session, ?_, ?_⟩
  · have hstep : (fun before step => ((Waiting.step engine step).run before).2) =
        fun before step => ((Blocking.step engine step).run before).2 := by
      funext before step
      rw [Waiting.run_step_eq engine step before]
    rw [hstep]
  · rw [Waiting.runAll_eq]
    exact zipWith_reportAwaited_eq_iff (Blocking.length_runAll engine steps session).symm

/-- A row without cells is counted, and a key rule is exhausted. -/
theorem waiting_ne_blocking :
    let counting : List Step :=
      [.repository none (.table ⟨"app", "users"⟩) Fields.empty (.count Fields.empty)]
    let counted := Session.start ⟨[], [.results ⟨[], [.cells []], none⟩], [], [], []⟩
    let engine : Engine := { inMemory 1 with keyRule := some fun _ => .error (.exhausted "") }
    let named := Session.start ⟨[], [.results ⟨["a"], [.cells [.int 1]], none⟩], [], [], []⟩
    ((Blocking.runAll (inMemory 1) counting counted).map Report.outcome = [.error (.exhausted "")] ∧
      (Waiting.runAll (inMemory 1) counting counted).map Report.outcome =
        [.error (.exhaustedInside "")]) ∧
    ((Blocking.runAll engine [.query none ⟨"select 1", []⟩] named).map Report.outcome =
        [.error (.exhausted "")] ∧
      (Waiting.runAll engine [.query none ⟨"select 1", []⟩] named).map Report.outcome =
        [.error (.exhaustedInside "")]) ∧
    Waiting.runAll (inMemory 1) counting counted ≠ Blocking.runAll (inMemory 1) counting counted := by
  refine ⟨⟨rfl, rfl⟩, ⟨rfl, rfl⟩, fun heq => ?_⟩
  have houtcomes : ([.error (.exhaustedInside "")] : List (Except Error Outcome)) =
      [.error (.exhausted "")] := congrArg (List.map Report.outcome) heq
  cases houtcomes

end ParamSql
