import Mathlib.Data.List.Forall2
import ParamSql.Proofs.Lifecycle
import ParamSql.Proofs.Shapes
import ParamSql.Proofs.Twins

/-!
# Where values cannot reach

A driver gets values as the parameters of its statements. Nothing else depends on them: no line of
the log, no error, no row, no pool and no transaction. Two sessions whose values differ in nothing but
their contents go the same way.
-/

namespace ParamSql

/-! ## Veils -/

/-- As many values, of which nothing is seen. -/
def veil (values : List Value) : List Value := List.replicate values.length .null

theorem veil_congr {values others : List Value} (h : values.length = others.length) :
    veil values = veil others := by
  rw [veil, veil, h]

def Prepared.veiled (statement : Prepared) : Prepared :=
  { statement with params := veil statement.params }

theorem Prepared.veiled_congr {statement other : Prepared} (h : statement.SameText other) :
    statement.veiled = other.veiled := by
  rw [veiled, veiled, h.1, veil_congr h.2]

def Request.veiled : Request → Request
  | .execute connection statement => .execute connection statement.veiled
  | request => request

def Event.veiled : Event → Event
  | .asked request => .asked request.veiled
  | event => event

def Query.veiled (query : Query) : Query := { query with values := veil query.values }

theorem Query.veiled_congr {query other : Query} (h : query.SameText other) :
    query.veiled = other.veiled := by
  rw [veiled, veiled, h.1, veil_congr h.2]

/-- Only a statement that is handed back itself shows values. -/
def Outcome.veiled : Outcome → Outcome
  | .query built => .query built.veiled
  | outcome => outcome

def Report.veiled (report : Report) : Report :=
  { report with
    outcome := report.outcome.map Outcome.veiled
    trace := report.trace.map Event.veiled }

/-! ## Sessions behind a veil -/

def Session.veiled (session : Session) : Session :=
  { session with wire := { session.wire with trace := session.wire.trace.map Event.veiled } }

namespace Session

variable (session : Session)

theorem veiled_record (event : Event) :
    (session.record event).veiled = session.veiled.record event.veiled := by
  simp only [record, Wire.record, veiled, List.map_append, List.map_cons, List.map_nil]

theorem advance_veiled (script : Script) (request : Request) :
    script.advance request.veiled = script.advance request := by
  cases request <;> rfl

theorem veiled_ask (request : Request) :
    (session.ask request).veiled = session.veiled.ask request.veiled := by
  have hconnect : request.veiled.isConnect = request.isConnect := by cases request <;> rfl
  simp only [ask, Wire.asked, veiled, advance_veiled, hconnect, List.map_append, List.map_cons,
    List.map_nil, Event.veiled]

theorem answer_veiled (request : Request) :
    session.veiled.wire.answer request.veiled = session.wire.answer request := by
  cases request <;> rfl

end Session

namespace Matched

variable {ε α : Type}

theorem refl (outcome : Except ε α) : Matched Eq outcome outcome := by
  cases outcome with
  | ok value => exact .ok rfl
  | error error => exact .error error

theorem eq {outcome other : Except ε α} (h : Matched Eq outcome other) : outcome = other := by
  cases h with
  | ok heq => rw [heq]
  | error error => rfl

end Matched

namespace Blocking

variable {α β γ δ : Type}

/-! ## Two runs -/

/-- From two sessions that look the same behind the veil, two computations come to related results,
and leave two sessions that look the same. -/
def Alike (r : α → β → Prop) (body : Blocking α) (other : Blocking β) : Prop :=
  ∀ before before' : Session, before.veiled = before'.veiled →
    Matched r (body.run before).1 (other.run before').1 ∧
      (body.run before).2.veiled = (other.run before').2.veiled

/-- What a computation comes to does not depend on what is behind the veil. -/
abbrev Steady (body : Blocking α) : Prop := Alike Eq body body

namespace Alike

variable {r : α → β → Prop} {s : γ → δ → Prop}

theorem done {outcome : Except Error α} {other : Except Error β} (h : Matched r outcome other) :
    Alike r (done outcome) (done other) :=
  fun _ _ hveiled => ⟨h, hveiled⟩

theorem same (outcome : Except Error α) : Steady (Blocking.done outcome) := done (.refl outcome)

theorem returning {value : α} {other : β} (h : r value other) :
    Alike r (pure value) (pure other) := done (.ok h)

theorem raise (error : Error) : Alike r (raise error) (raise error) := done (.error error)

theorem bind {first : Blocking α} {first' : Blocking β} {next : α → Blocking γ}
    {next' : β → Blocking δ} (hfirst : Alike r first first')
    (hnext : ∀ value other, r value other → Alike s (next value) (next' other)) :
    Alike s (first >>= next) (first' >>= next') := by
  intro before before' hveiled
  obtain ⟨hmatched, hafter⟩ := hfirst before before' hveiled
  rw [run_bind, run_bind]
  generalize first.run before = result at hmatched hafter
  generalize first'.run before' = result' at hmatched hafter
  obtain ⟨outcome, after⟩ := result
  obtain ⟨outcome', after'⟩ := result'
  cases hmatched with
  | ok hr => exact hnext _ _ hr after after' hafter
  | error error => exact ⟨.error error, hafter⟩

theorem seq {first first' : Blocking α} {next : α → Blocking γ} {next' : α → Blocking δ}
    (hfirst : Alike Eq first first') (hnext : ∀ value, Alike s (next value) (next' value)) :
    Alike s (first >>= next) (first' >>= next') :=
  hfirst.bind fun value _ heq => heq ▸ hnext value

theorem mono {r' : α → β → Prop} {body : Blocking α} {other : Blocking β} (h : Alike r body other)
    (himp : ∀ value other, r value other → r' value other) : Alike r' body other := by
  intro before before' hveiled
  obtain ⟨hmatched, hafter⟩ := h before before' hveiled
  exact ⟨hmatched.mono himp, hafter⟩

theorem attempt {body other : Blocking α} (h : Alike Eq body other) :
    Alike Eq body.attempt other.attempt := by
  intro before before' hveiled
  obtain ⟨hmatched, hafter⟩ := h before before' hveiled
  exact ⟨.ok hmatched.eq, hafter⟩

theorem look {next : Session → Blocking α} {next' : Session → Blocking β}
    (hnext : ∀ session, next session.veiled = next session)
    (h : ∀ session, Alike r (next session) (next' session)) :
    Alike r (current >>= next) (current >>= next') := by
  intro before before' hveiled
  rw [run_bind, run_bind, run_current, run_current]
  dsimp only
  rw [← hnext before, hveiled, hnext]
  exact h before' before before' hveiled

theorem update {f : Session → Session} (hf : ∀ session, (f session).veiled = f session.veiled) :
    Steady (update f) := by
  intro before before' hveiled
  exact ⟨.ok rfl, by rw [run_update, run_update, hf, hf, hveiled]⟩

theorem debug (line : String) : Steady (record (.debug line)) :=
  update fun session => session.veiled_record (.debug line)

end Alike

theorem alike_ask {request other : Request} (h : request.veiled = other.veiled) :
    Alike Eq (ask request) (ask other) := by
  intro before before' hveiled
  rw [run_ask, run_ask, Session.veiled_ask, Session.veiled_ask, ← before.answer_veiled,
    ← before'.answer_veiled, h, hveiled]
  exact ⟨.ok rfl, rfl⟩

theorem alike_call {request other : Request} (h : request.veiled = other.veiled) :
    Alike Eq (call request) (call other) :=
  (alike_ask h).seq fun _ => .same _

/-! ## The pool -/

section Pool

variable (engine : Engine)

theorem steady_connect : Steady (connect engine) := by
  refine .look (fun _ => rfl) fun session => .seq (alike_ask rfl) fun answer => ?_
  cases answer with
  | error failure => exact .same _
  | ok cursor? =>
    dsimp only
    split
    · exact .seq (.update fun session => session.veiled_record _) fun _ => .same _
    · exact .same _

theorem steady_openNew : Steady (openNew engine) :=
  .seq (steady_connect engine) fun _ => .seq (.update fun _ => rfl) fun _ =>
    .look (fun _ => rfl) fun _ => .seq (.debug _) fun _ => .same _

theorem steady_acquire : Steady (acquire engine) := by
  refine .look (fun _ => rfl) fun session => ?_
  cases session.pool.idle with
  | cons handle others => exact .seq (.update fun _ => rfl) fun _ => .same _
  | nil =>
    refine .look (fun _ => rfl) fun session => ?_
    split
    · exact .same _
    · exact steady_openNew engine

theorem steady_release (handle : Handle) : Steady (release handle) := .update fun _ => rfl

theorem steady_disconnect (handle : Handle) : Steady (disconnect handle) :=
  .seq (.same _) fun _ => .seq (alike_call rfl) fun _ => .same _

theorem steady_closeAll (handles : List Handle) : Steady (closeAll handles) := by
  induction handles with
  | nil => exact .same _
  | cons handle others ih =>
    exact .seq (.update fun _ => rfl) fun _ => .seq (steady_disconnect handle) fun _ =>
      .seq (.update fun _ => rfl) fun _ => ih

theorem steady_closePool : Steady closePool :=
  .look (fun _ => rfl) fun session => steady_closeAll session.pool.idle

end Pool

/-! ## Queries -/

theorem steady_commit (handle : Handle) : Steady (commit handle) :=
  .seq (.same _) fun _ => .seq (alike_call rfl) fun _ => .same _

theorem steady_rollback (handle : Handle) : Steady (rollback handle) :=
  .seq (.same _) fun _ => .seq (alike_call rfl) fun _ => .same _

theorem steady_fetch (handle : Handle) (cursor : Cursor) : Steady (fetch handle cursor) :=
  .seq (.same _) fun _ => .seq (alike_call rfl) fun _ => .same _

theorem alike_execute (handle : Handle) {statement other : Prepared}
    (h : statement.SameText other) : Alike Eq (execute handle statement) (execute handle other) := by
  refine .seq (.same _) fun connection => ?_
  exact alike_call (congrArg (Request.execute connection) (Prepared.veiled_congr h))

section Queries

variable (engine : Engine) (handle : Handle) {query other : Query} (h : query.SameText other)

include h

theorem executingLine_congr : query.executingLine = other.executingLine := by
  rw [Query.executingLine, Query.executingLine, h.1, h.2]

theorem alike_runQuery : Alike Eq (runQuery engine handle query) (runQuery engine handle other) := by
  refine .bind (.done (prepare_matched h _)) fun statement statement' hstatement => ?_
  refine .seq (alike_execute handle hstatement) fun cursor? => ?_
  cases cursor? with
  | none => exact .returning rfl
  | some cursor => exact steady_fetch handle cursor

theorem alike_executeOn :
    Alike Eq (executeOn engine handle query) (executeOn engine handle other) := by
  unfold executeOn
  rw [executingLine_congr h, h.1]
  refine .seq (.debug _) fun _ => .seq (alike_runQuery engine handle h).attempt fun outcome => ?_
  cases outcome with
  | ok rows => exact .same _
  | error error => exact .same _

theorem alike_commitQuery : Alike Eq (commitQuery handle query) (commitQuery handle other) := by
  unfold commitQuery
  rw [h.1]
  refine .seq (steady_commit handle).attempt fun outcome => ?_
  cases outcome with
  | ok value => exact .same _
  | error error => exact .same _

theorem alike_executeOrUndo :
    Alike Eq (executeOrUndo engine handle query) (executeOrUndo engine handle other) := by
  have hcommit : Alike Eq (executeAndCommit engine handle query)
      (executeAndCommit engine handle other) := by
    refine .seq (alike_executeOn engine handle h) fun rows => ?_
    exact .seq (alike_commitQuery handle h) fun _ => .returning rfl
  refine .seq hcommit.attempt fun outcome => ?_
  cases outcome with
  | ok rows => exact .returning rfl
  | error error =>
    dsimp only
    split
    · exact .seq (steady_rollback handle) fun _ => .raise error
    · exact .raise error

theorem alike_executeQuery : Alike Eq (executeQuery engine query) (executeQuery engine other) := by
  refine .seq (steady_acquire engine) fun handle => ?_
  refine .seq (alike_executeOrUndo engine handle h).attempt fun outcome => ?_
  exact .seq (steady_release handle) fun _ => .same _

end Queries

/-! ## Transactions -/

section Transactions

variable (engine : Engine) (name : String)

theorem steady_setState (state : TransactionState) : Steady (setState name state) :=
  .update fun _ => rfl

theorem steady_enter : Steady (enter engine name) :=
  .seq (steady_acquire engine) fun _ => .update fun _ => rfl

theorem steady_finish (reason : Option String) : Steady (finish name reason) := by
  refine .look (fun _ => rfl) fun session => ?_
  dsimp only
  split
  · cases reason with
    | some reason =>
      exact .seq (.debug _) fun _ => .seq (steady_rollback _) fun _ => steady_setState name _
    | none => exact .seq (steady_commit _) fun _ => steady_setState name _
  · exact .same _

theorem steady_leave (reason : Option String) : Steady (leave name reason) :=
  .seq (steady_finish name reason).attempt fun _ => .look (fun _ => rfl) fun _ =>
    .seq (steady_release _) fun _ => .same _

theorem steady_commitIn : Steady (commitIn name) :=
  .look (fun _ => rfl) fun _ => .seq (.same _) fun _ => .seq (steady_commit _) fun _ =>
    steady_setState name _

theorem steady_rollbackIn : Steady (rollbackIn name) :=
  .look (fun _ => rfl) fun _ => .seq (.same _) fun _ => .seq (steady_rollback _) fun _ =>
    steady_setState name _

theorem steady_takeConnection : Steady (takeConnection engine name) :=
  .seq (steady_acquire engine) fun _ => .seq (.update fun _ => rfl) fun _ => .same _

theorem steady_giveBack : Steady (giveBack name) := by
  refine .look (fun _ => rfl) fun session => ?_
  cases session.held.get? name with
  | none => exact .same _
  | some handle => exact .seq (steady_release handle) fun _ => .same _

end Transactions

section Executors

variable (engine : Engine) (executor : Executor)

theorem alike_executeIn (name : String) {query other : Query} (h : query.SameText other) :
    Alike Eq (executeIn engine name query) (executeIn engine name other) :=
  .look (fun _ => rfl) fun _ => .seq (.same _) fun _ => alike_executeOn engine _ h

theorem alike_executeBy {query other : Query} (h : query.SameText other) :
    Alike Eq (executeBy engine executor query) (executeBy engine executor other) := by
  cases executor with
  | none => exact alike_executeQuery engine h
  | some name => exact alike_executeIn engine name h

theorem alike_rawQueryBy (template : String) {named other : Row}
    (h : ∀ name, (named.get? name).map Value.shape = (other.get? name).map Value.shape) :
    Alike Eq (rawQueryBy engine executor template named)
      (rawQueryBy engine executor template other) := by
  have hbind := bind_matched h template
  cases executor with
  | none => exact .bind (.done hbind) fun _ _ hquery => alike_executeQuery engine hquery
  | some name => exact .bind (.done hbind) fun _ _ hquery => alike_executeIn engine name hquery

end Executors

end Blocking

/-! ## Steps -/

/-- The same method, with statements of the same shape. -/
def Method.SameShape : Method → Method → Prop
  | find conditions, find others => Row.shape conditions = Row.shape others
  | findOne conditions, findOne others => Row.shape conditions = Row.shape others
  | count conditions, count others => Row.shape conditions = Row.shape others
  | create records, create others => GivenRecords.keys records = GivenRecords.keys others
  | update assignments conditions, update assignments' conditions' =>
    Row.shape assignments = Row.shape assignments' ∧ Row.shape conditions = Row.shape conditions'
  | delete conditions, delete others => Row.shape conditions = Row.shape others
  | _, _ => False

namespace Method

theorem SameShape.statement {method other : Method} (h : method.SameShape other) :
    method.statement.SameShape other.statement := by
  cases method <;> cases other <;> try exact h.elim
  all_goals exact h

theorem SameShape.answer {method other : Method} (h : method.SameShape other) (table : Table)
    (rows : List (Option ResultRow)) : method.answer table rows = other.answer table rows := by
  cases method <;> cases other <;> try exact h.elim
  all_goals rfl

end Method

/-- The same step but for the values that it binds. Columns have no properties, which may look at
what they write. -/
inductive Step.SameShape : Step → Step → Prop
  | same (step : Step) : SameShape step step
  | query (executor : Executor) {query other : Query} (h : query.SameText other) :
    SameShape (.query executor query) (.query executor other)
  | rawQuery (executor : Executor) (template : String) {named other : Row}
    (h : ∀ name, (named.get? name).map Value.shape = (other.get? name).map Value.shape) :
    SameShape (.rawQuery executor template named) (.rawQuery executor template other)
  | repository (executor : Executor) (table : TableRef) {method other : Method}
    (h : method.SameShape other) :
    SameShape (.repository executor table Fields.empty method)
      (.repository executor table Fields.empty other)
  | statement (table : TableRef) {statement other : Statement} (h : statement.SameShape other) :
    SameShape (.statement table Fields.empty statement) (.statement table Fields.empty other)

/-- The steps that hand a statement back instead of executing it. -/
def Step.isStatement : Step → Bool
  | .statement _ _ _ => true
  | _ => false

namespace Blocking

section Steps

variable (engine : Engine)

theorem alike_useTable (executor : Executor) (table : Table) (properties : Properties)
    {method other : Method}
    (hquery : Matched Query.SameText (method.statement.query table properties).outcome
      (other.statement.query table properties).outcome)
    (hanswer : ∀ rows, method.answer table rows = other.answer table rows) :
    Alike Eq (useTable (executeBy engine executor) table properties method)
      (useTable (executeBy engine executor) table properties other) := by
  refine .bind (.done hquery) fun query query' hsame => ?_
  refine .seq (alike_executeBy engine executor hsame) fun rows => ?_
  rw [hanswer]
  exact .same _

theorem steady_step (taken : Step) : Steady (step engine taken) := by
  cases taken with
  | query executor query =>
    exact .seq (alike_executeBy engine executor ⟨rfl, rfl⟩) fun _ => .same _
  | rawQuery executor template named =>
    exact .seq (alike_rawQueryBy engine executor template fun _ => rfl) fun _ => .same _
  | repository executor table properties method =>
    refine .seq (.same _) fun table => .seq ?_ fun _ => .same _
    refine alike_useTable engine executor table properties ?_ fun _ => rfl
    exact (Matched.refl _).mono fun query other heq => heq ▸ ⟨rfl, rfl⟩
  | statement table properties statement =>
    exact .seq (.same _) fun _ => .seq (.same _) fun _ => .same _
  | resolve table => exact .seq (.same _) fun _ => .same _
  | catalog => exact .same _
  | begin name => exact .seq (.update fun _ => rfl) fun _ => .same _
  | enter name => exact .seq (steady_enter engine name) fun _ => .same _
  | leave name reason => exact .seq (steady_leave name reason) fun _ => .same _
  | commit name => exact .seq (steady_commitIn name) fun _ => .same _
  | rollback name => exact .seq (steady_rollbackIn name) fun _ => .same _
  | acquire name => exact steady_takeConnection engine name
  | release name => exact steady_giveBack name
  | close => exact .seq steady_closePool fun _ => .same _

variable {taken other : Step}

theorem alike_step_of_not_statement (h : taken.SameShape other)
    (hstep : taken.isStatement = false) : Alike Eq (step engine taken) (step engine other) := by
  cases h with
  | same => exact steady_step engine taken
  | query executor hquery =>
    exact .seq (alike_executeBy engine executor hquery) fun rows => .returning rfl
  | rawQuery executor template hnames =>
    exact .seq (alike_rawQueryBy engine executor template hnames) fun rows => .returning rfl
  | repository executor table hmethod =>
    refine .seq (.same _) fun table => ?_
    exact .seq (alike_useTable engine executor table _ (query_matched table hmethod.statement)
      (hmethod.answer table)) fun answer => .returning rfl
  | statement table hstatement => exact absurd hstep Bool.noConfusion

theorem alike_step (h : taken.SameShape other) :
    Alike (fun outcome outcome' => outcome.veiled = outcome'.veiled) (step engine taken)
      (step engine other) := by
  have hsame : ∀ outcome outcome' : Outcome, outcome = outcome' →
      outcome.veiled = outcome'.veiled := fun _ _ => congrArg Outcome.veiled
  have hquiet : taken.isStatement = false → _ := fun hstep =>
    (alike_step_of_not_statement engine h hstep).mono hsame
  cases h with
  | same => exact (steady_step engine taken).mono hsame
  | query => exact hquiet rfl
  | rawQuery => exact hquiet rfl
  | repository => exact hquiet rfl
  | statement table hstatement =>
    refine .seq (.same _) fun table => ?_
    refine .bind (.done (query_matched table hstatement)) fun query query' hsame => ?_
    exact .returning (congrArg Outcome.query (Query.veiled_congr hsame))

end Steps

end Blocking

/-! ## Sessions -/

theorem Report.veiled_ofSessions (outcome : Except Error Outcome) (before after : Session) :
    (Report.ofSessions outcome before after).veiled =
      Report.ofSessions (outcome.map Outcome.veiled) before.veiled after.veiled := by
  simp only [Report.ofSessions, Report.veiled, Session.veiled, List.map_drop, List.length_map]

theorem map_veiled_of_matched {outcome other : Except Error Outcome}
    (h : Matched (fun outcome outcome' => outcome.veiled = outcome'.veiled) outcome other) :
    outcome.map Outcome.veiled = other.map Outcome.veiled := by
  cases h with
  | ok heq => exact congrArg Except.ok heq
  | error error => rfl

namespace Blocking

variable (engine : Engine) {steps others : List Step}

theorem veiled_runAll (h : List.Forall₂ Step.SameShape steps others) {before before' : Session}
    (hveiled : before.veiled = before'.veiled) :
    (runAll engine steps before).map Report.veiled =
      (runAll engine others before').map Report.veiled := by
  induction h generalizing before before' with
  | nil => rfl
  | cons hstep _ ih =>
    obtain ⟨hmatched, hafter⟩ := alike_step engine hstep before before' hveiled
    simp only [runAll, List.map_cons, Report.veiled_ofSessions, map_veiled_of_matched hmatched,
      hveiled, hafter, ih hafter]

theorem outcomes_runAll (h : List.Forall₂ Step.SameShape steps others)
    (hsteps : ∀ step ∈ steps, step.isStatement = false) {before before' : Session}
    (hveiled : before.veiled = before'.veiled) :
    (runAll engine steps before).map Report.outcome =
      (runAll engine others before').map Report.outcome := by
  induction h generalizing before before' with
  | nil => rfl
  | cons hstep _ ih =>
    have hfirst := alike_step_of_not_statement engine hstep (hsteps _ List.mem_cons_self)
    obtain ⟨hmatched, hafter⟩ := hfirst before before' hveiled
    have hrest := ih (fun step hmem => hsteps step (List.mem_cons_of_mem _ hmem)) hafter
    simp only [runAll, List.map_cons, Report.ofSessions, hmatched.eq, hrest]

end Blocking

/-! ### Where every step is waited for -/

theorem Step.SameShape.reportAwaited_eq {taken other : Step} (h : taken.SameShape other) :
    taken.reportAwaited = other.reportAwaited := by
  have hawaited : taken.isAwaited = other.isAwaited := by cases h <;> rfl
  funext report
  rw [Step.reportAwaited, Step.reportAwaited, Step.awaited, Step.awaited, hawaited]

theorem Step.veiled_reportAwaited (step : Step) (report : Report) :
    (step.reportAwaited report).veiled = step.reportAwaited report.veiled := by
  unfold Step.reportAwaited Step.awaited Report.veiled
  split
  · cases report.outcome <;> rfl
  · rfl

theorem zipWith_reportAwaited_of_shapes {β : Type} (f : Report → β)
    (hf : ∀ (step : Step) (report report' : Report), f report = f report' →
      f (step.reportAwaited report) = f (step.reportAwaited report'))
    {steps others : List Step} (h : List.Forall₂ Step.SameShape steps others)
    {reports reports' : List Report} (heq : reports.map f = reports'.map f) :
    (List.zipWith Step.reportAwaited steps reports).map f =
      (List.zipWith Step.reportAwaited others reports').map f := by
  induction h generalizing reports reports' with
  | nil => rfl
  | cons hstep _ ih =>
    cases reports with
    | nil =>
      obtain rfl := List.map_eq_nil_iff.1 heq.symm
      rfl
    | cons report reports =>
      obtain ⟨report', reports', rfl, hfirst, hrest⟩ := List.map_eq_cons_iff.1 heq.symm
      rw [List.zipWith_cons_cons, List.zipWith_cons_cons, List.map_cons, List.map_cons,
        hstep.reportAwaited_eq, hf _ report report' hfirst.symm, ih hrest.symm]

/-- Sessions whose steps differ in nothing but the contents of their values cannot be told apart by
their log, by what they ask the driver for but the parameters, by their pool or by their transactions.
Every step comes to the same result or the same error, if it is not itself a statement to look at. -/
theorem reports_of_shapes (engine : Engine) (session : Session) {steps others : List Step}
    (h : List.Forall₂ Step.SameShape steps others) :
    ((Blocking.runAll engine steps session).map Report.veiled =
        (Blocking.runAll engine others session).map Report.veiled ∧
      (Waiting.runAll engine steps session).map Report.veiled =
        (Waiting.runAll engine others session).map Report.veiled) ∧
    ((∀ step ∈ steps, step.isStatement = false) →
      (Blocking.runAll engine steps session).map Report.outcome =
        (Blocking.runAll engine others session).map Report.outcome ∧
      (Waiting.runAll engine steps session).map Report.outcome =
        (Waiting.runAll engine others session).map Report.outcome) := by
  have hveiled := Blocking.veiled_runAll engine h (rfl : session.veiled = session.veiled)
  rw [Waiting.runAll_eq, Waiting.runAll_eq]
  refine ⟨⟨hveiled, zipWith_reportAwaited_of_shapes Report.veiled ?_ h hveiled⟩, fun hsteps => ?_⟩
  · intro step report report' heq
    rw [Step.veiled_reportAwaited, Step.veiled_reportAwaited, heq]
  · have houtcomes := Blocking.outcomes_runAll engine h hsteps (rfl : session.veiled = session.veiled)
    refine ⟨houtcomes, zipWith_reportAwaited_of_shapes Report.outcome ?_ h houtcomes⟩
    exact fun step report report' heq => congrArg step.awaited heq

theorem reports_of_shapes_password :
    let named (secret : String) : Row := Fields.empty.insert "secret" (.text secret)
    let steps (secret : String) : List Step :=
      [.begin "tx", .enter "tx", .query (some "tx") ⟨"SELECT $1", [.text secret]⟩,
        .rawQuery (some "tx") "SELECT :secret" (named secret),
        .repository none (.table ⟨"app", "users"⟩) Fields.empty
          (.update (named secret) (Fields.empty.insert "id" (.list [.int 7, .text secret]))),
        .leave "tx" (some "RuntimeError")]
    let session := Session.start ⟨[], [.nothing, .failure ⟨false, "locked"⟩], [], [], []⟩
    let reports (secret : String) := Blocking.runAll (inMemory 2) (steps secret) session
    (reports "first").map Report.veiled = (reports "second").map Report.veiled ∧
      (reports "first").map Report.outcome = (reports "second").map Report.outcome ∧
      ((reports "first")[3]?.map Report.outcome = some (.error (.queryFailed "SELECT $1"
        "locked" (some (.driver ⟨false, "locked"⟩))))) := by
  intro named steps session reports
  have hshape : List.Forall₂ Step.SameShape (steps "first") (steps "second") := by
    refine .cons (.same _) (.cons (.same _) (.cons (.query _ ⟨rfl, rfl⟩) (.cons (.rawQuery _ _ ?_)
      (.cons (.repository _ _ ?_) (.cons (.same _) .nil)))))
    · intro name
      rw [shape_get?, shape_get?]
      rfl
    · exact ⟨rfl, rfl⟩
  have hsteps : ∀ step ∈ steps "first", step.isStatement = false := by decide
  obtain ⟨⟨hreports, -⟩, houtcomes⟩ := reports_of_shapes (inMemory 2) session hshape
  exact ⟨hreports, (houtcomes hsteps).1, rfl⟩

end ParamSql
