import ParamSql.Proofs.Lifecycle

/-!
# Executions

All that a query on the engine can come to, case by case: what it asks of its driver, and what its
caller is told.
-/

namespace ParamSql

open Blocking

/-! ## One request more -/

theorem Session.wire_told (session : Session) (events : List Event) :
    (session.told events).wire = session.wire.after events := rfl

theorem Session.told_ask (session : Session) (events : List Event) (request : Request) :
    (session.told events).ask request = session.told (events ++ [.asked request]) :=
  session.told_told events [.asked request]

theorem Wire.answered_concat (wire : Wire) (events : List Event) (request : Request) :
    wire.answered (events ++ [.asked request]) =
      wire.answered events ++ [⟨request, (wire.after events).answer request⟩] := by
  rw [answered_append]
  rfl

/-! ## Before the commit -/

/-- What a query asks on its connection before the commit, and what comes of it. -/
inductive Runs (engine : Engine) (connection : Nat) (query : Query) :
    List Answered → Except Error (List ResultRow) → Prop
  | unbound {cause : Error} (hbind : query.prepare engine.backend.style = .error cause) :
    Runs engine connection query [] (.error cause)
  | refused {statement : Prepared} {failure : Failure}
      (hbind : query.prepare engine.backend.style = .ok statement) :
    Runs engine connection query [⟨.execute connection statement, .error failure⟩]
      (.error (.driver failure))
  | silent {statement : Prepared} (hbind : query.prepare engine.backend.style = .ok statement) :
    Runs engine connection query [⟨.execute connection statement, .ok none⟩] (.ok [])
  | unfetched {statement : Prepared} {cursor : Cursor} {failure : Failure}
      (hbind : query.prepare engine.backend.style = .ok statement) :
    Runs engine connection query
      [⟨.execute connection statement, .ok (some cursor)⟩,
        ⟨.fetch connection cursor, .error failure⟩]
      (.error (.driver failure))
  | fetched {statement : Prepared} {cursor : Cursor} {cursor? : Option Cursor}
      {outcome : Except Error (List ResultRow)}
      (hbind : query.prepare engine.backend.style = .ok statement)
      (hrows : cursor.assemble = outcome) :
    Runs engine connection query
      [⟨.execute connection statement, .ok (some cursor)⟩, ⟨.fetch connection cursor, .ok cursor?⟩]
      outcome

theorem runs_runQuery (engine : Engine) (connection : Nat) (query : Query) (session : Session) :
    let result := (runQuery engine (some connection) query).run session
    ∃ events, result.2 = session.told events ∧
      Runs engine connection query (session.wire.answered events) result.1 := by
  unfold runQuery
  simp only [execute, connectionOf, run_bind, run_done]
  cases hbind : query.prepare engine.backend.style with
  | error cause => exact ⟨[], rfl, .unbound hbind⟩
  | ok statement =>
    have hexecuted : session.wire.answered [.asked (.execute connection statement)] =
        [⟨.execute connection statement, session.wire.answer (.execute connection statement)⟩] := rfl
    simp only [run_call]
    cases hanswer : session.wire.answer (.execute connection statement) with
    | error failure =>
      refine ⟨[.asked (.execute connection statement)], rfl, ?_⟩
      rw [hexecuted, hanswer]
      exact .refused hbind
    | ok cursor? =>
      cases cursor? with
      | none =>
        refine ⟨[.asked (.execute connection statement)], rfl, ?_⟩
        rw [hexecuted, hanswer]
        exact .silent hbind
      | some cursor =>
        simp only [Except.mapError, fetch, connectionOf, run_bind, run_done, run_call]
        refine ⟨[.asked (.execute connection statement)] ++ [.asked (.fetch connection cursor)], ?_⟩
        rw [Wire.answered_concat, hexecuted, hanswer]
        have hfetch : (session.wire.after [.asked (.execute connection statement)]).answer
            (.fetch connection cursor) =
          (session.ask (.execute connection statement)).wire.answer (.fetch connection cursor) := rfl
        rw [hfetch]
        cases (session.ask (.execute connection statement)).wire.answer
            (.fetch connection cursor) with
        | error failure => exact ⟨rfl, .unfetched hbind⟩
        | ok cursor? => exact ⟨rfl, .fetched hbind rfl⟩

theorem Runs.uses {engine : Engine} {connection : Nat} {query : Query} {asked : List Answered}
    {outcome : Except Error (List ResultRow)} (h : Runs engine connection query asked outcome) :
    ∀ answered ∈ asked, answered.request.Uses (some connection) := by
  cases h with
  | unbound hbind => exact fun _ hmem => nomatch hmem
  | refused hbind => exact List.forall_mem_singleton.2 rfl
  | silent hbind => exact List.forall_mem_singleton.2 rfl
  | unfetched hbind => exact List.forall_mem_cons.2 ⟨rfl, List.forall_mem_singleton.2 rfl⟩
  | fetched hbind hrows => exact List.forall_mem_cons.2 ⟨rfl, List.forall_mem_singleton.2 rfl⟩

/-- The error of a query that failed before its commit. -/
def Query.failed (query : Query) (cause : Error) : Error :=
  .queryFailed query.text cause.message (some cause)

theorem run_executeOn (engine : Engine) (handle : Handle) (query : Query) (session : Session) :
    (executeOn engine handle query).run session =
      let result := (runQuery engine handle query).run (session.record (.debug query.executingLine))
      (match result.1 with
        | .ok rows => renameRows engine.keyRule rows
        | .error cause => .error (query.failed cause), result.2) := by
  simp only [executeOn, run_bind, run_record, run_attempt]
  cases ((runQuery engine handle query).run
      (session.record (.debug query.executingLine))).1 with
  | ok rows => rfl
  | error cause => rfl

/-! ## Up to the verdict -/

theorem run_rollback (connection : Nat) (session : Session) :
    (rollback (some connection)).run session =
      (((session.wire.answer (.rollback connection)).mapError .driver).map fun _ => (),
        session.ask (.rollback connection)) := by
  simp only [rollback, connectionOf, run_bind, run_done, run_call]
  cases session.wire.answer (.rollback connection) <;> rfl

/-- The error of a query whose commit the driver refused. -/
def Query.commitFailed (query : Query) (failure : Failure) : Error :=
  .queryFailed query.text ("commit failed: " ++ (Error.driver failure).message)
    (some (.driver failure))

theorem run_commitQuery (connection : Nat) (query : Query) (session : Session) :
    (commitQuery (some connection) query).run session =
      (((session.wire.answer (.commit connection)).mapError query.commitFailed).map fun _ => (),
        session.ask (.commit connection)) := by
  simp only [commitQuery, commit, connectionOf, run_bind, run_attempt, run_done, run_call]
  cases session.wire.answer (.commit connection) <;> rfl

/-- A query that is to be rolled back: what it has asked, and its error. -/
inductive Undone (engine : Engine) (connection : Nat) (query : Query) :
    List Answered → Error → Prop
  | failed {asked : List Answered} {cause : Error}
      (hruns : Runs engine connection query asked (.error cause)) :
    Undone engine connection query asked (query.failed cause)
  | uncommitted {asked : List Answered} {rows : List ResultRow} {failure : Failure}
      (hruns : Runs engine connection query asked (.ok rows)) :
    Undone engine connection query (asked ++ [⟨.commit connection, .error failure⟩])
      (query.commitFailed failure)
  /-- The key rule has refused a key with an error like that of a failed query. -/
  | refused {asked : List Answered} {rows : List ResultRow} {error : Error}
      (hruns : Runs engine connection query asked (.ok rows))
      (hrename : renameRows engine.keyRule rows = .error error)
      (herror : error.isQueryFailure = true) :
    Undone engine connection query asked error

/-- All that a query asks on its connection, and what its caller is told. -/
inductive Verdict (engine : Engine) (connection : Nat) (query : Query) :
    List Answered → Except Error (List ResultRow) → Prop
  | returns {asked : List Answered} {rows renamed : List ResultRow} {cursor? : Option Cursor}
      (hruns : Runs engine connection query asked (.ok rows))
      (hrename : renameRows engine.keyRule rows = .ok renamed) :
    Verdict engine connection query (asked ++ [⟨.commit connection, .ok cursor?⟩]) (.ok renamed)
  | raises {asked : List Answered} {error : Error} {cursor? : Option Cursor}
      (hundone : Undone engine connection query asked error) :
    Verdict engine connection query (asked ++ [⟨.rollback connection, .ok cursor?⟩]) (.error error)
  | stuck {asked : List Answered} {error : Error} {failure : Failure}
      (hundone : Undone engine connection query asked error) :
    Verdict engine connection query (asked ++ [⟨.rollback connection, .error failure⟩])
      (.error (.driver failure))
  | refuses {asked : List Answered} {rows : List ResultRow} {error : Error}
      (hruns : Runs engine connection query asked (.ok rows))
      (hrename : renameRows engine.keyRule rows = .error error)
      (herror : error.isQueryFailure = false) :
    Verdict engine connection query asked (.error error)

section Connection

variable {engine : Engine} {connection : Nat} {query : Query} {session : Session}
  {events : List Event} {asked : List Answered} {error : Error}

theorem verdict_of_undone (hanswered : session.wire.answered events = asked)
    (hundone : Undone engine connection query asked error) :
    let result := (rollback (some connection) >>= fun _ => raise error).run (session.told events)
    ∃ more, result.2 = session.told more ∧
      Verdict engine connection query (session.wire.answered more)
        (result.1 : Except Error (List ResultRow)) := by
  intro result
  refine ⟨events ++ [.asked (.rollback connection)], ?_⟩
  have hresult : result = _ := run_bind _ _ _
  rw [hresult, run_rollback, Session.told_ask, Wire.answered_concat, hanswered,
    ← session.wire_told]
  cases (session.told events).wire.answer (.rollback connection) with
  | error failure => exact ⟨rfl, .stuck hundone⟩
  | ok cursor? => exact ⟨rfl, .raises hundone⟩

theorem verdict_executeOrUndo (engine : Engine) (connection : Nat) (query : Query)
    (session : Session) :
    let result := (executeOrUndo engine (some connection) query).run session
    ∃ events, result.2 = session.told events ∧
      Verdict engine connection query (session.wire.answered events) result.1 := by
  obtain ⟨events, hafter, hruns⟩ := runs_runQuery engine connection query
    (session.record (.debug query.executingLine))
  have hruns' : Runs engine connection query
      (session.wire.answered (.debug query.executingLine :: events)) _ := hruns
  have htold : (session.record (.debug query.executingLine)).told events =
      session.told (.debug query.executingLine :: events) := rfl
  unfold executeOrUndo executeAndCommit
  simp only [run_bind, run_attempt, run_executeOn]
  rw [hafter, htold]
  generalize ((runQuery engine (some connection) query).run
    (session.record (.debug query.executingLine))).1 = outcome at hruns'
  cases outcome with
  | error cause => exact verdict_of_undone rfl (.failed hruns')
  | ok rows =>
    dsimp only
    cases hrename : renameRows engine.keyRule rows with
    | error error =>
      dsimp only
      cases herror : error.isQueryFailure with
      | true =>
        rw [if_pos rfl]
        exact verdict_of_undone rfl (.refused hruns' hrename herror)
      | false =>
        rw [if_neg Bool.false_ne_true]
        exact ⟨_, rfl, .refuses hruns' hrename herror⟩
    | ok renamed =>
      dsimp only
      rw [run_commitQuery, Session.told_ask]
      have hcommitted := session.wire.answered_concat (.debug query.executingLine :: events)
        (.commit connection)
      rw [← session.wire_told] at hcommitted
      cases hanswer : (session.told (.debug query.executingLine :: events)).wire.answer
          (.commit connection) with
      | error failure =>
        rw [hanswer] at hcommitted
        exact verdict_of_undone hcommitted (.uncommitted hruns')
      | ok cursor? =>
        rw [hanswer] at hcommitted
        refine ⟨_, rfl, ?_⟩
        rw [hcommitted]
        exact .returns hruns' hrename

end Connection

/-! ## From the pool and back -/

theorem talk_borrowed {session borrowed : Session} {opening : List Event}
    (h : borrowed.wire = session.wire.after opening) (events : List Event) (idle : List Handle) :
    session.talk ((borrowed.told events).setIdle idle) =
      session.talk borrowed ++ borrowed.wire.answered events := by
  have hafter : ((borrowed.told events).setIdle idle).wire = borrowed.wire.after events := rfl
  rw [Session.talk_append h hafter, Session.talk_of_wire hafter]

theorem error_of_no_connection (engine : Engine) (query : Query) (session : Session) :
    ((executeOrUndo engine none query).run session).1 = .error (.noConnection "rollback") := by
  have hrun : ∃ cause, ((runQuery engine none query).run
      (session.record (.debug query.executingLine))).1 = .error cause := by
    unfold runQuery
    simp only [execute, connectionOf, run_bind, run_done]
    cases query.prepare engine.backend.style with
    | error cause => exact ⟨cause, rfl⟩
    | ok statement => exact ⟨_, rfl⟩
  obtain ⟨cause, hcause⟩ := hrun
  unfold executeOrUndo executeAndCommit
  simp only [run_bind, run_attempt, run_executeOn, hcause]
  rfl

/-- What comes of a query on the engine: it gets no connection, or it gets one, works on it and puts it
back. -/
inductive Executes (engine : Engine) (query : Query) (session : Session) :
    Except Error (List ResultRow) × Session → Prop
  | notAcquired {error : Error} {after : Session}
      (hacquired : (acquire engine).run session = (.error error, after)) :
    Executes engine query session (.error error, after)
  /-- The pool has handed out what is no connection. -/
  | onNothing {borrowed after : Session} {error : Error}
      (hacquired : (acquire engine).run session = (.ok none, borrowed))
      (hpool : after.pool = { borrowed.pool with idle := none :: borrowed.pool.idle })
      (hmanages : ∀ answered ∈ session.talk after, answered.request.Manages) :
    Executes engine query session (.error error, after)
  | onConnection {connection : Nat} {borrowed after : Session} {opening asked : List Answered}
      {outcome : Except Error (List ResultRow)}
      (hacquired : (acquire engine).run session = (.ok (some connection), borrowed))
      (hpool : after.pool = { borrowed.pool with idle := some connection :: borrowed.pool.idle })
      (htalk : session.talk after = opening ++ asked)
      (hmanages : ∀ answered ∈ opening, answered.request.Manages)
      (hverdict : Verdict engine connection query asked outcome) :
    Executes engine query session (outcome, after)

theorem executes (engine : Engine) (query : Query) (session : Session) :
    Executes engine query session ((executeQuery engine query).run session) := by
  have hacquires := acquires engine session
  rw [run_executeQuery]
  cases hacquired : (acquire engine).run session with
  | mk outcome borrowed =>
    rw [hacquired] at hacquires
    obtain ⟨opening, hwire, -⟩ := hacquires.wire
    cases outcome with
    | error error => exact .notAcquired hacquired
    | ok handle =>
      dsimp only
      cases handle with
      | none =>
        obtain ⟨events, hafter, hserves⟩ := speaks_executeOrUndo none engine query borrowed
        have hnone : borrowed.wire.answered events = [] := by
          rw [List.eq_nil_iff_forall_not_mem]
          intro answered hmem
          exact Request.not_serves_none (hserves _ (Wire.mem_events_of_mem_answered hmem))
        rw [hafter, error_of_no_connection]
        refine .onNothing hacquired rfl ?_
        rw [talk_borrowed hwire, hnone, List.append_nil]
        exact hacquires.manages
      | some connection =>
        obtain ⟨events, hafter, hverdict⟩ :=
          verdict_executeOrUndo engine connection query borrowed
        rw [hafter]
        exact .onConnection hacquired rfl (talk_borrowed hwire events _) hacquires.manages hverdict

end ParamSql
