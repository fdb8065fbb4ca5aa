import ParamSql.Proofs.Finishing

/-!
# Verdicts

A query on the engine returns rows just when its commit has succeeded. Whatever else goes wrong with it
on its connection, it is rolled back, and its error names the text of the query and the cause.
-/

namespace ParamSql

open Blocking

/-! ## What can go wrong -/

/-- A failure that the error of a query tells: in which words, and the cause. -/
inductive Fails (engine : Engine) (query : Query) (talk : List Answered) : String → Error → Prop
  | binding {cause : Error} (hbind : query.prepare engine.backend.style = .error cause) :
    Fails engine query talk cause.message cause
  | execute {connection : Nat} {statement : Prepared} {failure : Failure}
      (h : ⟨.execute connection statement, .error failure⟩ ∈ talk) :
    Fails engine query talk (Error.driver failure).message (.driver failure)
  | fetch {connection : Nat} {cursor : Cursor} {failure : Failure}
      (h : ⟨.fetch connection cursor, .error failure⟩ ∈ talk) :
    Fails engine query talk (Error.driver failure).message (.driver failure)
  /-- The rows do not fit the columns. -/
  | rows {connection : Nat} {cursor : Cursor} {cursor? : Option Cursor} {cause : Error}
      (h : ⟨.fetch connection cursor, .ok cursor?⟩ ∈ talk) (hrows : cursor.assemble = .error cause) :
    Fails engine query talk cause.message cause
  | commit {connection : Nat} {failure : Failure}
      (h : ⟨.commit connection, .error failure⟩ ∈ talk) :
    Fails engine query talk ("commit failed: " ++ (Error.driver failure).message) (.driver failure)

/-- The key rule refuses a key of the rows that were fetched. -/
def RefusesKey (engine : Engine) (talk : List Answered) : Prop :=
  ∃ connection cursor cursor? rows error, ⟨.fetch connection cursor, .ok cursor?⟩ ∈ talk ∧
    cursor.assemble = .ok rows ∧ renameRows engine.keyRule rows = .error error

section Fails

variable {engine : Engine} {connection : Nat} {query : Query} {talk more asked : List Answered}
  {last : Answered} {detail : String} {cause error : Error} {rows : List ResultRow}
  {outcome : Except Error (List ResultRow)}

theorem Fails.mono (h : Fails engine query talk detail cause)
    (hmore : ∀ answered ∈ talk, ¬ answered.request.Manages → answered ∈ more) :
    Fails engine query more detail cause := by
  have hother : ∀ {request : Request}, request.isWork = true ∨ request.ending? ≠ none →
      ¬ request.Manages := by
    intro request hrequest hmanages
    simp [hmanages.not_isWork] at hrequest
  cases h with
  | binding hbind => exact .binding hbind
  | execute h => exact .execute (hmore _ h (hother (.inl rfl)))
  | fetch h => exact .fetch (hmore _ h (hother (.inl rfl)))
  | rows h hrows => exact .rows (hmore _ h (hother (.inl rfl))) hrows
  | commit h => exact .commit (hmore _ h (hother (.inr (Option.some_ne_none _))))

theorem Fails.of_concat (h : Fails engine query (talk ++ [last]) detail cause)
    (hlast : last.request.isWork = false) :
    Fails engine query talk detail cause ∨ ∃ connection failure,
      last = ⟨.commit connection, .error failure⟩ ∧
        detail = "commit failed: " ++ (Error.driver failure).message ∧ cause = .driver failure := by
  have hwork : ∀ {answered : Answered}, answered ∈ talk ++ [last] →
      answered.request.isWork = true → answered ∈ talk := by
    intro answered hmem hisWork
    refine (List.mem_append.1 hmem).resolve_right fun hmem => ?_
    obtain rfl := List.mem_singleton.1 hmem
    cases hlast.symm.trans hisWork
  cases h with
  | binding hbind => exact .inl (.binding hbind)
  | execute h => exact .inl (.execute (hwork h rfl))
  | fetch h => exact .inl (.fetch (hwork h rfl))
  | rows h hrows => exact .inl (.rows (hwork h rfl) hrows)
  | commit h =>
    rcases List.mem_append.1 h with h | h
    · exact .inl (.commit h)
    · exact .inr ⟨_, _, (List.mem_singleton.1 h).symm, rfl, rfl⟩

theorem Runs.fails (h : Runs engine connection query asked (.error cause)) :
    Fails engine query asked cause.message cause := by
  cases h with
  | unbound hbind => exact .binding hbind
  | refused hbind => exact .execute List.mem_cons_self
  | unfetched hbind => exact .fetch (List.mem_cons_of_mem _ List.mem_cons_self)
  | fetched hbind hrows => exact .rows (List.mem_cons_of_mem _ List.mem_cons_self) hrows

theorem Runs.of_fails (h : Runs engine connection query asked outcome)
    (hfails : Fails engine query asked detail cause) :
    outcome = .error cause ∧ detail = cause.message := by
  have huses := h.uses
  cases hfails with
  | binding hbind' =>
    cases h with
    | unbound hbind =>
      obtain rfl := Except.error.inj (hbind.symm.trans hbind')
      exact ⟨rfl, rfl⟩
    | _ hbind => cases hbind.symm.trans hbind'
  | execute hmem =>
    -- The driver fails to execute in one case only; in all others it answers, or is not asked.
    cases h with
    | unbound hbind => nomatch hmem
    | refused hbind =>
      cases hmem with
      | head => exact ⟨rfl, rfl⟩
      | tail _ hmem => nomatch hmem
    | silent hbind => nomatch hmem
    | unfetched hbind => nomatch hmem
    | fetched hbind hrows => nomatch hmem
  | fetch hmem =>
    cases h with
    | unbound hbind => nomatch hmem
    | refused hbind => nomatch hmem
    | silent hbind => nomatch hmem
    | unfetched hbind =>
      cases hmem with
      | tail _ hmem =>
        cases hmem with
        | head => exact ⟨rfl, rfl⟩
        | tail _ hmem => nomatch hmem
    | fetched hbind hrows => nomatch hmem
  | rows hmem hrows' =>
    cases h with
    | unbound hbind => nomatch hmem
    | refused hbind => nomatch hmem
    | silent hbind => nomatch hmem
    | unfetched hbind => nomatch hmem
    | fetched hbind hrows =>
      -- The rows that were fetched are those that do not fit.
      cases hmem with
      | tail _ hmem =>
        cases hmem with
        | head => exact ⟨hrows.symm.trans hrows', rfl⟩
        | tail _ hmem => nomatch hmem
  | commit hmem => exact (huses _ hmem).elim

theorem Runs.refusesKey (h : Runs engine connection query asked (.ok rows))
    (hrename : renameRows engine.keyRule rows = .error error) : RefusesKey engine asked := by
  cases h with
  | silent hbind =>
    cases hrule : engine.keyRule with
    | none => cases hrule ▸ hrename
    | some rule => cases hrule ▸ hrename
  | fetched hbind hrows =>
    exact ⟨_, _, _, _, _, List.mem_cons_of_mem _ List.mem_cons_self, hrows, hrename⟩

/-- There is a reason for an error. -/
def Explains (engine : Engine) (query : Query) (talk : List Answered) : Prop :=
  (∃ detail cause, Fails engine query talk detail cause) ∨ RefusesKey engine talk

theorem Explains.mono (h : Explains engine query talk) (hmore : ∀ answered ∈ talk, answered ∈ more) :
    Explains engine query more := by
  obtain ⟨detail, cause, hfails⟩ | ⟨_, _, _, _, _, hfetch, hrows, hrename⟩ := h
  · exact .inl ⟨detail, cause, hfails.mono fun answered hmem _ => hmore answered hmem⟩
  · exact .inr ⟨_, _, _, _, _, hmore _ hfetch, hrows, hrename⟩

theorem Undone.explained (h : Undone engine connection query asked error) :
    Explains engine query asked := by
  cases h with
  | failed hruns => exact .inl ⟨_, _, hruns.fails⟩
  | uncommitted hruns => exact .inl ⟨_, _, .commit List.mem_concat_self⟩
  | refused hruns hrename herror => exact .inr (hruns.refusesKey hrename)

theorem Undone.of_fails (h : Undone engine connection query asked error)
    (hfails : Fails engine query asked detail cause) :
    error = .queryFailed query.text detail (some cause) := by
  cases h with
  | failed hruns =>
    obtain ⟨hcause, rfl⟩ := hruns.of_fails hfails
    obtain rfl := Except.error.inj hcause
    rfl
  | uncommitted hruns =>
    obtain hfails | ⟨_, _, hlast, rfl, rfl⟩ := hfails.of_concat rfl
    · cases (hruns.of_fails hfails).1
    · cases hlast
      rfl
  | refused hruns hrename herror => cases (hruns.of_fails hfails).1

end Fails

/-! ## What was counted -/

def Request.isExecute : Request → Bool
  | .execute _ _ => true
  | _ => false

def executions (talk : List Answered) : Nat := talk.countP (·.request.isExecute)

/-- How often a commit or a rollback was asked for. -/
def endings (ending : Ending) (talk : List Answered) : Nat :=
  talk.countP fun answered => answered.request.ending? == some ending

section Counts

variable {engine : Engine} {connection : Nat} {query : Query} {talk more asked : List Answered}
  {ending : Ending} {error : Error} {rows : List ResultRow} {outcome : Except Error (List ResultRow)}

theorem executions_append : executions (talk ++ more) = executions talk + executions more :=
  List.countP_append

theorem endings_append : endings ending (talk ++ more) = endings ending talk + endings ending more :=
  List.countP_append

theorem endings_eq_zero (h : ∀ answered ∈ talk, answered.request.ending? = none) :
    endings ending talk = 0 := by
  refine List.countP_eq_zero.2 fun answered hmem => ?_
  rw [h answered hmem]
  exact Bool.false_ne_true

theorem not_ended (h : ∀ answered ∈ talk, answered.request.ending? = none) :
    ∀ answered ∈ talk, ¬ answered.Ended ending :=
  fun answered hmem hended => Option.some_ne_none _ (hended.1.symm.trans (h answered hmem))

theorem executions_of_manages (h : ∀ answered ∈ talk, answered.request.Manages) :
    executions talk = 0 := by
  refine List.countP_eq_zero.2 fun answered hmem hexecute => ?_
  have hwork := (h answered hmem).not_isWork.1
  obtain ⟨request, answer⟩ := answered
  cases request
  case execute => cases hwork
  all_goals cases hexecute

theorem Runs.endings (h : Runs engine connection query asked outcome) :
    ∀ answered ∈ asked, answered.request.ending? = none :=
  fun answered hmem => (h.uses answered hmem).isWork.2

theorem Runs.executions (h : Runs engine connection query asked (.ok rows)) :
    executions asked = 1 := by
  cases h with
  | silent hbind => rfl
  | fetched hbind hrows => rfl

theorem Undone.endings (h : Undone engine connection query asked error) :
    (∀ answered ∈ asked, ¬ answered.Ended .commit) ∧ endings .rollback asked = 0 := by
  cases h with
  | failed hruns => exact ⟨not_ended hruns.endings, endings_eq_zero hruns.endings⟩
  | uncommitted hruns =>
    refine ⟨List.forall_mem_append.2 ⟨not_ended hruns.endings, ?_⟩, ?_⟩
    · rintro answered hmem ⟨-, cursor?, hanswer⟩
      obtain rfl := List.mem_singleton.1 hmem
      cases hanswer
    · rw [endings_append, endings_eq_zero hruns.endings]
      rfl
  | refused hruns hrename herror => exact ⟨not_ended hruns.endings, endings_eq_zero hruns.endings⟩

end Counts

/-! ## The whole call -/

/-- What comes of a query on the connection it got, and all that was asked of the driver. -/
structure Decided (engine : Engine) (handle : Handle) (query : Query) (talk : List Answered)
    (outcome : Except Error (List ResultRow)) : Prop where
  /-- No other connection is used. -/
  served : ∀ answered ∈ talk, answered.request.Manages ∨ answered.request.Serves handle
  returns_iff : (∃ rows, outcome = .ok rows) ↔ ∃ answered ∈ talk, answered.Ended .commit
  once : ∀ rows, outcome = .ok rows →
    executions talk = 1 ∧ endings .commit talk = 1 ∧ endings .rollback talk = 0
  undone : ∀ connection detail cause, handle = some connection →
    Fails engine query talk detail cause →
    (∀ answer, ⟨.rollback connection, answer⟩ ∈ talk → ∃ cursor?, answer = .ok cursor?) →
      endings .rollback talk = 1 ∧ outcome = .error (.queryFailed query.text detail (some cause))
  /-- There is no other reason to fail. -/
  explained : ∀ error, outcome = .error error → handle = none ∨ Explains engine query talk

section Decided

variable {engine : Engine} {connection : Nat} {handle : Handle} {query : Query}
  {opening asked : List Answered} {outcome : Except Error (List ResultRow)}

theorem Verdict.returns_iff (h : Verdict engine connection query asked outcome) :
    (∃ rows, outcome = .ok rows) ↔ ∃ answered ∈ asked, answered.Ended .commit := by
  have hnone : ∀ {asked : List Answered} {error : Error} {answer : Except Failure (Option Cursor)},
      Undone engine connection query asked error →
        ¬ ∃ answered ∈ asked ++ [⟨.rollback connection, answer⟩], answered.Ended .commit := by
    rintro asked error answer hundone ⟨answered, hmem, hended⟩
    rcases List.mem_append.1 hmem with hmem | hmem
    · exact hundone.endings.1 answered hmem hended
    · obtain rfl := List.mem_singleton.1 hmem
      cases hended.1
  cases h with
  | returns hruns hrename => exact iff_of_true ⟨_, rfl⟩ ⟨_, List.mem_concat_self, rfl, _, rfl⟩
  | raises hundone => exact iff_of_false (fun ⟨_, h⟩ => nomatch h) (hnone hundone)
  | stuck hundone => exact iff_of_false (fun ⟨_, h⟩ => nomatch h) (hnone hundone)
  | refuses hruns hrename herror =>
    exact iff_of_false (fun ⟨_, h⟩ => nomatch h) fun ⟨answered, hmem, hended⟩ =>
      not_ended hruns.endings answered hmem hended

theorem Verdict.once {rows : List ResultRow}
    (h : Verdict engine connection query asked (.ok rows)) :
    executions asked = 1 ∧ endings .commit asked = 1 ∧ endings .rollback asked = 0 := by
  cases h with
  | returns hruns hrename =>
    refine ⟨?_, ?_, ?_⟩
    · rw [executions_append, hruns.executions]
      rfl
    · rw [endings_append, endings_eq_zero hruns.endings]
      rfl
    · rw [endings_append, endings_eq_zero hruns.endings]
      rfl

theorem Verdict.undone (h : Verdict engine connection query asked outcome) {detail : String}
    {cause : Error} (hfails : Fails engine query asked detail cause)
    (hrollback : ∀ answer, ⟨.rollback connection, answer⟩ ∈ asked → ∃ cursor?, answer = .ok cursor?) :
    endings .rollback asked = 1 ∧ outcome = .error (.queryFailed query.text detail (some cause)) := by
  cases h with
  | returns hruns hrename =>
    obtain hfails | ⟨_, _, hlast, -, -⟩ := hfails.of_concat rfl
    · cases (hruns.of_fails hfails).1
    · cases hlast
  | raises hundone =>
    obtain hfails | ⟨_, _, hlast, -, -⟩ := hfails.of_concat rfl
    · rw [endings_append, hundone.endings.2, hundone.of_fails hfails]
      exact ⟨rfl, rfl⟩
    · cases hlast
  | stuck hundone =>
    obtain ⟨cursor?, hanswer⟩ := hrollback _ List.mem_concat_self
    cases hanswer
  | refuses hruns hrename herror => cases (hruns.of_fails hfails).1

theorem Verdict.explained {error : Error}
    (h : Verdict engine connection query asked (.error error)) : Explains engine query asked := by
  cases h with
  | raises hundone => exact hundone.explained.mono fun _ => List.mem_append_left _
  | stuck hundone => exact hundone.explained.mono fun _ => List.mem_append_left _
  | refuses hruns hrename herror => exact .inr (hruns.refusesKey hrename)

theorem Verdict.decided (h : Verdict engine connection query asked outcome)
    (hopening : ∀ answered ∈ opening, answered.request.Manages) :
    Decided engine (some connection) query (opening ++ asked) outcome where
  served := List.forall_mem_append.2 ⟨fun answered hmem => .inl (hopening answered hmem),
    fun answered hmem => .inr (h.finishes.served answered hmem)⟩
  returns_iff := by
    rw [h.returns_iff]
    refine ⟨fun ⟨answered, hmem, hended⟩ => ⟨answered, List.mem_append_right _ hmem, hended⟩, ?_⟩
    rintro ⟨answered, hmem, hended⟩
    refine ⟨answered, (List.mem_append.1 hmem).resolve_left fun hmem => ?_, hended⟩
    cases hended.1.symm.trans (hopening answered hmem).not_isWork.2
  once := by
    rintro rows rfl
    have hnone : ∀ ending, endings ending opening = 0 := fun ending =>
      endings_eq_zero fun answered hmem => (hopening answered hmem).not_isWork.2
    simpa only [executions_append, endings_append, executions_of_manages hopening, hnone,
      Nat.zero_add] using h.once
  undone := by
    intro other detail cause hconnection hfails hrollback
    obtain rfl := Option.some.inj hconnection
    have hfails' : Fails engine query asked detail cause := hfails.mono fun answered hmem hother =>
      (List.mem_append.1 hmem).resolve_left fun hmem => hother (hopening answered hmem)
    have hnone : endings .rollback opening = 0 :=
      endings_eq_zero fun answered hmem => (hopening answered hmem).not_isWork.2
    rw [endings_append, hnone, Nat.zero_add]
    exact h.undone hfails' fun answer hmem => hrollback answer (List.mem_append_right _ hmem)
  explained := by
    rintro error rfl
    exact .inr (h.explained.mono fun _ => List.mem_append_right _)

theorem decided_of_no_connection (hopening : ∀ answered ∈ opening, answered.request.Manages)
    {error : Error} : Decided engine none query opening (.error error) where
  served := fun answered hmem => .inl (hopening answered hmem)
  returns_iff := by
    refine iff_of_false (fun ⟨_, h⟩ => nomatch h) ?_
    rintro ⟨answered, hmem, hended⟩
    cases hended.1.symm.trans (hopening answered hmem).not_isWork.2
  once := fun _ h => nomatch h
  undone := fun _ _ _ h => nomatch h
  explained := fun _ _ => .inl rfl

theorem Decided.seen {talk : List Answered} (h : Decided engine handle query talk outcome)
    (manner : Manner) : Decided engine handle query talk (manner.seen outcome) where
  served := h.served
  returns_iff := by
    rw [← h.returns_iff]
    exact exists_congr fun rows => manner.seen_eq_ok_iff
  once := fun rows hrows => h.once rows (manner.seen_eq_ok_iff.1 hrows)
  undone := by
    intro connection detail cause hhandle hfails hrollback
    obtain ⟨honce, rfl⟩ := h.undone connection detail cause hhandle hfails hrollback
    exact ⟨honce, manner.seen_of_plain (.error rfl)⟩
  explained := by
    intro error herror
    obtain ⟨cause, hcause⟩ := manner.error_of_seen herror
    exact h.explained cause hcause

end Decided

/-- A query returns rows just when its commit has succeeded, after one execution and with no rollback.
If it fails on its connection, it is rolled back once, and its error tells its text and the cause. The
connection goes back to the pool, and with no connection nothing is executed. -/
theorem returns_iff_committed (manner : Manner) (engine : Engine) (query : Query)
    (session : Session) :
    let result :=
      manner.run (Blocking.executeQuery engine query) (Waiting.executeQuery engine query) session
    match manner.run (Blocking.acquire engine) (Waiting.acquire engine) session with
    | (.error error, after) =>
      result = (.error error, after) ∧ ∀ answered ∈ session.talk after, answered.request.Manages
    | (.ok handle, borrowed) =>
      result.2.pool = { borrowed.pool with idle := handle :: borrowed.pool.idle } ∧
        Decided engine handle query (session.talk result.2) result.1 := by
  intro result
  have hresult : result = _ :=
    manner.run_of_mirrors (Waiting.mirrors_executeQuery engine query) session
  rw [hresult, manner.run_of_agrees (Waiting.agrees_acquire engine)]
  have hplain := (Waiting.agrees_acquire engine).plain session
  have hexecutes : Executes engine query session ((executeQuery engine query).run session) :=
    executes engine query session
  generalize (executeQuery engine query).run session = executed at hexecutes
  cases hexecutes with
  | notAcquired hacquired =>
    have hacquires := acquires engine session
    rw [hacquired] at hacquires hplain ⊢
    exact ⟨congrArg (·, _) (manner.seen_of_plain (.error (hplain _ rfl))), hacquires.manages⟩
  | onNothing hacquired hpool hmanages =>
    rw [hacquired]
    exact ⟨hpool, (decided_of_no_connection hmanages).seen manner⟩
  | onConnection hacquired hpool htalk hmanages hverdict =>
    rw [hacquired]
    refine ⟨hpool, ?_⟩
    rw [htalk]
    exact (hverdict.decided hmanages).seen manner

theorem returns_iff_committed_locked :
    let locked : Failure := ⟨false, "locked"⟩
    let session := Session.start ⟨[], [], [some locked], [], []⟩
    let result := (Blocking.executeQuery (inMemory 1) ⟨"delete from t", []⟩).run session
    result.1 = .error (.queryFailed "delete from t" "commit failed: locked" (some (.driver locked))) ∧
      endings .rollback (session.talk result.2) = 1 ∧ result.2.pool.idle = [some 1] := by
  intro locked session result
  obtain ⟨hpool, hdecided⟩ : _ ∧ Decided (inMemory 1) (some 1) ⟨"delete from t", []⟩
      (session.talk result.2) result.1 :=
    returns_iff_committed .blocking (inMemory 1) ⟨"delete from t", []⟩ session
  have htalk : session.talk result.2 = [⟨(inMemory 1).opening session, .ok none⟩,
      ⟨.execute 1 ⟨"delete from t", []⟩, .ok none⟩, ⟨.commit 1, .error locked⟩,
      ⟨.rollback 1, .ok none⟩] := rfl
  rw [htalk] at hdecided ⊢
  obtain ⟨hrollback, houtcome⟩ := hdecided.undone 1 _ _ rfl
    (.commit (List.mem_cons_of_mem _ (List.mem_cons_of_mem _ List.mem_cons_self)))
    fun answer hmem => ⟨none, by simpa [Engine.opening] using hmem⟩
  exact ⟨houtcome, hrollback, congrArg Pool.idle hpool⟩

end ParamSql
