import ParamSql.Proofs.Lifecycle

/-!
# Failures of the driver

No failure of the driver is kept from the caller: a step in which a request failed fails itself, and
its error tells of the last request that failed. Some of these errors have the driver's error as
their cause, the others are the driver's error itself.
-/

namespace ParamSql

open Blocking

/-! ## Failed requests -/

def Answered.failed? (answered : Answered) : Option (Request × Failure) :=
  match answered.answer with
  | .ok _ => none
  | .error failure => some (answered.request, failure)

/-- The last request that failed, and its failure. -/
def lastFailed (talk : List Answered) : Option (Request × Failure) :=
  (talk.filterMap Answered.failed?).getLast?

theorem lastFailed_append (talk more : List Answered) :
    lastFailed (talk ++ more) = (lastFailed more).or (lastFailed talk) := by
  rw [lastFailed, List.filterMap_append, List.getLast?_append]
  rfl

theorem lastFailed_singleton (answered : Answered) :
    lastFailed [answered] = answered.failed? := by
  cases h : answered.failed? with
  | none => simp [lastFailed, h]
  | some failed => simp [lastFailed, h]

/-- An error of the library that has the error of the driver as its cause. -/
def Error.Wraps (error : Error) (failure : Failure) : Prop :=
  error.kind?.isSome = true ∧ error.cause? = some (.driver failure)

/-! ## Computations that tell of failures -/

namespace Blocking

variable {α β : Type}

/-- If no request failed, the outcome is `quiet`; else it is an error that tells of the last request
that failed. -/
def TellsFrom (quiet : Except Error α → Prop) (told : Request → Failure → Error → Prop)
    (session : Session) (result : Except Error α × Session) : Prop :=
  ∃ events, result.2.wire = session.wire.after events ∧
    match lastFailed (session.wire.answered events) with
    | none => quiet result.1
    | some (request, failure) => ∃ error, result.1 = .error error ∧ told request failure error

def Tells (quiet : Except Error α → Prop) (told : Request → Failure → Error → Prop)
    (body : Blocking α) : Prop :=
  ∀ session, TellsFrom quiet told session (body.run session)

/-- An error that tells of a failure. -/
def Told (told : Error → Prop) (outcome : Except Error α) : Prop :=
  ∃ error, outcome = .error error ∧ told error

def Succeeds (outcome : Except Error α) : Prop := ∃ value, outcome = .ok value

namespace TellsFrom

variable {quiet : Except Error α → Prop} {told : Request → Failure → Error → Prop}
  {session after : Session} {events : List Event} {result : Except Error α × Session}

theorem earlier (h : TellsFrom quiet told after result)
    (hwire : after.wire = session.wire.after events)
    (hnone : lastFailed (session.wire.answered events) = none) :
    TellsFrom quiet told session result := by
  obtain ⟨more, hmore, hresult⟩ := h
  refine ⟨events ++ more, ?_, ?_⟩
  · rw [Wire.after_append, ← hwire]
    exact hmore
  · rw [Wire.answered_append, lastFailed_append, hnone, Option.or_none, ← hwire]
    exact hresult

theorem of_failed {request : Request} {failure : Failure}
    (h : TellsFrom (Told (told request failure)) told after result)
    (hwire : after.wire = session.wire.after events)
    (hlast : lastFailed (session.wire.answered events) = some (request, failure)) :
    TellsFrom quiet told session result := by
  obtain ⟨more, hmore, hresult⟩ := h
  refine ⟨events ++ more, ?_, ?_⟩
  · rw [Wire.after_append, ← hwire]
    exact hmore
  · rw [Wire.answered_append, lastFailed_append, hlast, ← hwire]
    split at hresult
    · next hnone =>
      rw [hnone]
      exact hresult
    · next later other hlater =>
      rw [hlater]
      exact hresult

end TellsFrom

namespace Tells

variable {quiet : Except Error α → Prop} {told : Request → Failure → Error → Prop}

theorem done {outcome : Except Error α} (h : quiet outcome) : Tells quiet told (done outcome) :=
  fun _ => ⟨[], rfl, h⟩

theorem update {f : Session → Session} (h : ∀ session, (f session).wire = session.wire) :
    Tells Succeeds told (update f) :=
  fun session => ⟨[], h session, (), rfl⟩

theorem current : Tells Succeeds told current := fun session => ⟨[], rfl, session, rfl⟩

theorem debug (line : String) : Tells Succeeds told (record (.debug line)) :=
  fun _ => ⟨[.debug line], rfl, (), rfl⟩

theorem call {request : Request} (h : ∀ failure, told request failure (.driver failure)) :
    Tells Succeeds told (call request) := by
  refine fun session => ⟨[.asked request], rfl, ?_⟩
  have hanswered : session.wire.answered [.asked request] =
      [⟨request, session.wire.answer request⟩] := rfl
  rw [hanswered, lastFailed_singleton, run_call]
  cases hanswer : session.wire.answer request with
  | ok cursor? => exact ⟨cursor?, rfl⟩
  | error failure => exact ⟨_, rfl, h failure⟩

theorem bind {mid : Except Error α → Prop} {quiet : Except Error β → Prop} {first : Blocking α}
    {next : α → Blocking β} (hfirst : Tells mid told first)
    (hnext : ∀ value, mid (.ok value) → Tells quiet told (next value))
    (herror : ∀ error, mid (.error error) → quiet (.error error)) :
    Tells quiet told (first >>= next) := by
  intro session
  obtain ⟨events, hwire, hmid⟩ := hfirst session
  rw [run_bind]
  generalize first.run session = result at hwire hmid
  obtain ⟨error | value, after⟩ := result
  · refine ⟨events, hwire, ?_⟩
    split at hmid
    · exact herror error hmid
    · obtain ⟨other, heq, htold⟩ := hmid
      cases heq
      exact ⟨error, rfl, htold⟩
  · split at hmid
    · next hnone => exact (hnext value hmid after).earlier hwire hnone
    · obtain ⟨error, herror, -⟩ := hmid
      cases herror

theorem catching {mid : Except Error α → Prop} {quiet : Except Error β → Prop}
    {inner : Request → Failure → Error → Prop} {body : Blocking α}
    {next : Except Error α → Blocking β} (hbody : Tells mid inner body)
    (hquiet : ∀ outcome, mid outcome → Tells quiet told (next outcome))
    (htold : ∀ request failure error, inner request failure error →
      Tells (Told (told request failure)) told (next (.error error))) :
    Tells quiet told (attempt body >>= next) := by
  intro session
  obtain ⟨events, hwire, hmid⟩ := hbody session
  rw [run_bind, run_attempt]
  dsimp only
  generalize body.run session = result at hwire hmid
  obtain ⟨outcome, after⟩ := result
  -- Whoever catches an error has to go on telling of the failure that it tells of.
  split at hmid
  · next hnone => exact (hquiet outcome hmid after).earlier hwire hnone
  · next request failure hlast =>
    obtain ⟨error, rfl, hinner⟩ := hmid
    exact (htold request failure error hinner after).of_failed hwire hlast

theorem mono {other : Request → Failure → Error → Prop} {more : Except Error α → Prop}
    {body : Blocking α} (h : Tells quiet told body)
    (hquiet : ∀ outcome, quiet outcome → more outcome)
    (htold : ∀ request failure error, told request failure error → other request failure error) :
    Tells more other body := by
  intro session
  obtain ⟨events, hwire, hrun⟩ := h session
  refine ⟨events, hwire, ?_⟩
  split at hrun
  · exact hquiet _ hrun
  · obtain ⟨error, houtcome, herror⟩ := hrun
    exact ⟨error, houtcome, htold _ _ _ herror⟩

theorem loose {body : Blocking α} (h : Tells quiet told body) : Tells (fun _ => True) told body :=
  h.mono (fun _ _ => trivial) fun _ _ _ => id

theorem result (outcome : Except Error α) : Tells (fun _ => True) told (Blocking.done outcome) :=
  done trivial

theorem sure {quiet : Except Error β → Prop} {first : Blocking α} {next : α → Blocking β}
    (hfirst : Tells Succeeds told first) (hnext : ∀ value, Tells quiet told (next value)) :
    Tells quiet told (first >>= next) := by
  refine hfirst.bind (fun value _ => hnext value) fun error hnone => ?_
  obtain ⟨value, hvalue⟩ := hnone
  cases hvalue

theorem congr {body other : Blocking α} (h : ∀ session, other.run session = body.run session)
    (hbody : Tells quiet told body) : Tells quiet told other := by
  intro session
  rw [h]
  exact hbody session

theorem of_mute {body : Blocking α} (h : Speaks (fun _ => False) body) :
    Tells (fun _ => True) told body := by
  intro session
  obtain ⟨events, hafter, hnone⟩ := h session
  refine ⟨events, by rw [hafter]; rfl, ?_⟩
  have hanswered : session.wire.answered events = [] :=
    List.eq_nil_iff_forall_not_mem.2 fun answered hmem =>
      hnone _ (Wire.mem_events_of_mem_answered hmem)
  rw [hanswered]
  exact trivial

theorem seq {mid : Except Error α → Prop} {first : Blocking α} {next : α → Blocking β}
    (hfirst : Tells mid told first) (hnext : ∀ value, Tells (fun _ => True) told (next value)) :
    Tells (fun _ => True) told (first >>= next) :=
  hfirst.bind (fun value _ => hnext value) fun _ _ => trivial

end Tells

/-! ## On one connection -/

section Connection

variable (handle : Handle)

/-- The error of the driver itself, when it failed at a request of some kind. -/
def Bare (asked : Request → Prop) (request : Request) (failure : Failure) (error : Error) : Prop :=
  asked request ∧ error = .driver failure

theorem tells_execute (statement : Prepared) :
    Tells (fun _ => True) (Bare (·.isWork = true)) (execute handle statement) :=
  .seq (.result _) fun _ => (Tells.call fun _ => ⟨rfl, rfl⟩).loose

theorem tells_fetch (cursor : Cursor) :
    Tells (fun _ => True) (Bare (·.isWork = true)) (fetch handle cursor) :=
  .seq (.result _) fun _ => .seq (.call fun _ => ⟨rfl, rfl⟩) fun _ => .result _

theorem tells_runQuery (engine : Engine) (query : Query) :
    Tells (fun _ => True) (Bare (·.isWork = true)) (runQuery engine handle query) := by
  refine .seq (.result _) fun statement => .seq (tells_execute handle statement) fun cursor? => ?_
  cases cursor? with
  | none => exact .result _
  | some cursor => exact tells_fetch handle cursor

/-- An error of the library that has the error of the driver as its cause. -/
def Wrapping (asked : Request → Prop) (request : Request) (failure : Failure) (error : Error) :
    Prop :=
  asked request ∧ error.Wraps failure

theorem tells_executeOn (engine : Engine) (query : Query) :
    Tells (fun _ => True) (Wrapping (·.isWork = true)) (executeOn engine handle query) := by
  refine .seq (.debug _) fun _ => .catching (tells_runQuery handle engine query)
    (fun outcome _ => ?_) fun request failure error htold => ?_
  · cases outcome with
    | ok rows => exact .result _
    | error error => exact .result _
  · obtain ⟨hasked, rfl⟩ := htold
    exact .done ⟨_, rfl, hasked, rfl, rfl⟩

theorem tells_perform (ending : Ending) :
    Tells (fun _ => True) (Bare (·.ending? = some ending)) (ending.perform handle) := by
  rw [ending.perform_eq]
  exact .seq (.result _) fun connection => .seq
    (.call fun _ => ⟨(ending?_request ending connection).1, rfl⟩) fun _ => .result _

theorem tells_commitQuery (query : Query) :
    Tells (fun _ => True) (Wrapping (·.ending? = some .commit)) (commitQuery handle query) := by
  refine .catching (tells_perform handle .commit) (fun outcome _ => ?_)
    fun request failure error htold => ?_
  · cases outcome with
    | ok value => exact .result _
    | error error => exact .result _
  · obtain ⟨hasked, rfl⟩ := htold
    exact .done ⟨_, rfl, hasked, rfl, rfl⟩

theorem tells_rollback (connection : Nat) :
    Tells Succeeds (Bare (·.ending? = some .rollback)) (rollback (some connection)) := by
  refine .sure (.done ⟨connection, rfl⟩) fun connection => ?_
  exact .sure (.call fun _ => ⟨rfl, rfl⟩) fun _ => .done ⟨(), rfl⟩

end Connection

end Blocking

/-! ## What is wrapped -/

/-- The failures that an error of the library has as its cause: those at executing and fetching,
those at a commit that no transaction asked for, and those to reach a server. -/
def Wrapped (engine : Engine) (step : Step) (failure : Failure) : Request → Prop
  | .connect _ _ => engine.backend = .postgresql ∧ failure.operational = true
  | .execute _ _ => True
  | .fetch _ _ => True
  | .commit _ => step.owner? = none
  | .rollback _ => False
  | .close _ => False

/-- How a step tells of a failure of the driver. -/
structure TellsOf (engine : Engine) (step : Step) (request : Request) (failure : Failure)
    (error : Error) : Prop where
  wraps : Wrapped engine step failure request → error.Wraps failure
  bare : ¬ Wrapped engine step failure request → error = .driver failure

section Wrapped

variable {engine : Engine} {step : Step} {request : Request} {failure : Failure} {error : Error}

theorem tellsOf_connect (connection : Nat) (arguments : Row) :
    TellsOf engine step (.connect connection arguments) failure
      (engine.backend.connectError engine.config failure) := by
  cases hbackend : engine.backend with
  | sqlite => exact ⟨fun hwrapped => by simp [Wrapped, hbackend] at hwrapped, fun _ => rfl⟩
  | postgresql =>
    by_cases hoperational : failure.operational = true
    · refine ⟨fun _ => ?_, fun hnot => absurd ⟨hbackend, hoperational⟩ hnot⟩
      rw [Backend.connectError, if_pos hoperational]
      exact ⟨rfl, rfl⟩
    · refine ⟨fun hwrapped => absurd hwrapped.2 hoperational, fun _ => ?_⟩
      rw [Backend.connectError, if_neg hoperational]

theorem tellsOf_work (h : Wrapping (·.isWork = true) request failure error) :
    TellsOf engine step request failure error := by
  obtain ⟨hwork, hwraps⟩ := h
  cases request
  case execute => exact ⟨fun _ => hwraps, fun hnot => absurd trivial hnot⟩
  case fetch => exact ⟨fun _ => hwraps, fun hnot => absurd trivial hnot⟩
  all_goals cases hwork

theorem tellsOf_commitQuery (howner : step.owner? = none)
    (h : Wrapping (·.ending? = some .commit) request failure error) :
    TellsOf engine step request failure error := by
  obtain ⟨hending, hwraps⟩ := h
  cases request
  case commit => exact ⟨fun _ => hwraps, fun hnot => absurd howner hnot⟩
  all_goals cases hending

theorem tellsOf_rollback (h : Bare (·.ending? = some .rollback) request failure error) :
    TellsOf engine step request failure error := by
  obtain ⟨hending, hbare⟩ := h
  cases request
  case rollback => exact ⟨False.elim, fun _ => hbare⟩
  all_goals cases hending

theorem tellsOf_end {ending : Ending} (howner : step.owner? ≠ none)
    (h : Bare (·.ending? = some ending) request failure error) :
    TellsOf engine step request failure error := by
  obtain ⟨hending, hbare⟩ := h
  cases request
  case commit => exact ⟨fun hnone => absurd hnone howner, fun _ => hbare⟩
  case rollback => exact ⟨False.elim, fun _ => hbare⟩
  all_goals cases hending

end Wrapped

/-! ## Steps -/

namespace Blocking

variable {engine : Engine} {step : Step}

theorem tells_acquire : Tells (fun _ => True) (TellsOf engine step) (acquire engine) := by
  intro session
  have hacquires := acquires engine session
  generalize (acquire engine).run session = result at hacquires
  cases hacquires with
  | idle hidle => exact ⟨[], rfl, trivial⟩
  | exhausted hidle hfull => exact ⟨[], rfl, trivial⟩
  | refused hidle hroom hanswer =>
    refine ⟨[.asked (engine.opening session)], rfl, ?_⟩
    have hanswered : session.wire.answered [.asked (engine.opening session)] =
        [⟨engine.opening session, session.wire.answer (engine.opening session)⟩] := rfl
    rw [hanswered, hanswer, lastFailed_singleton]
    exact ⟨_, rfl, tellsOf_connect _ _⟩
  | opened hidle hroom hanswer =>
    refine ⟨_, rfl, ?_⟩
    rw [answered_opening hanswer]
    exact trivial

theorem tells_release (handle : Handle) :
    Tells Succeeds (TellsOf engine step) (release handle) :=
  .update fun _ => rfl

theorem tells_closeAll (handles : List Handle) :
    Tells (fun _ => True) (TellsOf engine step) (closeAll handles) := by
  induction handles with
  | nil => exact .result _
  | cons handle others ih =>
    have hdisconnect : Tells (fun _ => True) (TellsOf engine step) (disconnect handle) :=
      .seq (.result _) fun _ => .seq (.call fun _ => ⟨False.elim, fun _ => rfl⟩) fun _ => .result _
    exact .seq (.update fun _ => rfl) fun _ => .seq hdisconnect fun _ =>
      .seq (.update fun _ => rfl) fun _ => ih

theorem tells_finally {α : Type} {body : Blocking α} {after : Blocking Unit}
    (hbody : Tells (fun _ => True) (TellsOf engine step) body)
    (hafter : Tells Succeeds (TellsOf engine step) after) :
    Tells (fun _ => True) (TellsOf engine step) (do
      let outcome ← attempt body
      after
      done outcome) :=
  .catching hbody (fun _ _ => .seq hafter fun _ => .result _)
    fun _ _ error htold => .sure hafter fun _ => .done ⟨error, rfl, htold⟩

theorem tells_executeOrUndo (howner : step.owner? = none) (handle : Handle) (query : Query) :
    Tells (fun _ => True) (TellsOf engine step) (executeOrUndo engine handle query) := by
  cases handle with
  | none =>
    exact .of_mute ((speaks_executeOrUndo none engine query).mono fun _ => Request.not_serves_none)
  | some connection =>
    have hcommit : Tells (fun _ => True) (TellsOf engine step)
        (commitQuery (some connection) query) :=
      (tells_commitQuery _ query).mono (fun _ => id) fun _ _ _ => tellsOf_commitQuery howner
    have hexecute : Tells (fun _ => True) (TellsOf engine step)
        (executeAndCommit engine (some connection) query) :=
      .seq ((tells_executeOn _ engine query).mono (fun _ => id) fun _ _ _ => tellsOf_work)
        fun _ => .seq hcommit fun _ => .result _
    have hrollback : Tells Succeeds (TellsOf engine step) (rollback (some connection)) :=
      (tells_rollback connection).mono (fun _ => id) fun _ _ _ => tellsOf_rollback
    refine .catching hexecute (fun outcome _ => ?_) fun request failure error htold => ?_
    · cases outcome with
      | ok rows => exact .result _
      | error error =>
        dsimp only
        split
        · exact .seq hrollback fun _ => .result _
        · exact .result _
    · dsimp only
      split
      · exact .sure hrollback fun _ => .done ⟨error, rfl, htold⟩
      · exact .done ⟨error, rfl, htold⟩

theorem tells_executeQuery (howner : step.owner? = none) (query : Query) :
    Tells (fun _ => True) (TellsOf engine step) (executeQuery engine query) :=
  .seq tells_acquire fun handle => tells_finally (tells_executeOrUndo howner handle query)
    (tells_release handle)

theorem tells_executeIn (name : String) (query : Query) :
    Tells (fun _ => True) (TellsOf engine step) (executeIn engine name query) :=
  .seq .current fun _ => .seq (.result _) fun _ =>
    (tells_executeOn _ engine query).mono (fun _ => id) fun _ _ _ => tellsOf_work

theorem tells_setState (name : String) (state : TransactionState) :
    Tells Succeeds (TellsOf engine step) (setState name state) :=
  .update fun _ => rfl

theorem tells_end (howner : step.owner? ≠ none) (ending : Ending) (handle : Handle)
    (name : String) :
    Tells (fun _ => True) (TellsOf engine step)
      (ending.perform handle >>= fun _ => setState name ending.state) :=
  .seq ((tells_perform handle ending).mono (fun _ => id) fun _ _ _ => tellsOf_end howner)
    fun _ => (tells_setState name ending.state).loose

theorem tells_call (howner : step.owner? ≠ none) (ending : Ending) (name : String) :
    Tells (fun _ => True) (TellsOf engine step) (ending.call name) := by
  cases ending
  · exact .seq .current fun _ => .seq (.result _) fun _ => tells_end howner .commit _ name
  · exact .seq .current fun _ => .seq (.result _) fun _ => tells_end howner .rollback _ name

theorem tells_finish (howner : step.owner? ≠ none) (name : String) (reason : Option String) :
    Tells (fun _ => True) (TellsOf engine step) (finish name reason) := by
  refine .seq .current fun session => ?_
  dsimp only
  split
  · cases reason with
    | some reason => exact .seq (.debug _) fun _ => tells_end howner .rollback _ name
    | none => exact tells_end howner .commit _ name
  · exact .result _

theorem tells_leave (howner : step.owner? ≠ none) (name : String) (reason : Option String) :
    Tells (fun _ => True) (TellsOf engine step) (leave name reason) :=
  tells_finally (tells_finish howner name reason)
    (.sure .current fun session => tells_release (session.transaction name).connection)

theorem tells_step_of_query {executor : Executor} {compiled : Except Error Query}
    (h : step.queryOf engine = some (executor, compiled)) :
    Tells (fun _ => True) (TellsOf engine step) (Blocking.step engine step) := by
  obtain ⟨finish, hrun⟩ := run_step_of_query h
  refine .congr hrun (.seq (.result _) fun query => ?_)
  cases executor with
  | none => exact .seq (tells_executeQuery (user?_of_query h).2 query) fun _ => .result _
  | some name => exact .seq (tells_executeIn name query) fun _ => .result _

theorem tells_step (engine : Engine) (step : Step) :
    Tells (fun _ => True) (TellsOf engine step) (Blocking.step engine step) := by
  cases hquery : step.queryOf engine with
  | some found => exact tells_step_of_query hquery
  | none =>
    cases step with
    | query executor query => cases hquery
    | rawQuery executor template named => cases hquery
    | repository executor table properties method => cases hquery
    | statement table properties statement =>
      exact .seq (.result _) fun _ => .seq (.result _) fun _ => .result _
    | resolve table => exact .seq (.result _) fun _ => .result _
    | catalog => exact .result _
    | begin name => exact .seq (.update fun _ => rfl) fun _ => .result _
    | enter name =>
      exact .seq (.seq tells_acquire fun _ => (Tells.update fun _ => rfl).loose) fun _ => .result _
    | leave name reason => exact .seq (tells_leave (by nofun) name reason) fun _ => .result _
    | commit name => exact .seq (tells_call (by nofun) .commit name) fun _ => .result _
    | rollback name => exact .seq (tells_call (by nofun) .rollback name) fun _ => .result _
    | acquire name =>
      exact .seq tells_acquire fun _ => .seq (.update fun _ => rfl) fun _ => .result _
    | release name =>
      refine .seq .current fun session => ?_
      split
      · exact .seq (tells_release _) fun _ => .result _
      · exact .result _
    | close =>
      exact .seq (.seq .current fun session => tells_closeAll session.pool.idle) fun _ => .result _

end Blocking

/-- A step in which a request to the driver failed fails itself. Its error is one of the library,
with the driver's error as its cause, if the last failure was at executing or fetching, at a commit
of the engine, or to reach a server; else it is the error of the driver. -/
theorem error_of_failed_request (engine : Engine) (session : Session) (step : Step)
    (request : Request) (failure : Failure)
    (h : lastFailed (session.talk ((Blocking.step engine step).run session).2) =
      some (request, failure)) :
    ∃ error, ((Blocking.step engine step).run session).1 = .error error ∧
      (Wrapped engine step failure request → error.Wraps failure) ∧
      (¬ Wrapped engine step failure request → error = .driver failure) := by
  obtain ⟨events, hwire, hrun⟩ := tells_step engine step session
  rw [Session.talk_of_wire hwire] at h
  rw [h] at hrun
  obtain ⟨error, houtcome, htells⟩ := hrun
  exact ⟨error, houtcome, htells.wraps, htells.bare⟩

theorem error_of_failed_request_commit :
    let session := Session.start ⟨[], [], [some ⟨false, "locked"⟩], [], []⟩
    let result := (Blocking.step (inMemory 1) (.query none ⟨"select 1", []⟩)).run session
    lastFailed (session.talk result.2) = some (.commit 1, ⟨false, "locked"⟩) ∧
      ∃ error, result.1 = .error error ∧ error.Wraps ⟨false, "locked"⟩ := by
  intro session result
  have hfailed : lastFailed (session.talk result.2) = some (.commit 1, ⟨false, "locked"⟩) := rfl
  obtain ⟨error, houtcome, hwraps, -⟩ :=
    error_of_failed_request (inMemory 1) session (.query none ⟨"select 1", []⟩) _ _ hfailed
  exact ⟨hfailed, error, houtcome, hwraps rfl⟩

/-- A commit that a transaction asks for fails, and the error of the driver gets to the caller as it
is. -/
theorem unwrapped_commit_in_transaction :
    let life := Life.run (inMemory 1) "tx" ⟨[], [], [some ⟨false, "locked"⟩], [], []⟩
      [.begin "tx", .enter "tx"]
    let result := (Blocking.step (inMemory 1) (.commit "tx")).run life.session
    lastFailed (life.session.talk result.2) = some (.commit 1, ⟨false, "locked"⟩) ∧
      result.1 = .error (.driver ⟨false, "locked"⟩) ∧
      ¬ ∃ error, result.1 = .error error ∧ error.Wraps ⟨false, "locked"⟩ := by
  intro life result
  have hfailed : lastFailed (life.session.talk result.2) =
      some (.commit 1, ⟨false, "locked"⟩) := rfl
  have houtcome : result.1 = .error (.driver ⟨false, "locked"⟩) := rfl
  refine ⟨hfailed, houtcome, ?_⟩
  rintro ⟨error, hresult, hkind, -⟩
  cases houtcome.symm.trans hresult
  cases hkind

end ParamSql
