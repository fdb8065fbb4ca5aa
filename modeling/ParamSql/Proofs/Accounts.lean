import ParamSql.Proofs.Lifecycle

/-!
# The accounts of the pool

The pool counts the connections that it has opened. While callers give back just what was handed out
to them, the count is that of the connections in the pool, of those handed out, and of those that
could not be closed, and it stays within the settings.
-/

namespace ParamSql

open Blocking

/-! ## Calls on a pool -/

inductive PoolCall where
  | acquire
  | release (handle : Handle)
  | close

/-- A session, and the connections that were handed out and not given back. -/
structure Custody where
  session : Session
  out : List Handle

namespace Custody

def start (script : Script) : Custody := ⟨Session.start script, []⟩

def next (engine : Engine) (custody : Custody) : PoolCall → Custody
  | .acquire =>
    let result := (acquire engine).run custody.session
    ⟨result.2, result.1.toOption.toList ++ custody.out⟩
  | .release handle => ⟨((release handle).run custody.session).2, custody.out.erase handle⟩
  | .close => ⟨(closePool.run custody.session).2, custody.out⟩

def run (engine : Engine) (custody : Custody) (calls : List PoolCall) : Custody :=
  calls.foldl (next engine) custody

/-- A connection is given back by whoever has it. -/
def Allows (custody : Custody) : PoolCall → Prop
  | .release handle => handle ∈ custody.out
  | _ => True

instance (custody : Custody) (call : PoolCall) : Decidable (custody.Allows call) := by
  cases call
  all_goals unfold Allows; infer_instance

/-- Every connection is given back at most once each time that it is handed out. -/
def Lawful (engine : Engine) : Custody → List PoolCall → Prop
  | _, [] => True
  | custody, call :: calls => custody.Allows call ∧ Lawful engine (custody.next engine call) calls

instance (engine : Engine) (custody : Custody) (calls : List PoolCall) :
    Decidable (Lawful engine custody calls) := by
  induction calls generalizing custody with
  | nil => exact isTrue trivial
  | cons call calls ih => exact @instDecidableAnd _ _ inferInstance (ih _)

end Custody

/-! ## The pool of a session -/

namespace Session

variable (session : Session)

@[simp] theorem idle_setIdle (idle : List Handle) : (session.setIdle idle).pool.idle = idle := rfl

@[simp] theorem opened_setIdle (idle : List Handle) :
    (session.setIdle idle).pool.opened = session.pool.opened := rfl

@[simp] theorem history_setIdle (script : Script) (idle : List Handle) :
    (session.setIdle idle).history script = session.history script := rfl

@[simp] theorem pool_ask (request : Request) : (session.ask request).pool = session.pool := rfl

@[simp] theorem pool_told (events : List Event) : (session.told events).pool = session.pool := rfl

@[simp] theorem idle_addOpened (change : Int) :
    (session.addOpened change).pool.idle = session.pool.idle := rfl

@[simp] theorem opened_addOpened (change : Int) :
    (session.addOpened change).pool.opened = session.pool.opened + change := rfl

theorem addOpened_zero : session.addOpened 0 = session := by
  rw [addOpened, Int.add_zero]

end Session

/-! ## Closed connections -/

def Request.closing? : Request → Option Nat
  | close connection => some connection
  | _ => none

/-- The connections that somebody has tried to close, one for each try. -/
def closings (talk : List Answered) : List Nat :=
  talk.filterMap fun answered => answered.request.closing?

def Answered.isFailedClosing (answered : Answered) : Bool :=
  answered.request.closing?.isSome && !answered.answer.isOk

def failedClosings (talk : List Answered) : Nat := talk.countP Answered.isFailedClosing

theorem closing?_eq_some_iff {request : Request} {connection : Nat} :
    request.closing? = some connection ↔ request.Closes connection := by
  cases request
  case close closed => exact Option.some_inj
  all_goals
    constructor
    · intro h
      cases h
    · exact False.elim

theorem mem_closings {talk : List Answered} {connection : Nat} :
    connection ∈ closings talk ↔ CloseTried talk connection := by
  simp only [closings, List.mem_filterMap, closing?_eq_some_iff, CloseTried]

theorem closings_append (talk more : List Answered) :
    closings (talk ++ more) = closings talk ++ closings more :=
  List.filterMap_append

theorem failedClosings_append (talk more : List Answered) :
    failedClosings (talk ++ more) = failedClosings talk + failedClosings more :=
  List.countP_append

theorem closings_of_not_closing {talk : List Answered}
    (h : ∀ answered ∈ talk, answered.request.closing? = none) : closings talk = [] :=
  List.filterMap_eq_nil_iff.2 h

theorem failedClosings_of_not_closing {talk : List Answered}
    (h : ∀ answered ∈ talk, answered.request.closing? = none) : failedClosings talk = 0 := by
  rw [failedClosings, List.countP_eq_zero]
  intro answered hmem
  simp [Answered.isFailedClosing, h answered hmem]

theorem Acquires.not_closing {engine : Engine} {session : Session}
    {result : Except Error Handle × Session} (h : Acquires engine session result) :
    ∀ answered ∈ session.talk result.2, answered.request.closing? = none := by
  obtain ⟨events, hwire, hasked⟩ := h.wire
  rw [Session.talk_of_wire hwire]
  intro answered hmem
  rw [hasked _ (Wire.mem_events_of_mem_answered hmem)]
  rfl

theorem run_closeAll_cons (connection : Nat) (others : List Handle) (session : Session) :
    (closeAll (some connection :: others)).run session =
      match session.wire.answer (.close connection) with
      | .ok _ => (closeAll others).run
          (((session.setIdle others).ask (.close connection)).addOpened (-1))
      | .error failure =>
        (.error (.driver failure), (session.setIdle others).ask (.close connection)) := by
  simp only [closeAll, disconnect, connectionOf, run_bind, run_update, run_done, run_call]
  have hanswer : (session.setIdle others).wire.answer (.close connection) =
      session.wire.answer (.close connection) := rfl
  rw [hanswer]
  cases session.wire.answer (.close connection) with
  | ok cursor? => rfl
  | error failure => rfl

/-! ## The balance -/

/-- The ledger of a pool whose count is right. -/
structure Balanced (engine : Engine) (script : Script) (session : Session) (out : List Handle) :
    Prop where
  ledger : Ledger script session out
  opened_eq : session.pool.opened =
    session.pool.idle.length + out.length + failedClosings (session.history script)
  opened_le : session.pool.opened ≤ engine.config.poolSize
  nodup_closings : (closings (session.history script)).Nodup

namespace Balanced

variable {engine : Engine} {script : Script} {session after : Session} {out : List Handle}

theorem start (engine : Engine) (script : Script) :
    Balanced engine script (Session.start script) [] where
  ledger := .start script
  opened_eq := rfl
  opened_le := Int.natCast_nonneg _
  nodup_closings := List.nodup_nil

theorem history_of_talk (h : Balanced engine script session out) {events : List Event}
    (hwire : after.wire = session.wire.after events) :
    after.history script = session.history script ++ session.talk after := by
  rw [h.ledger.history_after hwire, Session.talk_of_wire hwire]

theorem acquire (h : Balanced engine script session out) {outcome : Except Error Handle}
    (hacquires : Acquires engine session (outcome, after)) :
    Balanced engine script after (outcome.toOption.toList ++ out) := by
  obtain ⟨events, hwire, -⟩ := hacquires.wire
  have hhistory := h.history_of_talk hwire
  have hcloses := hacquires.not_closing
  have hclosings : closings (after.history script) = closings (session.history script) := by
    rw [hhistory, closings_append, closings_of_not_closing hcloses, List.append_nil]
  have hfailed : failedClosings (after.history script) =
      failedClosings (session.history script) := by
    rw [hhistory, failedClosings_append, failedClosings_of_not_closing hcloses, Nat.add_zero]
  have hequal := h.opened_eq
  have hbound := h.opened_le
  refine ⟨h.ledger.acquire hacquires, ?_, ?_, hclosings ▸ h.nodup_closings⟩
  · rw [hfailed]
    cases hacquires with
    | idle hidle =>
      rw [hidle] at hequal
      simp [Except.toOption] at hequal ⊢
      omega
    | exhausted hidle hfull => exact hequal
    | refused hidle hroom hanswer => exact hequal
    | opened hidle hroom hanswer =>
      simp [Except.toOption]
      omega
  · cases hacquires with
    | idle hidle => exact hbound
    | exhausted hidle hfull => exact hbound
    | refused hidle hroom hanswer => exact hbound
    | opened hidle hroom hanswer =>
      simp only [Session.opened_addOpened, Session.pool_told]
      omega

theorem release (h : Balanced engine script session out) {handle : Handle} (hmem : handle ∈ out) :
    Balanced engine script (session.setIdle (handle :: session.pool.idle)) (out.erase handle) where
  ledger := h.ledger.release (List.perm_cons_erase hmem)
  opened_eq := by
    have hequal := h.opened_eq
    have hlength := List.length_erase_add_one hmem
    simp only [Session.idle_setIdle, Session.opened_setIdle, Session.history_setIdle,
      List.length_cons]
    omega
  opened_le := h.opened_le
  nodup_closings := h.nodup_closings

/-! ## Closing -/

theorem closed (h : Balanced engine script session out) {connection : Nat} {others : List Handle}
    (hidle : session.pool.idle = some connection :: others)
    {answer : Except Failure (Option Cursor)}
    (hanswer : session.wire.answer (.close connection) = answer) :
    Balanced engine script
      (((session.setIdle others).ask (.close connection)).addOpened (if answer.isOk then -1 else 0))
      out := by
  have hfresh : ¬ CloseTried (session.history script) connection :=
    (h.ledger.live_of_mem_idle (hidle ▸ List.mem_cons_self)).2
  have hhistory : (((session.setIdle others).ask (.close connection)).addOpened
      (if answer.isOk then -1 else 0)).history script =
        session.history script ++ [⟨.close connection, answer⟩] := by
    rw [← hanswer]
    exact h.ledger.history_after (show _ = session.wire.after [.asked (.close connection)] from rfl)
  have hequal := h.opened_eq
  have hbound := h.opened_le
  refine ⟨(h.ledger.closed hidle).congr rfl rfl, ?_, ?_, ?_⟩
  · rw [hidle, List.length_cons] at hequal
    rw [hhistory, failedClosings_append]
    cases answer with
    | ok cursor? =>
      have hnone : failedClosings [⟨.close connection, .ok cursor?⟩] = 0 := rfl
      simp [hnone, Except.isOk, Except.toBool] at hequal ⊢
      omega
    | error failure =>
      have hone : failedClosings [⟨.close connection, .error failure⟩] = 1 := rfl
      simp [hone, Except.isOk, Except.toBool] at hequal ⊢
      omega
  · simp only [Session.opened_addOpened, Session.pool_ask, Session.opened_setIdle]
    split
    all_goals omega
  · rw [hhistory, closings_append]
    refine List.nodup_append.2 ⟨h.nodup_closings, List.nodup_singleton _, ?_⟩
    intro other hother closed hclosed heq
    obtain rfl := List.mem_singleton.1 hclosed
    exact hfresh (mem_closings.1 (heq ▸ hother))

theorem closeAll {handles : List Handle} (h : Balanced engine script session out)
    (hidle : session.pool.idle = handles) :
    Balanced engine script ((Blocking.closeAll handles).run session).2 out := by
  induction handles generalizing session with
  | nil => exact h
  | cons handle others ih =>
    obtain ⟨connection, rfl, -⟩ := (h.ledger.mem_iff handle).1
      (List.mem_append_right out (hidle ▸ List.mem_cons_self))
    rw [run_closeAll_cons]
    cases hanswer : session.wire.answer (.close connection) with
    | ok cursor? => exact ih (h.closed hidle hanswer) rfl
    | error failure =>
      have hclosed := h.closed hidle hanswer
      rwa [Except.isOk, Except.toBool, if_neg Bool.false_ne_true, Session.addOpened_zero] at hclosed

end Balanced

theorem closeAll_asks (handles : List Handle) (session : Session) :
    ∃ events, ((closeAll handles).run session).2.wire = session.wire.after events ∧
      ∀ request, .asked request ∈ events →
        ∃ handle ∈ handles, handle.map Request.close = some request := by
  induction handles generalizing session with
  | nil => exact ⟨[], rfl, fun _ h => nomatch h⟩
  | cons handle others ih =>
    cases handle with
    | none => exact ⟨[], rfl, fun _ h => nomatch h⟩
    | some connection =>
      have hfirst : ∃ handle ∈ some connection :: others,
          handle.map Request.close = some (.close connection) := ⟨_, List.mem_cons_self, rfl⟩
      rw [run_closeAll_cons]
      cases session.wire.answer (.close connection) with
      | error failure =>
        refine ⟨[.asked (.close connection)], rfl, fun request hmem => ?_⟩
        cases List.mem_singleton.1 hmem
        exact hfirst
      | ok cursor? =>
        obtain ⟨events, hwire, hasked⟩ :=
          ih (((session.setIdle others).ask (.close connection)).addOpened (-1))
        refine ⟨.asked (.close connection) :: events, hwire, fun request hmem => ?_⟩
        rcases List.mem_cons.1 hmem with heq | hmem
        · cases heq
          exact hfirst
        · obtain ⟨handle, hhandle, hrequest⟩ := hasked request hmem
          exact ⟨handle, List.mem_cons_of_mem _ hhandle, hrequest⟩

/-! ## Runs -/

namespace Custody

variable {engine : Engine} {script : Script}

theorem balanced_next {custody : Custody} {call : PoolCall}
    (h : Balanced engine script custody.session custody.out) (hallows : custody.Allows call) :
    Balanced engine script (custody.next engine call).session (custody.next engine call).out := by
  cases call with
  | acquire => exact h.acquire (acquires engine custody.session)
  | release handle => exact h.release hallows
  | close => exact h.closeAll rfl

theorem balanced_run {custody : Custody} {calls : List PoolCall}
    (h : Balanced engine script custody.session custody.out)
    (hlawful : Lawful engine custody calls) :
    Balanced engine script (custody.run engine calls).session (custody.run engine calls).out := by
  induction calls generalizing custody with
  | nil => exact h
  | cons call calls ih => exact ih (balanced_next h hlawful.1) hlawful.2

end Custody

/-! ## What a balanced pool does -/

section Calls

variable {engine : Engine} {script : Script} {session : Session} {out : List Handle}

theorem talk_of_idle (session : Session) (others : List Handle) :
    session.talk (session.setIdle others) = [] :=
  session.talk_self

theorem run_acquire_of_idle {handle : Handle} {others : List Handle}
    (h : session.pool.idle = handle :: others) :
    (acquire engine).run session = (.ok handle, session.setIdle others) := by
  have hacquires := acquires engine session
  generalize (acquire engine).run session = result at hacquires
  cases hacquires with
  | idle hidle =>
    obtain ⟨rfl, rfl⟩ := List.cons.inj (hidle.symm.trans h)
    rfl
  | exhausted hidle hfull => cases hidle.symm.trans h
  | refused hidle hroom hanswer => cases hidle.symm.trans h
  | opened hidle hroom hanswer => cases hidle.symm.trans h

theorem kind_connectError (backend : Backend) (config : Config) (failure : Failure) :
    (backend.connectError config failure).kind? ≠ some .pool := by
  cases backend with
  | sqlite => simp [Backend.connectError, Error.kind?]
  | postgresql =>
    by_cases hoperational : failure.operational = true
    · simp [Backend.connectError, hoperational, Error.kind?]
    · simp [Backend.connectError, hoperational, Error.kind?]

theorem exhausted_iff (h : Balanced engine script session out) :
    (∃ error, ((acquire engine).run session).1 = .error error ∧ error.kind? = some .pool) ↔
      session.pool.idle = [] ∧ session.pool.opened = engine.config.poolSize := by
  have hbound := h.opened_le
  have hacquires := acquires engine session
  generalize (acquire engine).run session = result at hacquires
  constructor
  · rintro ⟨error, houtcome, hkind⟩
    cases hacquires with
    | idle hidle => cases houtcome
    | exhausted hidle hfull => exact ⟨hidle, Int.le_antisymm hbound hfull⟩
    | refused hidle hroom hanswer =>
      cases houtcome
      exact absurd hkind (kind_connectError _ _ _)
    | opened hidle hroom hanswer => cases houtcome
  · rintro ⟨hnone, hfull⟩
    cases hacquires with
    | idle hidle => cases hidle.symm.trans hnone
    | exhausted hidle hfull => exact ⟨_, rfl, rfl⟩
    | refused hidle hroom hanswer => exact absurd (Int.le_of_eq hfull.symm) hroom
    | opened hidle hroom hanswer => exact absurd (Int.le_of_eq hfull.symm) hroom

theorem pool_of_refused {answered : Answered}
    (hmem : answered ∈ session.talk ((acquire engine).run session).2)
    (hfailed : ¬ answered.Succeeds) :
    (∃ error, ((acquire engine).run session).1 = .error error) ∧
      ((acquire engine).run session).2.pool = session.pool := by
  have hacquires := acquires engine session
  generalize (acquire engine).run session = result at hacquires hmem
  cases hacquires with
  | idle hidle =>
    rw [talk_of_idle] at hmem
    cases hmem
  | exhausted hidle hfull => exact ⟨⟨_, rfl⟩, rfl⟩
  | refused hidle hroom hanswer => exact ⟨⟨_, rfl⟩, rfl⟩
  | opened hidle hroom hanswer =>
    rw [Session.talk_of_wire rfl, answered_opening hanswer, List.mem_singleton] at hmem
    subst hmem
    exact absurd ⟨_, rfl⟩ hfailed

theorem alone_of_acquired (h : Balanced engine script session out) {handle : Handle}
    (hacquired : ((acquire engine).run session).1 = .ok handle) :
    handle ∉ out ∧ ∃ connection, handle = some connection ∧
      ¬ CloseTried (session.history script) connection := by
  have hacquires := acquires engine session
  generalize (acquire engine).run session = result at hacquires hacquired
  obtain ⟨outcome, after⟩ := result
  obtain rfl : outcome = .ok handle := hacquired
  obtain ⟨events, hwire, -⟩ := hacquires.wire
  have hledger : Ledger script after (handle :: out) := h.ledger.acquire hacquires
  obtain ⟨connection, hconnection, -, hclosed⟩ := (hledger.mem_iff handle).1 List.mem_cons_self
  rw [h.history_of_talk hwire, closeTried_append, not_or] at hclosed
  have hnot := (List.nodup_cons.1 hledger.nodup).1
  exact ⟨fun hout => hnot (List.mem_append_left _ hout), connection, hconnection, hclosed.1⟩

theorem not_out_of_closed (h : Balanced engine script session out) {answered : Answered}
    (hmem : answered ∈ session.talk (closePool.run session).2) {connection : Nat}
    (hcloses : answered.request.Closes connection) : some connection ∉ out := by
  obtain ⟨events, hwire, hasked⟩ := closeAll_asks session.pool.idle session
  have htalk : session.talk (closePool.run session).2 = session.wire.answered events :=
    Session.talk_of_wire hwire
  rw [htalk] at hmem
  obtain ⟨handle, hhandle, hrequest⟩ := hasked _ (Wire.mem_events_of_mem_answered hmem)
  obtain ⟨closed, rfl, hclosed⟩ := Option.map_eq_some_iff.1 hrequest
  rw [← hclosed] at hcloses
  obtain rfl : closed = connection := hcloses
  obtain ⟨-, -, hdisjoint⟩ := List.nodup_append.1 h.ledger.nodup
  exact fun hout => hdisjoint _ hout _ hhandle rfl

end Calls

/-! ## The accounts -/

/-- What holds of a pool and of those who have its connections. -/
structure Accounted (engine : Engine) (script : Script) (custody : Custody) : Prop where
  opened_le : custody.session.pool.opened ≤ engine.config.poolSize
  opened_eq : custody.session.pool.opened = custody.session.pool.idle.length + custody.out.length +
    failedClosings (custody.session.history script)
  nodup_out : custody.out.Nodup
  /-- A connection of the pool is handed out without any talk to the driver. -/
  acquire_of_idle (handle : Handle) (others : List Handle) :
    custody.session.pool.idle = handle :: others →
      ((acquire engine).run custody.session).1 = .ok handle ∧
        custody.session.talk ((acquire engine).run custody.session).2 = []
  exhausted_iff :
    (∃ error, ((acquire engine).run custody.session).1 = .error error ∧
      error.kind? = some .pool) ↔
        custody.session.pool.idle = [] ∧ custody.session.pool.opened = engine.config.poolSize
  pool_of_refused : ∀ answered ∈ custody.session.talk ((acquire engine).run custody.session).2,
    ¬ answered.Succeeds →
      (∃ error, ((acquire engine).run custody.session).1 = .error error) ∧
        ((acquire engine).run custody.session).2.pool = custody.session.pool
  /-- What is handed out nobody else has, and nobody has tried to close it. -/
  alone_of_acquired (handle : Handle) : ((acquire engine).run custody.session).1 = .ok handle →
    handle ∉ custody.out ∧ ∃ connection, handle = some connection ∧
      ¬ CloseTried (custody.session.history script) connection
  not_out_of_closed : ∀ answered ∈ custody.session.talk (closePool.run custody.session).2,
    ∀ connection, answered.request.Closes connection → some connection ∉ custody.out
  /-- No connection is closed twice, not even in vain. -/
  nodup_closings : (closings (custody.session.history script)).Nodup

/-- While connections are given back only by those who have them, the pool keeps its accounts,
whatever the driver answers. -/
theorem pool_accounted (engine : Engine) (script : Script) (calls : List PoolCall)
    (h : Custody.Lawful engine (.start script) calls) :
    Accounted engine script (Custody.run engine (.start script) calls) := by
  have hbalanced := Custody.balanced_run (.start engine script) h
  generalize Custody.run engine (.start script) calls = custody at hbalanced
  exact {
    opened_le := hbalanced.opened_le
    opened_eq := hbalanced.opened_eq
    nodup_out := hbalanced.ledger.nodup.of_append_left
    acquire_of_idle := fun handle others hidle => by
      rw [run_acquire_of_idle hidle]
      exact ⟨rfl, talk_of_idle _ _⟩
    exhausted_iff := exhausted_iff hbalanced
    pool_of_refused := fun answered => pool_of_refused
    alone_of_acquired := fun handle => alone_of_acquired hbalanced
    not_out_of_closed := fun answered hmem connection => not_out_of_closed hbalanced hmem
    nodup_closings := hbalanced.nodup_closings }

/-- Two connections are out when a third is refused. One of them is given back and cannot be closed:
it is lost, and still counted, so nothing more is opened. -/
theorem pool_accounted_lost :
    let script : Script := ⟨[], [], [], [], [some ⟨false, "gone"⟩]⟩
    let calls : List PoolCall := [.acquire, .acquire, .acquire, .release (some 1), .close]
    let custody := Custody.run (inMemory 2) (.start script) calls
    Custody.Lawful (inMemory 2) (.start script) calls ∧ custody.out = [some 2] ∧
      custody.session.pool.idle = [] ∧ custody.session.pool.opened = 2 ∧
      failedClosings (custody.session.history script) = 1 ∧
      ∃ error, ((acquire (inMemory 2)).run custody.session).1 = .error error ∧
        error.kind? = some .pool := by
  intro script calls
  have hlawful : Custody.Lawful (inMemory 2) (.start script) calls := by decide +kernel
  have hout : (Custody.run (inMemory 2) (.start script) calls).out = [some 2] := by decide +kernel
  have hidle : (Custody.run (inMemory 2) (.start script) calls).session.pool.idle = [] := by
    decide +kernel
  have hopened : (Custody.run (inMemory 2) (.start script) calls).session.pool.opened = 2 := by
    decide +kernel
  have haccounted := pool_accounted (inMemory 2) script calls hlawful
  generalize Custody.run (inMemory 2) (.start script) calls = custody at *
  have hequal := haccounted.opened_eq
  rw [hopened, hidle, hout] at hequal
  refine ⟨hlawful, hout, hidle, hopened, ?_, haccounted.exhausted_iff.2 ⟨hidle, hopened⟩⟩
  simp only [List.length_nil, List.length_singleton] at hequal
  omega

end ParamSql
