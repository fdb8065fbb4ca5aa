import Mathlib.Data.List.Nodup
import ParamSql.Blocking.Pool
import ParamSql.Proofs.Talk

/-!
# The ledger of connections

Every connection that was opened and that nobody has tried to close is either in the pool or with
whoever took it from there, and it is there once.
-/

namespace ParamSql

open Blocking

/-! ## Live connections -/

def Answered.Succeeds (answered : Answered) : Prop := ∃ cursor?, answered.answer = .ok cursor?

namespace Request

def Opens (connection : Nat) : Request → Prop
  | connect opened _ => opened = connection
  | _ => False

def Closes (connection : Nat) : Request → Prop
  | close closed => closed = connection
  | _ => False

/-- Opens or closes some connection. -/
def Manages (request : Request) : Prop :=
  ∃ connection, request.Opens connection ∨ request.Closes connection

end Request

def Opened (talk : List Answered) (connection : Nat) : Prop :=
  ∃ answered ∈ talk, answered.request.Opens connection ∧ answered.Succeeds

def CloseTried (talk : List Answered) (connection : Nat) : Prop :=
  ∃ answered ∈ talk, answered.request.Closes connection

/-- A connection was opened, and nobody has tried to close it. -/
def Live (talk : List Answered) (connection : Nat) : Prop :=
  Opened talk connection ∧ ¬ CloseTried talk connection

section Live

variable {talk more : List Answered} {connection : Nat}

theorem opened_append : Opened (talk ++ more) connection ↔
    Opened talk connection ∨ Opened more connection := by
  simp only [Opened, List.mem_append, or_and_right, exists_or]

theorem closeTried_append : CloseTried (talk ++ more) connection ↔
    CloseTried talk connection ∨ CloseTried more connection := by
  simp only [CloseTried, List.mem_append, or_and_right, exists_or]

theorem not_opened_of_not_manages (h : ∀ answered ∈ more, ¬ answered.request.Manages) :
    ¬ Opened more connection :=
  fun ⟨answered, hmem, hopens, _⟩ => h answered hmem ⟨connection, .inl hopens⟩

theorem not_closeTried_of_not_manages (h : ∀ answered ∈ more, ¬ answered.request.Manages) :
    ¬ CloseTried more connection :=
  fun ⟨answered, hmem, hcloses⟩ => h answered hmem ⟨connection, .inr hcloses⟩

theorem live_append_of_not_manages (h : ∀ answered ∈ more, ¬ answered.request.Manages) :
    Live (talk ++ more) connection ↔ Live talk connection := by
  rw [Live, opened_append, closeTried_append, or_iff_left (not_opened_of_not_manages h),
    or_iff_left (not_closeTried_of_not_manages h), Live]

theorem live_append_close {closed : Nat} {answer : Except Failure (Option Cursor)} :
    Live (talk ++ [⟨.close closed, answer⟩]) connection ↔
      Live talk connection ∧ connection ≠ closed := by
  have hopened : ¬ Opened [⟨.close closed, answer⟩] connection := by
    simp [Opened, Request.Opens]
  have hclosed : CloseTried [⟨.close closed, answer⟩] connection ↔ connection = closed := by
    simp [CloseTried, Request.Closes, eq_comm]
  rw [Live, opened_append, closeTried_append, or_iff_left hopened, hclosed, not_or, ← and_assoc,
    Live]

theorem live_append_connect {opened : Nat} {arguments : Row} {cursor? : Option Cursor}
    (hfresh : ¬ CloseTried talk opened) :
    Live (talk ++ [⟨.connect opened arguments, .ok cursor?⟩]) connection ↔
      connection = opened ∨ Live talk connection := by
  have hopened : Opened [⟨.connect opened arguments, .ok cursor?⟩] connection ↔
      connection = opened := by
    simp [Opened, Request.Opens, Answered.Succeeds, eq_comm]
  have hclosed : ¬ CloseTried [⟨.connect opened arguments, .ok cursor?⟩] connection := by
    simp [CloseTried, Request.Closes]
  rw [Live, opened_append, closeTried_append, hopened, or_iff_left hclosed, Live]
  constructor
  · rintro ⟨hopened | rfl, hclosed⟩
    · exact .inr ⟨hopened, hclosed⟩
    · exact .inl rfl
  · rintro (rfl | ⟨hopened, hclosed⟩)
    · exact ⟨.inr rfl, hfresh⟩
    · exact ⟨.inl hopened, hclosed⟩

theorem live_append_refused {opened : Nat} {arguments : Row} {failure : Failure} :
    Live (talk ++ [⟨.connect opened arguments, .error failure⟩]) connection ↔
      Live talk connection := by
  have hopened : ¬ Opened [⟨.connect opened arguments, .error failure⟩] connection := by
    simp [Opened, Answered.Succeeds]
  have hclosed : ¬ CloseTried [⟨.connect opened arguments, .error failure⟩] connection := by
    simp [CloseTried, Request.Closes]
  rw [Live, opened_append, closeTried_append, or_iff_left hopened, or_iff_left hclosed, Live]

end Live

/-! ## Acquiring, case by case -/

def Engine.opening (engine : Engine) (session : Session) : Request :=
  .connect (session.wire.attempts + 1) (engine.backend.connectArguments engine.config)

def Engine.openedEvents (engine : Engine) (session : Session) : List Event :=
  (if engine.backend.setsRowFactory then [.rowFactory (session.wire.attempts + 1)] else []) ++
    [.debug (engine.openedLine (session.pool.opened + 1))]

inductive Acquires (engine : Engine) (session : Session) : Except Error Handle × Session → Prop
  | idle {handle : Handle} {others : List Handle} (h : session.pool.idle = handle :: others) :
    Acquires engine session (.ok handle, session.setIdle others)
  | exhausted (hidle : session.pool.idle = [])
      (hfull : engine.config.poolSize ≤ session.pool.opened) :
    Acquires engine session (.error (.poolExhausted engine.config.poolSize), session)
  | refused {failure : Failure} (hidle : session.pool.idle = [])
      (hroom : ¬ engine.config.poolSize ≤ session.pool.opened)
      (hanswer : session.wire.answer (engine.opening session) = .error failure) :
    Acquires engine session (.error (engine.backend.connectError engine.config failure),
      session.ask (engine.opening session))
  | opened {cursor? : Option Cursor} (hidle : session.pool.idle = [])
      (hroom : ¬ engine.config.poolSize ≤ session.pool.opened)
      (hanswer : session.wire.answer (engine.opening session) = .ok cursor?) :
    Acquires engine session (.ok (some (session.wire.attempts + 1)),
      (session.told (.asked (engine.opening session) :: engine.openedEvents session)).addOpened 1)

theorem acquires (engine : Engine) (session : Session) :
    Acquires engine session ((acquire engine).run session) := by
  unfold acquire
  simp only [run_bind, run_current]
  cases hidle : session.pool.idle with
  | cons handle others => exact .idle hidle
  | nil =>
    simp only [run_bind, run_current]
    by_cases hfull : engine.config.poolSize ≤ session.pool.opened
    · rw [if_pos hfull]
      exact .exhausted hidle hfull
    · rw [if_neg hfull]
      cases hanswer : session.wire.answer (engine.opening session) with
      | error failure =>
        simp only [Engine.opening] at hanswer
        simp only [openNew, connect, run_bind, run_current, run_ask, hanswer, run_raise]
        exact .refused hidle hfull hanswer
      | ok cursor? =>
        have hopened := Acquires.opened hidle hfull hanswer
        simp only [Engine.opening] at hanswer
        simp only [Engine.openedEvents] at hopened
        simp only [openNew, connect, run_bind, run_current, run_ask, hanswer]
        cases hrow : engine.backend.setsRowFactory with
        | false =>
          rw [hrow] at hopened
          exact hopened
        | true =>
          rw [hrow] at hopened
          exact hopened

theorem Acquires.transactions {engine : Engine} {session : Session}
    {result : Except Error Handle × Session} (h : Acquires engine session result) :
    result.2.transactions = session.transactions := by
  cases h
  all_goals rfl

theorem not_mem_openedEvents (engine : Engine) (session : Session) (request : Request) :
    .asked request ∉ engine.openedEvents session := by
  unfold Engine.openedEvents
  split
  · simp
  · simp

theorem answered_openedEvents (engine : Engine) (session : Session) (wire : Wire) :
    wire.answered (engine.openedEvents session) = [] := by
  rw [List.eq_nil_iff_forall_not_mem]
  exact fun answered hmem =>
    not_mem_openedEvents engine session _ (Wire.mem_events_of_mem_answered hmem)

theorem answered_opening {engine : Engine} {session : Session} {cursor? : Option Cursor}
    (hanswer : session.wire.answer (engine.opening session) = .ok cursor?) :
    session.wire.answered (.asked (engine.opening session) :: engine.openedEvents session) =
      [⟨engine.opening session, .ok cursor?⟩] := by
  rw [Wire.answered, answered_openedEvents, Wire.answerTo, hanswer]
  rfl

theorem Acquires.wire {engine : Engine} {session : Session}
    {result : Except Error Handle × Session} (h : Acquires engine session result) :
    ∃ events, result.2.wire = session.wire.after events ∧
      ∀ request, .asked request ∈ events → request = engine.opening session := by
  cases h with
  | idle hidle => exact ⟨[], rfl, fun _ hmem => nomatch hmem⟩
  | exhausted hidle hfull => exact ⟨[], rfl, fun _ hmem => nomatch hmem⟩
  | refused hidle hroom hanswer =>
    refine ⟨[.asked (engine.opening session)], rfl, fun request hmem => ?_⟩
    exact Event.asked.inj (List.mem_singleton.1 hmem)
  | opened hidle hroom hanswer =>
    refine ⟨.asked (engine.opening session) :: engine.openedEvents session, rfl,
      fun request hmem => ?_⟩
    exact (List.mem_cons.1 hmem).elim Event.asked.inj fun hmem =>
      absurd hmem (not_mem_openedEvents engine session request)

theorem Acquires.manages {engine : Engine} {session : Session}
    {result : Except Error Handle × Session} (h : Acquires engine session result) :
    ∀ answered ∈ session.talk result.2, answered.request.Manages := by
  obtain ⟨events, hwire, hasked⟩ := h.wire
  rw [Session.talk_of_wire hwire]
  intro answered hmem
  rw [hasked _ (Wire.mem_events_of_mem_answered hmem)]
  exact ⟨_, .inl rfl⟩

theorem transactions_closeAll (handles : List Handle) (session : Session) :
    ((closeAll handles).run session).2.transactions = session.transactions := by
  induction handles generalizing session with
  | nil => rfl
  | cons handle others ih =>
    cases handle with
    | none => rfl
    | some connection =>
      simp only [closeAll, disconnect, connectionOf, run_bind, run_update, run_done, run_call]
      cases (session.setIdle others).wire.answer (.close connection) with
      | error failure => rfl
      | ok cursor? => exact ih _

/-! ## The ledger -/

namespace Session

/-- All that was asked and answered since the start, if the trace tells all of it. -/
def history (script : Script) (session : Session) : List Answered :=
  (Wire.start script).answered session.wire.trace

end Session

/-- The handles that are out and those in the pool are the live connections, each once. -/
structure Ledger (script : Script) (session : Session) (out : List Handle) : Prop where
  wire : session.wire = (Wire.start script).after session.wire.trace
  nodup : (out ++ session.pool.idle).Nodup
  mem_iff : ∀ handle, handle ∈ out ++ session.pool.idle ↔
    ∃ connection, handle = some connection ∧ Live (session.history script) connection
  /-- Only connections of earlier attempts were opened or closed. -/
  le_attempts : ∀ answered ∈ session.history script, ∀ connection,
    answered.request.Opens connection ∨ answered.request.Closes connection →
      connection ≤ session.wire.attempts

theorem attempts_le_after (wire : Wire) (events : List Event) :
    wire.attempts ≤ (wire.after events).attempts := by
  induction events generalizing wire with
  | nil => exact Nat.le_refl _
  | cons event events ih =>
    refine Nat.le_trans ?_ (ih (wire.next event))
    cases event with
    | asked request =>
      show wire.attempts ≤ if request.isConnect then wire.attempts + 1 else wire.attempts
      split
      · exact Nat.le_succ _
      · exact Nat.le_refl _
    | rowFactory connection => exact Nat.le_refl _
    | debug line => exact Nat.le_refl _

namespace Ledger

variable {script : Script} {session after : Session} {out : List Handle}

theorem start (script : Script) : Ledger script (Session.start script) [] where
  wire := rfl
  nodup := List.nodup_nil
  mem_iff := by
    intro handle
    constructor
    · intro h
      cases h
    · rintro ⟨connection, -, ⟨answered, hmem, -⟩, -⟩
      cases hmem
  le_attempts := fun answered hmem => by cases hmem

theorem history_after (h : Ledger script session out) {events : List Event}
    (hwire : after.wire = session.wire.after events) :
    after.history script = session.history script ++ session.wire.answered events := by
  rw [Session.history, hwire, Wire.trace_after, Wire.answered_append, ← h.wire, Session.history]

theorem extend (h : Ledger script session out) {events : List Event} {others : List Handle}
    (hwire : after.wire = session.wire.after events)
    (hnodup : (others ++ after.pool.idle).Nodup)
    (hmem : ∀ handle, handle ∈ others ++ after.pool.idle ↔ ∃ connection, handle = some connection ∧
      Live (session.history script ++ session.wire.answered events) connection)
    (hle : ∀ answered ∈ session.wire.answered events, ∀ connection,
      answered.request.Opens connection ∨ answered.request.Closes connection →
        connection ≤ after.wire.attempts) : Ledger script after others where
  wire := by
    rw [hwire, Wire.trace_after, Wire.after_append, ← h.wire]
  nodup := hnodup
  mem_iff := by
    rw [h.history_after hwire]
    exact hmem
  le_attempts := by
    rw [h.history_after hwire]
    intro answered hanswered connection hmanages
    rcases List.mem_append.1 hanswered with hanswered | hanswered
    · have hmono := attempts_le_after session.wire events
      rw [← hwire] at hmono
      exact Nat.le_trans (h.le_attempts answered hanswered connection hmanages) hmono
    · exact hle answered hanswered connection hmanages

theorem told (h : Ledger script session out) {events : List Event}
    (hwire : after.wire = session.wire.after events) (hidle : after.pool.idle = session.pool.idle)
    (hquiet : ∀ answered ∈ session.talk after, ¬ answered.request.Manages) :
    Ledger script after out := by
  rw [Session.talk_of_wire hwire] at hquiet
  refine h.extend hwire (hidle ▸ h.nodup) (fun handle => ?_)
    fun answered hmem connection hmanages => absurd ⟨connection, hmanages⟩ (hquiet answered hmem)
  rw [hidle, h.mem_iff]
  simp only [live_append_of_not_manages hquiet]

theorem congr (h : Ledger script session out) (hwire : after.wire = session.wire)
    (hidle : after.pool.idle = session.pool.idle) : Ledger script after out := by
  have hafter : after.wire = session.wire.after [] := hwire
  refine h.told hafter hidle fun answered hmem => ?_
  rw [Session.talk_of_wire hafter] at hmem
  cases hmem

theorem perm (h : Ledger script session out) {others : List Handle} {idle : List Handle}
    (hperm : (out ++ session.pool.idle).Perm (others ++ idle)) :
    Ledger script (session.setIdle idle) others where
  wire := h.wire
  nodup := hperm.nodup_iff.1 h.nodup
  mem_iff := fun handle => (hperm.mem_iff).symm.trans (h.mem_iff handle)
  le_attempts := h.le_attempts

/-! ## The ledger of a pool in use -/

theorem not_mentioned (h : Ledger script session out) :
    ¬ Opened (session.history script) (session.wire.attempts + 1) ∧
      ¬ CloseTried (session.history script) (session.wire.attempts + 1) := by
  constructor
  · rintro ⟨answered, hmem, hopens, -⟩
    exact absurd (h.le_attempts answered hmem _ (.inl hopens)) (Nat.not_succ_le_self _)
  · rintro ⟨answered, hmem, hcloses⟩
    exact absurd (h.le_attempts answered hmem _ (.inr hcloses)) (Nat.not_succ_le_self _)

theorem refused (h : Ledger script session out) {engine : Engine} {failure : Failure}
    (hanswer : session.wire.answer (engine.opening session) = .error failure) :
    Ledger script (session.ask (engine.opening session)) out := by
  have hanswered : session.wire.answered [.asked (engine.opening session)] =
      [⟨engine.opening session, .error failure⟩] := by
    rw [← hanswer]
    rfl
  have hwire : (session.ask (engine.opening session)).wire =
      session.wire.after [.asked (engine.opening session)] := rfl
  refine h.extend hwire h.nodup (fun handle => ?_) fun answered hmem connection hmanages => ?_
  · rw [hanswered]
    refine (h.mem_iff handle).trans ?_
    simp only [Engine.opening, live_append_refused]
  · rw [hanswered, List.mem_singleton] at hmem
    obtain rfl := hmem
    rcases hmanages with hopens | hcloses
    · exact Nat.le_of_eq hopens.symm
    · cases hcloses

theorem opened (h : Ledger script session out) {engine : Engine} {cursor? : Option Cursor}
    (hanswer : session.wire.answer (engine.opening session) = .ok cursor?) :
    Ledger script
      ((session.told (.asked (engine.opening session) :: engine.openedEvents session)).addOpened 1)
      (some (session.wire.attempts + 1) :: out) := by
  have hanswered := answered_opening hanswer
  obtain ⟨hopened, hclosed⟩ := h.not_mentioned
  -- Its number is past every attempt so far, so it is neither out nor in the pool.
  have hout : some (session.wire.attempts + 1) ∉ out ++ session.pool.idle := by
    intro hmem
    obtain ⟨connection, heq, hlive⟩ := (h.mem_iff _).1 hmem
    cases heq
    exact hopened hlive.1
  have hnodup : (some (session.wire.attempts + 1) :: out ++ session.pool.idle).Nodup :=
    List.nodup_cons.2 ⟨hout, h.nodup⟩
  refine h.extend rfl hnodup (fun handle => ?_) fun answered hmem connection hmanages => ?_
  · rw [hanswered]
    show handle ∈ some (session.wire.attempts + 1) :: (out ++ session.pool.idle) ↔ _
    rw [List.mem_cons, h.mem_iff]
    simp only [Engine.opening, live_append_connect hclosed]
    constructor
    · rintro (rfl | ⟨connection, rfl, hlive⟩)
      · exact ⟨_, rfl, .inl rfl⟩
      · exact ⟨connection, rfl, .inr hlive⟩
    · rintro ⟨connection, rfl, rfl | hlive⟩
      · exact .inl rfl
      · exact .inr ⟨connection, rfl, hlive⟩
  · rw [hanswered, List.mem_singleton] at hmem
    obtain rfl := hmem
    have hattempts := attempts_le_after (session.wire.asked (engine.opening session))
      (engine.openedEvents session)
    rcases hmanages with hopens | hcloses
    · exact Nat.le_trans (Nat.le_of_eq hopens.symm) hattempts
    · cases hcloses

theorem acquire (h : Ledger script session out) {engine : Engine}
    {outcome : Except Error Handle} (hacquires : Acquires engine session (outcome, after)) :
    Ledger script after (outcome.toOption.toList ++ out) := by
  cases hacquires with
  | idle hidle =>
    apply h.perm
    rw [hidle]
    exact List.perm_middle
  | exhausted hidle hfull => exact h
  | refused hidle hroom hanswer => exact h.refused hanswer
  | opened hidle hroom hanswer => exact h.opened hanswer

theorem release (h : Ledger script session out) {handle : Handle} {others : List Handle}
    (hout : out.Perm (handle :: others)) :
    Ledger script (session.setIdle (handle :: session.pool.idle)) others :=
  h.perm ((hout.append_right _).trans List.perm_middle.symm)

theorem live_of_mem_idle (h : Ledger script session out) {connection : Nat}
    (hmem : some connection ∈ session.pool.idle) : Live (session.history script) connection := by
  obtain ⟨other, heq, hlive⟩ := (h.mem_iff _).1 (List.mem_append_right out hmem)
  cases heq
  exact hlive

theorem closed (h : Ledger script session out) {connection : Nat} {others : List Handle}
    (hidle : session.pool.idle = some connection :: others) :
    Ledger script ((session.setIdle others).ask (.close connection)) out := by
  have hlive : Live (session.history script) connection :=
    h.live_of_mem_idle (hidle ▸ List.mem_cons_self)
  have hwire : ((session.setIdle others).ask (.close connection)).wire =
      session.wire.after [.asked (.close connection)] := rfl
  obtain ⟨hnot, hnodup⟩ : some connection ∉ out ++ others ∧ (out ++ others).Nodup := by
    have hnodup := h.nodup
    rwa [hidle, List.perm_middle.nodup_iff, List.nodup_cons] at hnodup
  refine h.extend hwire hnodup (fun handle => ?_) fun answered hmem other hmanages => ?_
  · have hmem := h.mem_iff handle
    rw [hidle, List.perm_middle.mem_iff, List.mem_cons] at hmem
    have hanswered : session.wire.answered [.asked (.close connection)] =
      [⟨.close connection, session.wire.answer (.close connection)⟩] := rfl
    rw [hanswered]
    simp only [live_append_close]
    constructor
    · intro hhandle
      obtain ⟨other, rfl, hother⟩ := hmem.1 (.inr hhandle)
      exact ⟨other, rfl, hother, fun heq => hnot (heq ▸ hhandle)⟩
    · rintro ⟨other, rfl, hother, hne⟩
      exact (hmem.2 ⟨other, rfl, hother⟩).resolve_left fun heq => hne (Option.some.inj heq)
  · obtain rfl := List.mem_singleton.1 hmem
    rcases hmanages with hopens | hcloses
    · cases hopens
    · obtain rfl : connection = other := hcloses
      obtain ⟨⟨answered, hanswered, hopens, -⟩, -⟩ := hlive
      exact h.le_attempts answered hanswered connection (.inl hopens)

theorem closeAll {handles : List Handle} (h : Ledger script session out)
    (hidle : session.pool.idle = handles) :
    Ledger script ((closeAll handles).run session).2 out := by
  induction handles generalizing session with
  | nil => exact h
  | cons handle others ih =>
    obtain ⟨connection, rfl, -⟩ := (h.mem_iff handle).1
      (List.mem_append_right out (hidle ▸ List.mem_cons_self))
    have hclosed := h.closed hidle
    simp only [Blocking.closeAll, disconnect, connectionOf, run_bind, run_update, run_done, run_call]
    cases (session.setIdle others).wire.answer (.close connection) with
    | error failure => exact hclosed
    | ok cursor? => exact ih (hclosed.congr rfl rfl) rfl

end Ledger

end ParamSql
