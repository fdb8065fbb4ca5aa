import ParamSql.Blocking.Execution

/-!
# Talking to the driver

A trace tells what a driver was asked, and with the script also what it answered. Most computations
do nothing to a session but talk to the driver, on one connection.
-/

namespace ParamSql

/-! ## Requests and their answers -/

structure Answered where
  request : Request
  answer : Except Failure (Option Cursor)

namespace Wire

def next (wire : Wire) : Event → Wire
  | .asked request => wire.asked request
  | event => wire.record event

def after (wire : Wire) (events : List Event) : Wire := events.foldl next wire

def answerTo (wire : Wire) : Event → List Answered
  | .asked request => [⟨request, wire.answer request⟩]
  | _ => []

/-- The requests among some events, each with its answer. -/
def answered : Wire → List Event → List Answered
  | _, [] => []
  | wire, event :: events => wire.answerTo event ++ (wire.next event).answered events

theorem after_append (wire : Wire) (events more : List Event) :
    wire.after (events ++ more) = (wire.after events).after more :=
  List.foldl_append

theorem trace_next (wire : Wire) (event : Event) : (wire.next event).trace = wire.trace ++ [event] := by
  cases event <;> rfl

theorem trace_after (wire : Wire) (events : List Event) :
    (wire.after events).trace = wire.trace ++ events := by
  induction events generalizing wire with
  | nil => exact (List.append_nil _).symm
  | cons event events ih =>
    rw [after, List.foldl_cons, ← after, ih, trace_next, List.append_assoc]
    rfl

theorem answered_append (wire : Wire) (events more : List Event) :
    wire.answered (events ++ more) = wire.answered events ++ (wire.after events).answered more := by
  induction events generalizing wire with
  | nil => rfl
  | cons event events ih =>
    rw [List.cons_append, answered, answered, ih, List.append_assoc]
    rfl

theorem mem_events_of_mem_answered {wire : Wire} {events : List Event} {answered : Answered}
    (h : answered ∈ wire.answered events) : .asked answered.request ∈ events := by
  induction events generalizing wire with
  | nil => cases h
  | cons event events ih =>
    rcases List.mem_append.1 h with h | h
    · cases event with
      | asked request =>
        obtain rfl := List.mem_singleton.1 h
        exact List.mem_cons_self
      | rowFactory connection => cases h
      | debug line => cases h
    · exact List.mem_cons_of_mem _ (ih h)

end Wire

/-! ## Sessions that go on -/

namespace Session

/-- The session once some events have happened on its wire and nothing else has changed. -/
def told (session : Session) (events : List Event) : Session :=
  { session with wire := session.wire.after events }

theorem told_told (session : Session) (events more : List Event) :
    (session.told events).told more = session.told (events ++ more) := by
  rw [told, told, told, Wire.after_append]

/-- What was asked and answered from one session to a later one. -/
def talk (before after : Session) : List Answered :=
  before.wire.answered (after.wire.trace.drop before.wire.trace.length)

theorem talk_of_wire {before after : Session} {events : List Event}
    (h : after.wire = before.wire.after events) :
    talk before after = before.wire.answered events := by
  rw [talk, h, Wire.trace_after, List.drop_left]

theorem talk_told (session : Session) (events : List Event) :
    talk session (session.told events) = session.wire.answered events :=
  talk_of_wire rfl

theorem talk_self (session : Session) : talk session session = [] := session.talk_told []

theorem talk_append {before between after : Session} {events more : List Event}
    (h : between.wire = before.wire.after events) (hafter : after.wire = between.wire.after more) :
    talk before after = talk before between ++ talk between after := by
  have hwhole : after.wire = before.wire.after (events ++ more) := by
    rw [Wire.after_append, ← h, hafter]
  rw [talk_of_wire hwhole, talk_of_wire h, talk_of_wire hafter, Wire.answered_append, ← h]

end Session

/-! ## Sorts of requests -/

namespace Request

/-- Executes or fetches on a connection. -/
def Uses (handle : Handle) : Request → Prop
  | execute connection _ => handle = some connection
  | fetch connection _ => handle = some connection
  | _ => False

/-- Commits or rolls back on a connection. -/
def Ends (handle : Handle) : Request → Prop
  | commit connection => handle = some connection
  | rollback connection => handle = some connection
  | _ => False

def Serves (handle : Handle) (request : Request) : Prop :=
  request.Uses handle ∨ request.Ends handle

theorem not_serves_none {request : Request} : ¬ request.Serves none := by
  cases request
  all_goals
    intro h
    rcases h with h | h <;> cases h

end Request

/-! ## Computations that only talk -/

namespace Blocking

variable {α β : Type} {allowed : Request → Prop}

/-- Nothing happens to the session but events, and all that is asked is allowed. -/
def Speaks (allowed : Request → Prop) (body : Blocking α) : Prop :=
  ∀ session, ∃ events, (body.run session).2 = session.told events ∧
    ∀ request, .asked request ∈ events → allowed request

namespace Speaks

theorem done (outcome : Except Error α) : Speaks allowed (done outcome) :=
  fun _ => ⟨[], rfl, fun _ h => nomatch h⟩

theorem debug (line : String) : Speaks allowed (record (.debug line)) :=
  fun _ => ⟨[.debug line], rfl, fun _ h => nomatch List.mem_singleton.1 h⟩

theorem call {request : Request} (h : allowed request) : Speaks allowed (call request) := by
  refine fun session => ⟨[.asked request], rfl, fun other hother => ?_⟩
  cases List.mem_singleton.1 hother
  exact h

theorem bind {first : Blocking α} {next : α → Blocking β} (hfirst : Speaks allowed first)
    (hnext : ∀ value, Speaks allowed (next value)) : Speaks allowed (first >>= next) := by
  intro session
  obtain ⟨events, hafter, hallowed⟩ := hfirst session
  rw [run_bind]
  cases hrun : first.run session with
  | mk outcome after =>
    rw [hrun] at hafter
    obtain rfl := hafter
    cases outcome with
    | error error => exact ⟨events, rfl, hallowed⟩
    | ok value =>
      obtain ⟨more, hmore, hothers⟩ := hnext value (session.told events)
      refine ⟨events ++ more, hmore.trans (session.told_told events more), fun request h => ?_⟩
      exact (List.mem_append.1 h).elim (hallowed request) (hothers request)

theorem attempt {body : Blocking α} (h : Speaks allowed body) : Speaks allowed (attempt body) := h

theorem mono {other : Request → Prop} {body : Blocking α} (h : Speaks allowed body)
    (himp : ∀ request, allowed request → other request) : Speaks other body := by
  intro session
  obtain ⟨events, hafter, hallowed⟩ := h session
  exact ⟨events, hafter, fun request hrequest => himp request (hallowed request hrequest)⟩

theorem on {handle : Handle} (what : String) {next : Nat → Blocking α}
    (h : ∀ connection, handle = some connection → Speaks allowed (next connection)) :
    Speaks allowed (Blocking.done (connectionOf what handle) >>= next) := by
  cases handle with
  | none => exact fun session => ⟨[], rfl, fun _ h => nomatch h⟩
  | some connection => exact fun session => h connection rfl session

end Speaks

/-! ## On one connection -/

section Connection

variable (handle : Handle)

theorem speaks_execute (statement : Prepared) :
    Speaks (Request.Uses handle) (execute handle statement) :=
  .on _ fun _ hconnection => .call hconnection

theorem speaks_fetch (cursor : Cursor) : Speaks (Request.Uses handle) (fetch handle cursor) :=
  .on _ fun _ hconnection => .bind (.call hconnection) fun _ => .done _

theorem speaks_commit : Speaks (Request.Ends handle) (commit handle) :=
  .on _ fun _ hconnection => .bind (.call hconnection) fun _ => .done _

theorem speaks_rollback : Speaks (Request.Ends handle) (rollback handle) :=
  .on _ fun _ hconnection => .bind (.call hconnection) fun _ => .done _

theorem speaks_runQuery (engine : Engine) (query : Query) :
    Speaks (Request.Uses handle) (runQuery engine handle query) := by
  refine .bind (.done _) fun statement => .bind (speaks_execute handle statement) fun cursor? => ?_
  cases cursor? with
  | none => exact .done _
  | some cursor => exact speaks_fetch handle cursor

theorem speaks_executeOn (engine : Engine) (query : Query) :
    Speaks (Request.Uses handle) (executeOn engine handle query) := by
  refine .bind (.debug _) fun _ => .bind (speaks_runQuery handle engine query).attempt fun outcome => ?_
  cases outcome with
  | ok rows => exact .done _
  | error error => exact .done _

theorem speaks_commitQuery (query : Query) :
    Speaks (Request.Ends handle) (commitQuery handle query) := by
  refine .bind (speaks_commit handle).attempt fun outcome => ?_
  cases outcome with
  | ok value => exact .done _
  | error error => exact .done _

theorem speaks_executeOrUndo (engine : Engine) (query : Query) :
    Speaks (Request.Serves handle) (executeOrUndo engine handle query) := by
  have hexecute : Speaks (Request.Serves handle) (executeAndCommit engine handle query) := by
    refine .bind ((speaks_executeOn handle engine query).mono fun _ => .inl) fun rows => ?_
    exact .bind ((speaks_commitQuery handle query).mono fun _ => .inr) fun _ => .done _
  refine .bind hexecute.attempt fun outcome => ?_
  cases outcome with
  | ok rows => exact .done _
  | error error =>
    dsimp only
    split
    · exact .bind ((speaks_rollback handle).mono fun _ => .inr) fun _ => .done _
    · exact .done _

end Connection

end Blocking

end ParamSql
