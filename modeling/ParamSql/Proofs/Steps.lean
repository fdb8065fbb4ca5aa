import ParamSql.Proofs.Calls

/-!
# What a step can do

All that a step can do to a session, case by case. What holds of every step follows from these
cases.
-/

namespace ParamSql

open Blocking

/-! ## Whose step it is -/

namespace Step

/-- The transaction that a step uses while it is open. -/
def user? : Step → Option String
  | .query executor _ => executor
  | .rawQuery executor _ _ => executor
  | .repository executor _ _ _ => executor
  | .commit name => some name
  | .rollback name => some name
  | _ => none

/-- The transaction whose call a step is. -/
def owner? : Step → Option String
  | .enter name => some name
  | .leave name _ => some name
  | step => step.user?

theorem owner?_of_user {step : Step} {name : String} (h : step.user? = some name) :
    step.owner? = some name := by
  cases step
  case enter => cases h
  case leave => cases h
  all_goals exact h

end Step

theorem user?_of_query {engine : Engine} {step : Step} {executor : Executor}
    {compiled : Except Error Query} (h : step.queryOf engine = some (executor, compiled)) :
    step.user? = executor ∧ step.owner? = executor := by
  cases step
  case query => cases h; exact ⟨rfl, rfl⟩
  case rawQuery => cases h; exact ⟨rfl, rfl⟩
  case repository => cases h; exact ⟨rfl, rfl⟩
  all_goals cases h

theorem query_or_end_of_user (engine : Engine) {step : Step} {name : String}
    (h : step.user? = some name) :
    (∃ compiled, step.queryOf engine = some (some name, compiled)) ∨
      ∃ ending : Ending, step = ending.step name := by
  cases step
  case query => cases h; exact .inl ⟨_, rfl⟩
  case rawQuery => cases h; exact .inl ⟨_, rfl⟩
  case repository => cases h; exact .inl ⟨_, rfl⟩
  case commit => cases h; exact .inr ⟨.commit, rfl⟩
  case rollback => cases h; exact .inr ⟨.rollback, rfl⟩
  all_goals cases h

/-! ## The cases -/

inductive Transition (engine : Engine) (session : Session) :
    Step → Except Error Outcome × Session → Prop
  | rests {step : Step} {outcome : Except Error Outcome} (howner : step.owner? = none) :
    Transition engine session step (outcome, session)
  | borrowsNone {step : Step} {query : Query} {error : Error} {after : Session}
      (hquery : step.queryOf engine = some (none, .ok query))
      (hacquires : Acquires engine session (.error error, after)) :
    Transition engine session step (.error error, after)
  /-- A query on the engine gives the connection back whatever comes of it. -/
  | borrows {step : Step} {query : Query} {outcome : Except Error Outcome} {handle : Handle}
      {borrowed : Session} {events : List Event}
      (hquery : step.queryOf engine = some (none, .ok query))
      (hacquires : Acquires engine session (.ok handle, borrowed))
      (hserves : ∀ request, .asked request ∈ events → request.Serves handle) :
    Transition engine session step
      (outcome, (borrowed.told events).setIdle (handle :: borrowed.pool.idle))
  | uses {step : Step} {name : String} {outcome : Except Error Outcome} {after : Session}
      (huser : step.user? = some name) (hused : session.Used name after) :
    Transition engine session step (outcome, after)
  | begins (name : String) :
    Transition engine session (.begin name) (.ok .nothing, session.setTransaction name .fresh)
  | entersNone (name : String) {error : Error} {after : Session}
      (hacquires : Acquires engine session (.error error, after)) :
    Transition engine session (.enter name) (.error error, after)
  | enters (name : String) {handle : Handle} {after : Session}
      (hacquires : Acquires engine session (.ok handle, after)) :
    Transition engine session (.enter name)
      (.ok .entered, after.setTransaction name ⟨.active, handle⟩)
  /-- Whatever comes of ending it, a transaction that is left gives its connection back. -/
  | leaves (name : String) (reason : Option String) {outcome : Except Error Outcome}
      {after : Session} (hused : session.Used name after) :
    Transition engine session (.leave name reason)
      (outcome, after.setIdle ((after.transaction name).connection :: after.pool.idle))
  | takesNone (holder : String) {error : Error} {after : Session}
      (hacquires : Acquires engine session (.error error, after)) :
    Transition engine session (.acquire holder) (.error error, after)
  | takes (holder : String) {handle : Handle} {after : Session}
      (hacquires : Acquires engine session (.ok handle, after)) :
    Transition engine session (.acquire holder) (.ok (.connection handle), after.setHeld holder handle)
  | givesBack (holder : String) {handle : Handle} (hheld : session.held.get? holder = some handle) :
    Transition engine session (.release holder)
      (.ok .nothing, session.setIdle (handle :: session.pool.idle))
  | closes {outcome : Except Error Outcome} :
    Transition engine session .close (outcome, ((closeAll session.pool.idle).run session).2)

section Cases

variable (engine : Engine) (session : Session)

theorem transition_of_query {step : Step} {executor : Executor} {compiled : Except Error Query}
    (h : step.queryOf engine = some (executor, compiled)) :
    Transition engine session step ((Blocking.step engine step).run session) := by
  obtain ⟨huser, howner⟩ := user?_of_query h
  cases compiled with
  | error error =>
    rw [run_step_of_error h]
    cases executor with
    | none => exact .rests howner
    | some name => exact .uses huser (used_self session name)
  | ok query =>
    obtain ⟨finish, hrun⟩ := run_step_of_ok h
    rw [hrun]
    cases executor with
    | some name => exact .uses huser (used_executeIn engine name query session)
    | none =>
      have hacquires := acquires engine session
      rw [executeBy, run_executeQuery]
      generalize (acquire engine).run session = result at hacquires
      rcases result with ⟨error | handle, borrowed⟩
      · exact .borrowsNone h hacquires
      · obtain ⟨events, hafter, hserves⟩ := speaks_executeOrUndo handle engine query borrowed
        dsimp only
        rw [hafter]
        exact .borrows h hacquires hserves

theorem transition_statement (table : TableRef) (properties : Properties) (statement : Statement) :
    Transition engine session (.statement table properties statement)
      ((Blocking.step engine (.statement table properties statement)).run session) := by
  show Transition engine session _ ((done (engine.resolve table) >>= _).run session)
  rw [run_bind, run_done]
  cases engine.resolve table with
  | error error => exact .rests rfl
  | ok table =>
    dsimp only
    rw [run_bind, run_done]
    cases (statement.query table properties).outcome with
    | error error => exact .rests rfl
    | ok query => exact .rests rfl

theorem transition_enter (name : String) :
    Transition engine session (.enter name) ((Blocking.step engine (.enter name)).run session) := by
  have hacquires := acquires engine session
  rw [run_step_enter, run_enter]
  generalize (acquire engine).run session = result at hacquires
  rcases result with ⟨error | handle, after⟩
  · exact .entersNone name hacquires
  · exact .enters name hacquires

theorem transition_end (name : String) (ending : Ending) :
    Transition engine session (ending.step name)
      ((Blocking.step engine (ending.step name)).run session) := by
  rw [run_step_end]
  have hused := used_call ending name session
  cases ending
  · exact .uses rfl hused
  · exact .uses rfl hused

theorem transition_acquire (holder : String) :
    Transition engine session (.acquire holder)
      ((Blocking.step engine (.acquire holder)).run session) := by
  have hacquires := acquires engine session
  show Transition engine session _ ((acquire engine >>= _).run session)
  rw [run_bind]
  generalize (acquire engine).run session = result at hacquires
  rcases result with ⟨error | handle, after⟩
  · exact .takesNone holder hacquires
  · exact .takes holder hacquires

theorem transition_release (holder : String) :
    Transition engine session (.release holder)
      ((Blocking.step engine (.release holder)).run session) := by
  show Transition engine session _ ((current >>= _).run session)
  rw [run_bind, run_current]
  dsimp only
  cases hheld : session.held.get? holder with
  | none => exact .rests rfl
  | some handle => exact .givesBack holder hheld

theorem transition (step : Step) :
    Transition engine session step ((Blocking.step engine step).run session) := by
  cases hquery : step.queryOf engine with
  | some found => exact transition_of_query engine session hquery
  | none =>
    cases step with
    | query executor query => cases hquery
    | rawQuery executor template named => cases hquery
    | repository executor table properties method => cases hquery
    | statement table properties statement => exact transition_statement engine session _ _ _
    | resolve table =>
      show Transition engine session _ ((done (engine.resolve table) >>= _).run session)
      rw [run_bind, run_done]
      cases engine.resolve table with
      | error error => exact .rests rfl
      | ok table => exact .rests rfl
    | catalog => exact .rests rfl
    | begin name => exact .begins name
    | enter name => exact transition_enter engine session name
    | leave name reason =>
      rw [run_step_leave]
      exact .leaves name reason (used_finish name reason session)
    | commit name => exact transition_end engine session name .commit
    | rollback name => exact transition_end engine session name .rollback
    | acquire holder => exact transition_acquire engine session holder
    | release holder => exact transition_release engine session holder
    | close =>
      show Transition engine session .close ((closePool >>= fun _ => pure .nothing).run session)
      rw [run_then_return]
      exact .closes

end Cases

/-! ## One transaction -/

section Transaction

variable {engine : Engine} {session : Session} {step : Step}
  {result : Except Error Outcome × Session} {name : String}

theorem Transition.of_owner (h : Transition engine session step result)
    (howner : step.owner? = some name) :
    (step.user? = some name ∧ session.Used name result.2) ∨
    (∃ error, step = .enter name ∧ result.1 = .error error ∧
      Acquires engine session (.error error, result.2)) ∨
    (∃ handle after, step = .enter name ∧ Acquires engine session (.ok handle, after) ∧
      result = (.ok .entered, after.setTransaction name ⟨.active, handle⟩)) ∨
    ∃ reason after, step = .leave name reason ∧ session.Used name after ∧
      result.2 = after.setIdle ((after.transaction name).connection :: after.pool.idle) := by
  cases h with
  | rests hnone => cases hnone.symm.trans howner
  | borrowsNone hquery hacquires => cases (user?_of_query hquery).2.symm.trans howner
  | borrows hquery hacquires hserves => cases (user?_of_query hquery).2.symm.trans howner
  | uses huser hused =>
    obtain rfl := Option.some.inj ((Step.owner?_of_user huser).symm.trans howner)
    exact .inl ⟨huser, hused⟩
  | begins other => cases howner
  | entersNone other hacquires =>
    obtain rfl := Option.some.inj howner
    exact .inr (.inl ⟨_, rfl, rfl, hacquires⟩)
  | enters other hacquires =>
    obtain rfl := Option.some.inj howner
    exact .inr (.inr (.inl ⟨_, _, rfl, hacquires, rfl⟩))
  | leaves other reason hused =>
    obtain rfl := Option.some.inj howner
    exact .inr (.inr (.inr ⟨reason, _, rfl, hused, rfl⟩))
  | takesNone holder hacquires => cases howner
  | takes holder hacquires => cases howner
  | givesBack holder hheld => cases howner
  | closes => cases howner

theorem Transition.manages_or_moves (h : Transition engine session step result)
    (howner : step.owner? = some name) :
    (∀ answered ∈ session.talk result.2, answered.request.Manages) ∨
      ∃ after, (session.transaction name).Moves (session.talk result.2) after := by
  obtain ⟨-, hused⟩ | ⟨error, -, -, hacquires⟩ | ⟨handle, after, -, hacquires, rfl⟩ |
    ⟨reason, after, -, hused, hafter⟩ := h.of_owner howner
  · exact .inr ⟨_, hused.moves⟩
  · exact .inl hacquires.manages
  · exact .inl hacquires.manages
  · rw [hafter]
    exact .inr ⟨_, hused.moves⟩

theorem Transition.transaction_of_ne (h : Transition engine session step result)
    (howner : step.owner? ≠ some name) (hbegin : step ≠ .begin name) :
    result.2.transaction name = session.transaction name := by
  cases h with
  | rests hnone => rfl
  | borrowsNone hquery hacquires => exact Session.transaction_congr hacquires.transactions name
  | borrows hquery hacquires hserves => exact Session.transaction_congr hacquires.transactions name
  | uses huser hused =>
    exact hused.others name fun heq => howner (heq ▸ Step.owner?_of_user huser)
  | begins other =>
    have hne : name ≠ other := fun heq => hbegin (congrArg Step.begin heq.symm)
    exact session.transaction_setTransaction_of_ne _ hne
  | entersNone other hacquires => exact Session.transaction_congr hacquires.transactions name
  | enters other hacquires =>
    have hne : name ≠ other := fun heq => howner (congrArg some heq.symm)
    exact (Session.transaction_setTransaction_of_ne _ _ hne).trans
      (Session.transaction_congr hacquires.transactions name)
  | leaves other reason hused =>
    have hne : name ≠ other := fun heq => howner (congrArg some heq.symm)
    exact hused.others name hne
  | takesNone holder hacquires => exact Session.transaction_congr hacquires.transactions name
  | takes holder hacquires => exact Session.transaction_congr hacquires.transactions name
  | givesBack holder hheld => rfl
  | closes => exact Session.transaction_congr (transactions_closeAll _ session) name

end Transaction

end ParamSql
