import Mathlib.Data.List.Induction
import ParamSql.Proofs.Windows

/-!
# Late calls

While its window is open, all that a transaction asks is asked on the connection that it holds. After
that its calls are refused, with two exceptions: a transaction that was rolled back may roll back
again, and one whose ending failed when it was left is still active. Either call goes to the
connection that was given back, and by then somebody else may hold it.
-/

namespace ParamSql

open Blocking

variable {engine : Engine} {session : Session} {name : String}

/-! ## Refused calls -/

def Step.action : Step → TransactionAction
  | .commit _ => .commit
  | .rollback _ => .rollback
  | _ => .execute

theorem action_of_query {step : Step} {found : Executor × Except Error Query}
    (h : step.queryOf engine = some found) : step.action = .execute := by
  cases step
  case commit => cases h
  case rollback => cases h
  all_goals rfl

/-- A call fails and nothing else happens: either its query cannot be made, or the transaction is in
the wrong state for it. -/
def Refused (engine : Engine) (session : Session) (name : String) (step : Step) : Prop :=
  (∃ error, step.queryOf engine = some (some name, .error error) ∧
    (Blocking.step engine step).run session = (.error error, session)) ∨
  (Blocking.step engine step).run session =
    (.error (.wrongState (session.transaction name).state.name step.action.name), session)

theorem refused_end (ending : Ending)
    (h : (session.transaction name).allows ending.action = false) :
    Refused engine session name (ending.step name) := by
  have hrun := run_step_end engine name session ending
  rw [run_call_of_not_allows h] at hrun
  cases ending
  · exact .inr hrun
  · exact .inr hrun

theorem talk_end (ending : Ending) {connection : Nat}
    (h : (session.transaction name).allows ending.action = true)
    (hconnection : (session.transaction name).connection = some connection) :
    session.talk ((Blocking.step engine (ending.step name)).run session).2 =
      [⟨ending.request connection, session.wire.answer (ending.request connection)⟩] := by
  rw [run_step_end]
  show session.talk ((ending.call name).run session).2 = _
  rw [(ends_call h).talk, hconnection]
  rfl

theorem refused_query {step : Step} {compiled : Except Error Query}
    (hquery : step.queryOf engine = some (some name, compiled))
    (h : (session.transaction name).state ≠ .active) : Refused engine session name step := by
  cases compiled with
  | error error => exact .inl ⟨error, hquery, run_step_of_error hquery session⟩
  | ok query =>
    obtain ⟨finish, hrun⟩ := run_step_of_ok hquery
    refine .inr ?_
    rw [hrun, executeBy, run_executeIn_of_not_active engine h, action_of_query hquery]
    rfl

theorem refused_of_not_allows {step : Step} (huser : step.user? = some name)
    (h : (session.transaction name).allows step.action = false) :
    Refused engine session name step := by
  obtain ⟨compiled, hquery⟩ | ⟨ending, rfl⟩ := query_or_end_of_user engine huser
  · refine refused_query hquery fun hactive => ?_
    rw [(Transaction.allows_iff _ _).2 (.inl hactive)] at h
    cases h
  · cases ending
    · exact refused_end .commit h
    · exact refused_end .rollback h

/-! ## Active without a window -/

theorem Transaction.Moves.active_of_active {transaction after : Transaction} {asked : List Answered}
    (h : transaction.Moves asked after) (hafter : after.state = .active) :
    transaction.state = .active := by
  cases h with
  | rests => exact hafter
  | works hactive huses => exact hactive
  | ends ending hallows hconnection =>
    cases ending
    · cases hafter
    · cases hafter
  | fails ending hallows hconnection => exact hafter

theorem error_of_left {reason : Option String}
    (h : (((Blocking.step engine (.leave name reason)).run session).2.transaction name).state =
      .active) :
    ∃ error, ((Blocking.step engine (.leave name reason)).run session).1 = .error error := by
  rw [run_step_leave] at h ⊢
  change (((finish name reason).run session).2.transaction name).state = .active at h
  show ∃ error, ((finish name reason).run session).1.map _ = .error error
  by_cases hactive : (session.transaction name).state = .active
  · have hends := ends_finish hactive reason
    generalize (finish name reason).run session = result at hends h
    cases hends with
    | noConnection hconnection => exact ⟨_, rfl⟩
    | fails hconnection hanswer => exact ⟨_, rfl⟩
    | succeeds hconnection hanswer =>
      rw [Session.transaction_setTransaction_self] at h
      cases reason
      · cases h
      · cases h
  · rw [run_finish_of_not_active hactive] at h
    exact absurd h hactive

namespace Progress

variable {windows : List String} {outcome : Except Error Outcome}

theorem mem_windowsAfter_entered : name ∈ windowsAfter windows (.enter name) (.ok .entered) :=
  List.mem_cons_self

theorem mem_windowsAfter {step : Step} (hmem : name ∈ windows)
    (hleave : ∀ reason, step ≠ .leave name reason) : name ∈ windowsAfter windows step outcome := by
  cases step with
  | enter other =>
    cases outcome with
    | ok outcome => exact List.mem_cons_of_mem other hmem
    | error error => exact hmem
  | leave other reason =>
    have hne : name ≠ other := fun heq => hleave reason (congrArg (Step.leave · reason) heq.symm)
    exact (List.mem_erase_of_ne hne).2 hmem
  | _ => exact hmem

/-- The transaction was last left while its ending failed, and it has not been begun anew. -/
def Unended (engine : Engine) (progress : Progress) (steps : List Step) (name : String) : Prop :=
  ∃ before reason later error, steps = before ++ .leave name reason :: later ∧
    ((Blocking.step engine (.leave name reason)).run (progress.run engine before).session).1 =
      .error error ∧
    .begin name ∉ later ∧ ∀ reason, .leave name reason ∉ later

theorem Unended.later {progress : Progress} {steps : List Step} {step : Step}
    (h : Unended engine progress steps name) (hbegin : step ≠ .begin name)
    (hleave : ∀ reason, step ≠ .leave name reason) :
    Unended engine progress (steps ++ [step]) name := by
  obtain ⟨before, reason, later, error, rfl, herror, hbegun, hleft⟩ := h
  refine ⟨before, reason, later ++ [step], error, List.append_assoc _ _ _, herror, ?_, ?_⟩
  · intro hmem
    exact (List.mem_append.1 hmem).elim hbegun fun hmem => hbegin (List.mem_singleton.1 hmem).symm
  · intro reason hmem
    exact (List.mem_append.1 hmem).elim (hleft reason) fun hmem =>
      hleave reason (List.mem_singleton.1 hmem).symm

theorem active_before {progress : Progress} {step : Step}
    (hactive : ((progress.next engine step).session.transaction name).state = .active)
    (hwindow : name ∉ (progress.next engine step).windows)
    (hleave : ∀ reason, step ≠ .leave name reason) :
    step ≠ .begin name ∧ (progress.session.transaction name).state = .active ∧
      name ∉ progress.windows := by
  have hbegin : step ≠ .begin name := by
    rintro rfl
    change ((progress.session.setTransaction name .fresh).transaction name).state = _ at hactive
    rw [Session.transaction_setTransaction_self] at hactive
    cases hactive
  refine ⟨hbegin, ?_, fun hmem => hwindow (mem_windowsAfter hmem hleave)⟩
  have htransition := transition engine progress.session step
  unfold next at hactive hwindow
  generalize (Blocking.step engine step).run progress.session = result at *
  by_cases howner : step.owner? = some name
  · rcases htransition.of_owner howner with ⟨-, hused⟩ | ⟨error, -, -, hacquires⟩ |
      ⟨handle, after, rfl, -, rfl⟩ | ⟨reason, after, rfl, -⟩
    · exact hused.moves.active_of_active hactive
    · rw [← Session.transaction_congr hacquires.transactions name]
      exact hactive
    · exact absurd mem_windowsAfter_entered hwindow
    · exact absurd rfl (hleave reason)
  · rw [← htransition.transaction_of_ne howner hbegin]
    exact hactive

theorem run_append (progress : Progress) (steps : List Step) (step : Step) :
    progress.run engine (steps ++ [step]) = (progress.run engine steps).next engine step :=
  List.foldl_append

theorem unended_of_active {script : Script} {steps : List Step}
    (hactive : ((Progress.run engine (.start script) steps).session.transaction name).state =
      .active)
    (hwindow : name ∉ (Progress.run engine (.start script) steps).windows) :
    Unended engine (.start script) steps name := by
  -- From the end of the run, because the last time it was left decides.
  induction steps using List.reverseRecOn with
  | nil => cases hactive
  | append_singleton steps step ih =>
    rw [run_append] at hactive hwindow
    by_cases hleave : ∃ reason, step = .leave name reason
    · obtain ⟨reason, rfl⟩ := hleave
      obtain ⟨error, herror⟩ := error_of_left hactive
      exact ⟨steps, reason, [], error, rfl, herror, List.not_mem_nil, fun _ => List.not_mem_nil⟩
    · have hleave := not_exists.1 hleave
      obtain ⟨hbegin, hbefore, hout⟩ := active_before hactive hwindow hleave
      exact (ih hbefore hout).later hbegin hleave

end Progress

/-! ## Inside and outside of the windows -/

theorem manages_of_entering : ∀ answered ∈
    session.talk ((Blocking.step engine (.enter name)).run session).2, answered.request.Manages := by
  have htransition := transition engine session (.enter name)
  generalize (Blocking.step engine (.enter name)).run session = result at htransition
  cases htransition with
  | rests howner => cases howner
  | borrowsNone hquery hacquires => cases hquery
  | borrows hquery hacquires hserves => cases hquery
  | uses huser hused => cases huser
  | entersNone other hacquires => exact hacquires.manages
  | enters other hacquires => exact hacquires.manages

theorem manages_or_serves {step : Step} (howner : step.owner? = some name) :
    ∀ answered ∈ session.talk ((Blocking.step engine step).run session).2,
      answered.request.Manages ∨ answered.request.Serves (session.transaction name).connection := by
  obtain hmanages | ⟨after, hmoves⟩ := (transition engine session step).manages_or_moves howner
  · exact fun answered hmem => .inl (hmanages answered hmem)
  · exact fun answered hmem => .inr (hmoves.serves answered hmem)

/-- A transaction has a connection to itself: it is open, it is not in the pool, and no other window
has it. -/
structure Progress.Holds (script : Script) (progress : Progress) (name : String)
    (connection : Nat) : Prop where
  acquired : (progress.session.transaction name).connection = some connection
  not_idle : some connection ∉ progress.session.pool.idle
  live : Live (progress.session.history script) connection
  alone : ∀ other ∈ progress.windows,
    (progress.session.transaction other).connection = some connection → other = name

theorem Progress.holds_of_mem {script : Script} {progress : Progress}
    (h : Ledger script progress.session progress.held) (hmem : name ∈ progress.windows) :
    ∃ connection, progress.Holds script name connection := by
  obtain ⟨hheld, -, hdisjoint⟩ := List.nodup_append.1 h.nodup
  have hin : (progress.session.transaction name).connection ∈ progress.held :=
    List.mem_map.2 ⟨name, hmem, rfl⟩
  obtain ⟨connection, hconnection, hlive⟩ := (h.mem_iff _).1 (List.mem_append_left _ hin)
  rw [hconnection] at hin
  refine ⟨connection, hconnection, fun hidle => hdisjoint _ hin _ hidle rfl, hlive, ?_⟩
  intro other hother heq
  exact List.inj_on_of_nodup_map hheld hother hmem (heq.trans hconnection.symm)

/-- The calls that are not refused although the transaction has no window. -/
inductive Stray (engine : Engine) (script : Script) (steps : List Step) (name : String) :
    Step → Prop
  | rollsBackAgain (h : ((Progress.run engine (.start script) steps).session.transaction name).state =
      .rolledBack) : Stray engine script steps name (.rollback name)
  | unended {step : Step}
      (h : ((Progress.run engine (.start script) steps).session.transaction name).state = .active)
      (hleft : Progress.Unended engine (.start script) steps name) :
    Stray engine script steps name step

theorem refused_or_stray {script : Script} {steps : List Step} {step : Step}
    (hwindow : name ∉ (Progress.run engine (.start script) steps).windows)
    (huser : step.user? = some name) :
    Refused engine (Progress.run engine (.start script) steps).session name step ∨
      Stray engine script steps name step := by
  cases hallows : ((Progress.run engine (.start script) steps).session.transaction name).allows
      step.action with
  | false => exact .inl (refused_of_not_allows huser hallows)
  | true =>
    rcases (Transaction.allows_iff _ _).1 hallows with hactive | ⟨hrolledBack, haction⟩
    · exact .inr (.unended hactive (Progress.unended_of_active hactive hwindow))
    · cases step
      case rollback other =>
        obtain rfl := Option.some.inj huser
        exact .inr (.rollsBackAgain hrolledBack)
      all_goals cases haction

/-- While transactions are entered and left in turn, one that has a window holds a connection, and
it executes, commits and rolls back on no other. Without a window its calls are refused, unless it was
rolled back and rolls back again, or could not be ended when it was left. -/
theorem connection_of_calls (engine : Engine) (script : Script) (steps : List Step)
    (h : Progress.Paired engine (.start script) steps) (name : String) :
    let progress := Progress.run engine (.start script) steps
    let asks := fun step => progress.session.talk ((Blocking.step engine step).run progress.session).2
    (name ∈ progress.windows → ∃ connection, progress.Holds script name connection) ∧
    (∀ answered ∈ asks (.enter name), answered.request.Manages) ∧
    (∀ step, step.owner? = some name → ∀ answered ∈ asks step, answered.request.Manages ∨
      answered.request.Serves (progress.session.transaction name).connection) ∧
    (name ∉ progress.windows → ∀ step, step.user? = some name →
      Refused engine progress.session name step ∨ Stray engine script steps name step) := by
  intro progress asks
  have hledger : Ledger script progress.session progress.held :=
    Progress.ledger_run (Ledger.start script) h
  exact ⟨Progress.holds_of_mem hledger, manages_of_entering, fun step => manages_or_serves,
    fun hwindow step => refused_or_stray hwindow⟩

/-- One transaction has committed when another one takes over its connection. It may not roll back any
more. -/
theorem connection_of_calls_committed :
    let script : Script := ⟨[], [], [], [], []⟩
    let steps : List Step := [.begin "a", .enter "a", .leave "a" none, .begin "b", .enter "b"]
    let progress := Progress.run (inMemory 1) (.start script) steps
    Progress.Paired (inMemory 1) (.start script) steps ∧ progress.held = [some 1] ∧
      "b" ∈ progress.windows ∧ "a" ∉ progress.windows ∧
      progress.Holds script "b" 1 ∧
      (Blocking.step (inMemory 1) (.rollback "a")).run progress.session =
        (.error (.wrongState "committed" "rollback"), progress.session) := by
  intro script steps
  have hpaired : Progress.Paired (inMemory 1) (.start script) steps := by
    decide +kernel
  have hheld : (Progress.run (inMemory 1) (.start script) steps).held = [some 1] := by
    decide +kernel
  have hwindows : (Progress.run (inMemory 1) (.start script) steps).windows = ["b"] := by
    decide +kernel
  have hstate : ((Progress.run (inMemory 1) (.start script) steps).session.transaction
      "a").state = .committed := by
    decide +kernel
  have hcalls := connection_of_calls (inMemory 1) script steps hpaired
  have hstray : ¬ Stray (inMemory 1) script steps "a" (.rollback "a") := by
    rintro (hrolledBack | ⟨hactive, -⟩)
    · cases hstate.symm.trans hrolledBack
    · cases hstate.symm.trans hactive
  generalize Progress.run (inMemory 1) (.start script) steps = progress at *
  obtain ⟨hinside, -⟩ := hcalls "b"
  obtain ⟨-, -, -, houtside⟩ := hcalls "a"
  have hb : "b" ∈ progress.windows := by simp [hwindows]
  have ha : "a" ∉ progress.windows := by simp [hwindows]
  obtain ⟨connection, hholds⟩ := hinside hb
  have hin : (progress.session.transaction "b").connection ∈ progress.held :=
    List.mem_map.2 ⟨"b", hb, rfl⟩
  rw [hholds.acquired, hheld, List.mem_singleton] at hin
  obtain rfl := Option.some.inj hin
  refine ⟨hpaired, hheld, hb, ha, hholds, ?_⟩
  rcases (houtside ha (.rollback "a") rfl).resolve_right hstray with ⟨error, hquery, -⟩ | hrefused
  · cases hquery
  · rw [hstate] at hrefused
    exact hrefused

/-- A transaction that rolled back and was left rolls back the connection of another one. -/
theorem rollback_after_release :
    let script : Script := ⟨[], [], [], [], []⟩
    let steps : List Step := [.begin "a", .enter "a", .rollback "a", .leave "a" none, .begin "b",
      .enter "b"]
    let progress := Progress.run (inMemory 1) (.start script) steps
    Progress.Paired (inMemory 1) (.start script) steps ∧ progress.windows = ["b"] ∧
      progress.held = [some 1] ∧
      progress.session.talk ((Blocking.step (inMemory 1) (.rollback "a")).run progress.session).2 =
        [⟨.rollback 1, .ok none⟩] ∧
      ¬ Refused (inMemory 1) progress.session "a" (.rollback "a") := by
  intro script steps
  have hpaired : Progress.Paired (inMemory 1) (.start script) steps := by decide +kernel
  have hwindows : (Progress.run (inMemory 1) (.start script) steps).windows = ["b"] := by
    decide +kernel
  have hheld : (Progress.run (inMemory 1) (.start script) steps).held = [some 1] := by
    decide +kernel
  have hallows : ((Progress.run (inMemory 1) (.start script) steps).session.transaction
      "a").allows .rollback = true := by
    decide +kernel
  have hconnection : ((Progress.run (inMemory 1) (.start script) steps).session.transaction
      "a").connection = some 1 := by
    decide +kernel
  have hrollbacks :
      (Progress.run (inMemory 1) (.start script) steps).session.wire.script.rollbacks = [] := by
    decide +kernel
  generalize Progress.run (inMemory 1) (.start script) steps = progress at *
  have hanswer : progress.session.wire.answer (.rollback 1) = .ok none := by
    rw [Wire.answer, hrollbacks]
    rfl
  have htalk : progress.session.talk
      ((Blocking.step (inMemory 1) (.rollback "a")).run progress.session).2 =
        [⟨.rollback 1, progress.session.wire.answer (.rollback 1)⟩] :=
    talk_end .rollback hallows hconnection
  rw [hanswer] at htalk
  refine ⟨hpaired, hwindows, hheld, htalk, ?_⟩
  rintro (⟨error, hquery, -⟩ | hrun)
  · cases hquery
  · rw [hrun, Session.talk_self] at htalk
    cases htalk

end ParamSql
