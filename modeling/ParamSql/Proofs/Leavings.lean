import ParamSql.Proofs.Failures
import ParamSql.Proofs.Finishing
import ParamSql.Proofs.LateCalls

/-!
# What a transaction leaves behind

As long as rollbacks succeed, a transaction that is left has ended its work before its connection goes
back to the pool: the last thing done there is a commit that succeeded or a rollback. There is one
exception. If it is left without a reason and the driver refuses the commit, nothing rolls back.
-/

namespace ParamSql

open Blocking

/-! ## The last mark on a connection -/

/-- Executes, commits or rolls back on a connection. -/
def Request.marks (handle : Handle) : Request → Bool
  | .execute connection _ => handle == some connection
  | .commit connection => handle == some connection
  | .rollback connection => handle == some connection
  | _ => false

def marksOn (handle : Handle) (talk : List Answered) : List Answered :=
  talk.filter (·.request.marks handle)

/-- On a connection nothing was executed, or the last thing done there is an ending that succeeded. -/
def Settled (handle : Handle) (talk : List Answered) : Prop :=
  (∀ connection statement answer, handle = some connection →
    ⟨.execute connection statement, answer⟩ ∉ talk) ∨
  ∃ last ending, (marksOn handle talk).getLast? = some last ∧ last.Ended ending

section Marks

variable {handle : Handle} {talk asked : List Answered} {transaction : Transaction}

theorem marksOn_append (more : List Answered) :
    marksOn handle (talk ++ more) = marksOn handle talk ++ marksOn handle more :=
  List.filter_append _ _

theorem marksOn_eq_nil (h : ∀ answered ∈ talk, ¬ answered.request.Serves handle) :
    marksOn handle talk = [] := by
  refine List.filter_eq_nil_iff.2 fun answered hmem hmarks => h answered hmem ?_
  obtain ⟨request, answer⟩ := answered
  cases request
  case execute => exact .inl (eq_of_beq hmarks)
  case commit => exact .inr (eq_of_beq hmarks)
  case rollback => exact .inr (eq_of_beq hmarks)
  all_goals cases hmarks

theorem marks_of_ending {request : Request} {ending : Ending} (hserves : request.Serves handle)
    (hending : request.ending? = some ending) : request.marks handle = true := by
  cases request
  case commit => exact beq_iff_eq.2 (hserves.resolve_left id)
  case rollback => exact beq_iff_eq.2 (hserves.resolve_left id)
  all_goals cases hending

theorem rollback_of_precedes {earlier later : Answered} {ending : Ending}
    (hended : earlier.Ended ending) (hprecedes : earlier.Precedes later)
    (hmarks : later.request.marks handle = true) : ∃ connection, later.request = .rollback connection := by
  obtain ⟨request, answer⟩ := later
  cases ending with
  | commit =>
    obtain ⟨hwork, hnone⟩ := hprecedes.1 hended
    cases request
    case execute => cases hwork
    case commit => cases hnone
    case rollback => cases hnone
    all_goals cases hmarks
  | rollback =>
    obtain ⟨hwork, hending⟩ := hprecedes.2 hended
    cases request
    case execute => cases hwork
    case commit => exact absurd rfl hending
    case rollback connection => exact ⟨connection, rfl⟩
    all_goals cases hmarks

theorem ended_of_follows (h : transaction.Follows asked) (hactive : transaction.state ≠ .active)
    (hserves : ∀ answered ∈ asked, answered.request.Serves handle)
    (hrollbacks : ∀ connection answer, ⟨.rollback connection, answer⟩ ∈ asked → answer = .ok none) :
    ∃ last ending, (marksOn handle asked).getLast? = some last ∧ last.Ended ending := by
  obtain ⟨earlier, hmem, ending, hended⟩ := h.active_or_ended.resolve_left hactive
  have hmark : earlier ∈ marksOn handle asked :=
    List.mem_filter.2 ⟨hmem, marks_of_ending (hserves earlier hmem) hended.1⟩
  have hordered : (marksOn handle asked).Pairwise Answered.Precedes := h.ordered.filter _
  obtain ⟨marks, last, hmarks⟩ :=
    (List.eq_nil_or_concat' (marksOn handle asked)).resolve_left (List.ne_nil_of_mem hmark)
  have hlast : last ∈ marksOn handle asked := hmarks ▸ List.mem_concat_self
  rw [hmarks] at hmark hordered ⊢
  rw [List.getLast?_concat]
  rcases List.mem_append.1 hmark with hmark | hmark
  · obtain ⟨hasked, hmarks⟩ := List.mem_filter.1 hlast
    have hprecedes := (List.pairwise_append.1 hordered).2.2 earlier hmark last List.mem_cons_self
    obtain ⟨connection, hrequest⟩ := rollback_of_precedes hended hprecedes hmarks
    obtain ⟨request, answer⟩ := last
    obtain rfl : request = .rollback connection := hrequest
    exact ⟨_, .rollback, rfl, rfl, none, hrollbacks connection answer hasked⟩
  · obtain rfl := List.mem_singleton.1 hmark
    exact ⟨_, ending, rfl, hended⟩

end Marks

/-! ## From entering to leaving -/

def Session.through (manner : Manner) (engine : Engine) (session : Session) (steps : List Step) :
    Session :=
  steps.foldl (fun before step => (manner.step engine step before).2) session

/-- A step that leaves a transaction and its connection alone. -/
structure Step.Spares (manner : Manner) (engine : Engine) (session : Session) (name : String)
    (handle : Handle) (step : Step) : Prop where
  owner : step.owner? ≠ some name
  begin : step ≠ .begin name
  talk : ∀ answered ∈ session.talk (manner.step engine step session).2,
    ¬ answered.request.Serves handle

/-- A transaction executes, commits and rolls back, and nothing else is done to it and its
connection. -/
def Window (manner : Manner) (engine : Engine) (name : String) (handle : Handle) :
    Session → List Step → Prop
  | _, [] => True
  | session, step :: steps =>
    (step.user? = some name ∨ step.Spares manner engine session name handle) ∧
      Window manner engine name handle (manner.step engine step session).2 steps

/-- Since it was entered, a transaction has asked for the marks on its connection, and they have made
its state. -/
structure Within (name : String) (handle : Handle) (entered session : Session)
    (asked : List Answered) : Prop where
  connection : (session.transaction name).connection = handle
  follows : (session.transaction name).Follows asked
  serves : ∀ answered ∈ asked, answered.request.Serves handle
  wire : ∃ events, session.wire = entered.wire.after events
  marks : marksOn handle (entered.talk session) = marksOn handle asked

section Window

variable {manner : Manner} {engine : Engine} {name : String} {handle : Handle}
  {entered session after : Session} {asked : List Answered} {step : Step}

theorem used_of_user (huser : step.user? = some name) :
    session.Used name (manner.step engine step session).2 := by
  rw [manner.session_step]
  obtain ⟨-, hused⟩ | ⟨_, rfl, -⟩ | ⟨_, _, rfl, -⟩ | ⟨_, _, rfl, -⟩ :=
    (transition engine session step).of_owner (Step.owner?_of_user huser)
  · exact hused
  all_goals cases huser

namespace Within

theorem start (h : (session.transaction name).state = .active) :
    Within name (session.transaction name).connection session session [] where
  connection := rfl
  follows := .entered h
  serves := fun _ hmem => nomatch hmem
  wire := ⟨[], rfl⟩
  marks := congrArg (marksOn _) session.talk_self

theorem used (h : Within name handle entered session asked) (hused : session.Used name after) :
    Within name handle entered after (asked ++ session.talk after) := by
  obtain ⟨events, hwire⟩ := h.wire
  obtain ⟨more, hmore⟩ := hused.wire
  refine ⟨hused.moves.connection.trans h.connection, h.follows.moves hused.moves, ?_,
    ⟨events ++ more, ?_⟩, ?_⟩
  · exact List.forall_mem_append.2 ⟨h.serves, h.connection ▸ hused.moves.serves⟩
  · rw [Wire.after_append, ← hwire, hmore]
  · rw [Session.talk_append hwire hmore, marksOn_append, h.marks, marksOn_append]

theorem spared (h : Within name handle entered session asked)
    (hspares : step.Spares manner engine session name handle) :
    Within name handle entered (manner.step engine step session).2 asked := by
  obtain ⟨events, hwire⟩ := h.wire
  have htalk := hspares.talk
  rw [manner.session_step] at htalk ⊢
  obtain ⟨more, hmore, -⟩ := tells_step engine step session
  have hsame := (transition engine session step).transaction_of_ne hspares.owner hspares.begin
  refine ⟨hsame ▸ h.connection, hsame ▸ h.follows, h.serves, ⟨events ++ more, ?_⟩, ?_⟩
  · rw [Wire.after_append, ← hwire, hmore]
  · rw [Session.talk_append hwire hmore, marksOn_append, h.marks, marksOn_eq_nil htalk,
      List.append_nil]

theorem through {steps : List Step} (h : Within name handle entered session asked)
    (hwindow : Window manner engine name handle session steps) :
    ∃ asked, Within name handle entered (session.through manner engine steps) asked := by
  induction steps generalizing session asked with
  | nil => exact ⟨asked, h⟩
  | cons step steps ih =>
    obtain ⟨huser | hspares, hwindow⟩ := hwindow
    · exact ih (h.used (used_of_user huser)) hwindow
    · exact ih (h.spared hspares) hwindow

theorem rollbacks (h : Within name handle entered session asked)
    (hrollbacks : entered.wire.RollsBack) (connection : Nat) (answer : Except Failure (Option Cursor))
    (hmem : ⟨.rollback connection, answer⟩ ∈ asked) : answer = .ok none := by
  obtain ⟨events, hwire⟩ := h.wire
  have hmark : ⟨.rollback connection, answer⟩ ∈ marksOn handle asked :=
    List.mem_filter.2 ⟨hmem, marks_of_ending (h.serves _ hmem) rfl⟩
  rw [← h.marks, Session.talk_of_wire hwire] at hmark
  exact hrollbacks.answered (List.mem_filter.1 hmark).1

end Within

theorem active_of_entered {before : Session}
    (h : manner.step engine (.enter name) before = (.ok .entered, entered)) :
    (entered.transaction name).state = .active := by
  rw [manner.step_of_awaited engine rfl, run_step_enter, run_enter] at h
  obtain ⟨houtcome, rfl⟩ := Prod.mk.inj h
  have hentered := manner.seen_eq_ok_iff.1 houtcome
  generalize (acquire engine).run before = acquired at hentered
  obtain ⟨error | handle, after⟩ := acquired
  · cases hentered
  · rw [Session.transaction_setTransaction_self]

end Window

/-! ## Leaving -/

/-- A transaction that is still open is left without a reason, and the driver refuses the commit. -/
structure CommitRefused (session : Session) (name : String) (reason : Option String)
    (connection : Nat) (failure : Failure) : Prop where
  active : (session.transaction name).state = .active
  unreasoned : reason = none
  held : (session.transaction name).connection = some connection
  refused : session.wire.answer (.commit connection) = .error failure

section Leaving

variable {name : String} {handle : Handle} {entered session : Session} {asked : List Answered}
  {reason : Option String}

theorem settled_of_finish (h : Within name handle entered session asked)
    (hrollbacks : entered.wire.RollsBack) :
    Settled handle (entered.talk ((finish name reason).run session).2) ∨
      ∃ connection failure, CommitRefused session name reason connection failure := by
  have hfinished := h.used (used_finish name reason session)
  by_cases hended : (((finish name reason).run session).2.transaction name).state = .active
  · have hactive : (session.transaction name).state = .active :=
      (used_finish name reason session).moves.active_of_active hended
    have hends := ends_finish hactive reason
    generalize (finish name reason).run session = result at hends hended
    cases hends with
    | noConnection hnone =>
      obtain rfl : none = handle := hnone.symm.trans h.connection
      exact .inl (.inl fun _ _ _ hhandle => nomatch hhandle)
    | fails hconnection hanswer =>
      rw [answer_leavingEvents] at hanswer
      cases reason with
      | none => exact .inr ⟨_, _, hactive, rfl, hconnection, hanswer⟩
      | some reason =>
        obtain ⟨events, hwire⟩ := h.wire
        have hrolledBack : session.wire.RollsBack := hwire ▸ hrollbacks.after events
        cases hrolledBack.answer.symm.trans hanswer
    | succeeds hconnection hanswer =>
      rw [Session.transaction_setTransaction_self] at hended
      cases reason
      · cases hended
      · cases hended
  · refine .inl (.inr ?_)
    rw [hfinished.marks]
    exact ended_of_follows hfinished.follows hended hfinished.serves
      (hfinished.rollbacks hrollbacks)

theorem unended_of_commitRefused (h : Within name handle entered session asked) {connection : Nat}
    {failure : Failure} (hrefused : CommitRefused session name reason connection failure) :
    ((finish name reason).run session).1 = .error (.driver failure) ∧
      (marksOn handle (entered.talk ((finish name reason).run session).2)).getLast? =
        some ⟨.commit connection, .error failure⟩ := by
  obtain ⟨hactive, rfl, hconnection, hanswer⟩ := hrefused
  have hasked : session.talk ((finish name none).run session).2 =
      [⟨.commit connection, .error failure⟩] := by
    rw [talk_finish hactive none, hconnection, ← hanswer]
    rfl
  have hmarks := (h.used (used_finish name none session)).marks
  have hends := ends_finish hactive none
  refine ⟨?_, ?_⟩
  · generalize (finish name none).run session = result at hends
    cases hends with
    | noConnection hnone => cases hnone.symm.trans hconnection
    | fails hheld hfails =>
      obtain rfl := Option.some.inj (hheld.symm.trans hconnection)
      obtain rfl := Except.error.inj (hfails.symm.trans hanswer)
      rfl
    | succeeds hheld hsucceeds =>
      obtain rfl := Option.some.inj (hheld.symm.trans hconnection)
      cases hsucceeds.symm.trans hanswer
  · have hlast : marksOn handle [⟨.commit connection, .error failure⟩] =
        [⟨.commit connection, .error failure⟩] := by
      rw [← h.connection, hconnection]
      simp [marksOn, Request.marks]
    rw [hmarks, hasked, marksOn_append, hlast, List.getLast?_concat]

end Leaving

/-- If rollbacks succeed, a transaction that was entered and is left has settled its connection before
it puts it back, unless it is left without a reason while it is open and the commit is refused. -/
theorem settled_of_leaving (manner : Manner) (engine : Engine) (name : String)
    (before entered : Session)
    (henter : manner.step engine (.enter name) before = (.ok .entered, entered)) (steps : List Step)
    (hwindow : Window manner engine name (entered.transaction name).connection entered steps)
    (hrollbacks : entered.wire.RollsBack) (reason : Option String) :
    let handle := (entered.transaction name).connection
    let session := entered.through manner engine steps
    let result := manner.step engine (.leave name reason) session
    result.2.pool = { session.pool with idle := handle :: session.pool.idle } ∧
    (Settled handle (entered.talk result.2) ∨
      ∃ connection failure, CommitRefused session name reason connection failure) ∧
    ∀ connection failure, CommitRefused session name reason connection failure →
      result.1 = .error (.driver failure) ∧
        (marksOn handle (entered.talk result.2)).getLast? =
          some ⟨.commit connection, .error failure⟩ := by
  intro handle session result
  obtain ⟨asked, hwithin⟩ := (Within.start (active_of_entered henter)).through hwindow
  have hused := used_finish name reason session
  have hresult : result = _ := manner.step_of_awaited engine rfl session
  rw [hresult, run_step_leave engine name session reason]
  refine ⟨?_, settled_of_finish hwithin hrollbacks, fun connection failure hrefused => ?_⟩
  · have hhandle : (((finish name reason).run session).2.transaction name).connection = handle :=
      hused.moves.connection.trans hwithin.connection
    show Pool.mk (_ :: _) _ = _
    rw [hhandle, hused.pool]
  · obtain ⟨houtcome, hlast⟩ := unended_of_commitRefused hwithin hrefused
    refine ⟨?_, hlast⟩
    show manner.seen (((finish name reason).run session).1.map _) = _
    rw [houtcome]
    exact manner.seen_of_plain (.error rfl)

/-- A commit fails inside the window and is caught. The transaction is left with a reason, and its work
is rolled back. -/
theorem settled_of_leaving_caught :
    let before := Session.start ⟨[], [], [some ⟨false, "locked"⟩], [], []⟩
    let entered := (Manner.waiting.step (inMemory 1) (.enter "tx") before).2
    let steps : List Step := [.query (some "tx") ⟨"delete from t", []⟩, .commit "tx"]
    let result := Manner.waiting.step (inMemory 1) (.leave "tx" (some "DriverError"))
      (entered.through .waiting (inMemory 1) steps)
    Window .waiting (inMemory 1) "tx" (some 1) entered steps ∧ entered.wire.RollsBack ∧
      result.2.pool.idle = [some 1] ∧ Settled (some 1) (entered.talk result.2) := by
  intro before entered steps result
  have henter : Manner.waiting.step (inMemory 1) (.enter "tx") before = (.ok .entered, entered) :=
    Prod.ext rfl rfl
  have hhandle : (entered.transaction "tx").connection = some 1 := by decide +kernel
  have hidle : result.2.pool.idle = [some 1] := by decide +kernel
  have hrollbacks : entered.wire.RollsBack := fun _ hmem => nomatch hmem
  have hwindow : Window .waiting (inMemory 1) "tx" (some 1) entered steps :=
    ⟨.inl rfl, .inl rfl, trivial⟩
  have hresult : result = Manner.waiting.step (inMemory 1) (.leave "tx" (some "DriverError"))
    (entered.through .waiting (inMemory 1) steps) := rfl
  clear_value entered result
  obtain ⟨-, hsettled, -⟩ := settled_of_leaving .waiting (inMemory 1) "tx" before entered henter steps
    (hhandle ▸ hwindow) hrollbacks (some "DriverError")
  rw [hhandle, ← hresult] at hsettled
  refine ⟨hwindow, hrollbacks, hidle, hsettled.resolve_right ?_⟩
  rintro ⟨connection, failure, hrefused⟩
  cases hrefused.unreasoned

/-- The commit of a transaction that is left is refused. Its connection is in the pool with a statement
executed on it that is neither committed nor rolled back. -/
theorem unsettled_by_refused_commit :
    let before := Session.start ⟨[], [], [some ⟨false, "locked"⟩], [], []⟩
    let entered := ((Blocking.step (inMemory 1) (.enter "tx")).run before).2
    let steps : List Step := [.query (some "tx") ⟨"delete from t", []⟩]
    let result := (Blocking.step (inMemory 1) (.leave "tx" none)).run
      (entered.through .blocking (inMemory 1) steps)
    Window .blocking (inMemory 1) "tx" (some 1) entered steps ∧ entered.wire.RollsBack ∧
      result.2.pool.idle = [some 1] ∧
      entered.talk result.2 = [⟨.execute 1 ⟨"delete from t", []⟩, .ok none⟩,
        ⟨.commit 1, .error ⟨false, "locked"⟩⟩] ∧
      ¬ Settled (some 1) (entered.talk result.2) := by
  intro before entered steps result
  have htalk : entered.talk result.2 = [⟨.execute 1 ⟨"delete from t", []⟩, .ok none⟩,
      ⟨.commit 1, .error ⟨false, "locked"⟩⟩] := rfl
  refine ⟨⟨.inl rfl, trivial⟩, (fun _ hmem => nomatch hmem), rfl, htalk, ?_⟩
  rw [htalk]
  rintro (hnone | ⟨last, ending, hlast, -, cursor?, hanswer⟩)
  · exact hnone 1 _ _ rfl List.mem_cons_self
  · obtain rfl := Option.some.inj hlast
    cases hanswer

end ParamSql
