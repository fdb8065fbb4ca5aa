import ParamSql.Proofs.Executions
import ParamSql.Proofs.Twins

/-!
# The end of a query's work

A query that is executed on the engine ends with a commit if it returns, and with a rollback if it
fails as a query. Only where the key rule refuses a row, the connection goes back to the pool with
what was executed on it neither committed nor rolled back.
-/

namespace ParamSql

open Blocking

/-! ## How the work ends -/

/-- A commit that the driver refused, if one was tried. -/
def refusedCommit (connection : Nat) (failure? : Option Failure) : List Answered :=
  failure?.toList.map fun failure => ⟨.commit connection, .error failure⟩

/-- How work on a connection ends: what was asked for, and what comes of it. -/
inductive Finishes (engine : Engine) (connection : Nat) :
    List Answered → Except Error (List ResultRow) → Prop
  | commits {work : List Answered} {rows : List ResultRow} {cursor? : Option Cursor}
      (hwork : ∀ answered ∈ work, answered.request.Uses (some connection)) :
    Finishes engine connection (work ++ [⟨.commit connection, .ok cursor?⟩]) (.ok rows)
  | undoes {work : List Answered} {failure? : Option Failure} {error : Error}
      {cursor? : Option Cursor}
      (hwork : ∀ answered ∈ work, answered.request.Uses (some connection))
      (herror : error.isQueryFailure = true) :
    Finishes engine connection
      (work ++ refusedCommit connection failure? ++ [⟨.rollback connection, .ok cursor?⟩])
      (.error error)
  | cannotUndo {work : List Answered} {failure? : Option Failure} {failure : Failure}
      (hwork : ∀ answered ∈ work, answered.request.Uses (some connection)) :
    Finishes engine connection
      (work ++ refusedCommit connection failure? ++ [⟨.rollback connection, .error failure⟩])
      (.error (.driver failure))
  /-- The key rule has refused a key with an error that is not one of a query. -/
  | abandons {work : List Answered} {rule : KeyRule} {key : Value} {error : Error}
      (hwork : ∀ answered ∈ work, answered.request.Uses (some connection))
      (hrule : engine.keyRule = some rule) (hkey : rule key = .error error)
      (herror : error.isQueryFailure = false) :
    Finishes engine connection work (.error error)

section Connection

variable {engine : Engine} {connection : Nat} {query : Query} {asked : List Answered}
  {error : Error} {outcome : Except Error (List ResultRow)}

theorem Undone.work (h : Undone engine connection query asked error) :
    ∃ work failure?, asked = work ++ refusedCommit connection failure? ∧
      (∀ answered ∈ work, answered.request.Uses (some connection)) ∧
      error.isQueryFailure = true := by
  cases h with
  | failed hruns => exact ⟨_, none, (List.append_nil _).symm, hruns.uses, rfl⟩
  | uncommitted hruns => exact ⟨_, some _, rfl, hruns.uses, rfl⟩
  | refused hruns hrename herror => exact ⟨_, none, (List.append_nil _).symm, hruns.uses, herror⟩

theorem Verdict.finishes (h : Verdict engine connection query asked outcome) :
    Finishes engine connection asked outcome := by
  cases h with
  | returns hruns hrename => exact .commits hruns.uses
  | raises hundone =>
    obtain ⟨work, failure?, rfl, hwork, herror⟩ := hundone.work
    exact .undoes hwork herror
  | stuck hundone =>
    obtain ⟨work, failure?, rfl, hwork, -⟩ := hundone.work
    exact .cannotUndo hwork
  | refuses hruns hrename herror =>
    obtain ⟨rule, key, hrule, hkey⟩ := error_of_renameRows hrename
    exact .abandons hruns.uses hrule hkey herror

end Connection

/-- A query of the engine asks for nothing but a connection, or it works on the one that it gets, ends
the work and puts the connection back. -/
theorem finishes_executeQuery (engine : Engine) (query : Query) (session : Session) :
    let result := (executeQuery engine query).run session
    (∀ answered ∈ session.talk result.2, answered.request.Manages) ∨
      ∃ connection asked work, session.talk result.2 = asked ++ work ∧
        (∀ answered ∈ asked, answered.request.Manages) ∧
        some connection ∈ result.2.pool.idle ∧ Finishes engine connection work result.1 := by
  intro result
  have hexecutes : Executes engine query session result := executes engine query session
  generalize result = result at hexecutes
  cases hexecutes with
  | notAcquired hacquired =>
    have hacquires := acquires engine session
    rw [hacquired] at hacquires
    exact .inl hacquires.manages
  | onNothing hacquired hpool hmanages => exact .inl hmanages
  | onConnection hacquired hpool htalk hmanages hverdict =>
    refine .inr ⟨_, _, _, htalk, hmanages, ?_, hverdict.finishes⟩
    rw [hpool]
    exact List.mem_cons_self

/-! ## Scripts that let every rollback succeed -/

def Wire.RollsBack (wire : Wire) : Prop := ∀ failure? ∈ wire.script.rollbacks, failure? = none

namespace Wire.RollsBack

variable {wire : Wire} {connection : Nat}

theorem next (h : wire.RollsBack) (event : Event) : (wire.next event).RollsBack := by
  cases event with
  | asked request =>
    cases request
    case rollback => exact fun _ hmem => h _ (List.mem_of_mem_tail hmem)
    all_goals exact h
  | rowFactory connection => exact h
  | debug line => exact h

theorem after (h : wire.RollsBack) (events : List Event) : (wire.after events).RollsBack := by
  induction events generalizing wire with
  | nil => exact h
  | cons event events ih => exact ih (h.next event)

theorem answer (h : wire.RollsBack) : wire.answer (.rollback connection) = .ok none := by
  have hall : ∀ failure? ∈ wire.script.rollbacks, failure? = none := h
  unfold Wire.answer
  cases hscript : wire.script.rollbacks with
  | nil => rfl
  | cons failure? others =>
    rw [hscript] at hall
    rw [hall failure? List.mem_cons_self]
    rfl

theorem answered (h : wire.RollsBack) {events : List Event}
    {answer : Except Failure (Option Cursor)}
    (hmem : ⟨.rollback connection, answer⟩ ∈ wire.answered events) : answer = .ok none := by
  induction events generalizing wire with
  | nil => cases hmem
  | cons event events ih =>
    rcases List.mem_append.1 hmem with hfirst | hrest
    · cases event with
      | asked request =>
        obtain ⟨rfl, rfl⟩ := Answered.mk.inj (List.mem_singleton.1 hfirst)
        exact h.answer
      | rowFactory connection => cases hfirst
      | debug line => cases hfirst
    · exact ih (h.next event) hrest

end Wire.RollsBack

/-! ## Executed queries -/

theorem Finishes.served {engine : Engine} {connection : Nat} {work : List Answered}
    {outcome : Except Error (List ResultRow)} (h : Finishes engine connection work outcome) :
    ∀ answered ∈ work, answered.request.Serves (some connection) := by
  have huses : ∀ {work : List Answered} {failure? : Option Failure},
      (∀ answered ∈ work, answered.request.Uses (some connection)) →
        ∀ answered ∈ work ++ refusedCommit connection failure?,
          answered.request.Serves (some connection) := by
    intro work failure? hwork answered hmem
    rcases List.mem_append.1 hmem with hmem | hmem
    · exact .inl (hwork answered hmem)
    · obtain ⟨failure, -, rfl⟩ := List.mem_map.1 hmem
      exact .inr rfl
  cases h with
  | commits hwork =>
    exact List.forall_mem_append.2 ⟨fun answered hmem => .inl (hwork answered hmem),
      List.forall_mem_singleton.2 (.inr rfl)⟩
  | undoes hwork =>
    exact List.forall_mem_append.2 ⟨huses hwork, List.forall_mem_singleton.2 (.inr rfl)⟩
  | cannotUndo hwork =>
    exact List.forall_mem_append.2 ⟨huses hwork, List.forall_mem_singleton.2 (.inr rfl)⟩
  | abandons hwork => exact fun answered hmem => .inl (hwork answered hmem)

/-- What a query that was executed leaves on its connection: it has returned with a commit as the last
request or failed with a rollback as the last one, or the key rule has failed and nothing was ended. -/
inductive Finished (manner : Manner) (engine : Engine) (connection : Nat) (talk : List Answered) :
    Except Error (List ResultRow) → Prop
  | committed {rows : List ResultRow} {cursor? : Option Cursor}
      (hlast : talk.getLast? = some ⟨.commit connection, .ok cursor?⟩) :
    Finished manner engine connection talk (.ok rows)
  | rolledBack {error : Error} (herror : error.isQueryFailure = true)
      (hlast : talk.getLast? = some ⟨.rollback connection, .ok none⟩) :
    Finished manner engine connection talk (.error error)
  | unfinished {rule : KeyRule} {key : Value} {error : Error}
      (hrule : engine.keyRule = some rule) (hkey : rule key = .error error)
      (herror : error.isQueryFailure = false)
      (hnone : ∀ answered ∈ talk, answered.request.ending? = none) :
    Finished manner engine connection talk (manner.seen (.error error))

theorem Finishes.finished (manner : Manner) {engine : Engine} {connection : Nat}
    {asked work : List Answered} {outcome : Except Error (List ResultRow)}
    (h : Finishes engine connection work outcome)
    (hasked : ∀ answered ∈ asked, answered.request.Manages)
    (hrollbacks : ∀ answer, ⟨.rollback connection, answer⟩ ∈ work → answer = .ok none) :
    Finished manner engine connection (asked ++ work) (manner.seen outcome) := by
  cases h with
  | commits hwork =>
    rw [manner.seen_eq_ok_iff.2 rfl]
    apply Finished.committed
    rw [← List.append_assoc, List.getLast?_concat]
  | @undoes _ _ error _ hwork herror =>
    obtain ⟨told, htold, hfailure⟩ := manner.exists_seen_error error
    rw [htold]
    apply Finished.rolledBack (hfailure.trans herror)
    rw [← List.append_assoc, List.getLast?_concat, hrollbacks _ List.mem_concat_self]
  | cannotUndo hwork => cases hrollbacks _ List.mem_concat_self
  | abandons hwork hrule hkey herror =>
    apply Finished.unfinished hrule hkey herror
    intro answered hmem
    rcases List.mem_append.1 hmem with hmem | hmem
    · exact (hasked answered hmem).not_isWork.2
    · exact (hwork answered hmem).isWork.2

/-- A query that was executed has put its connection back into the pool, and as long as rollbacks
succeed, its work there is finished: unless the key rule fails, which a rollback does not follow. -/
theorem finished_of_execute (manner : Manner) (engine : Engine) (query : Query) (session : Session)
    (hrollbacks : session.wire.RollsBack) :
    let result :=
      manner.run (Blocking.executeQuery engine query) (Waiting.executeQuery engine query) session
    ∀ connection statement answer,
      ⟨.execute connection statement, answer⟩ ∈ session.talk result.2 →
        some connection ∈ result.2.pool.idle ∧
          Finished manner engine connection (session.talk result.2) result.1 := by
  intro result connection statement answer hexecute
  have hresult : result = _ :=
    manner.run_of_mirrors (Waiting.mirrors_executeQuery engine query) session
  rw [hresult] at hexecute ⊢
  have hwork : ∀ request : Request, request.isWork = true → ¬ request.Manages := by
    intro request hwork hmanages
    rw [hmanages.not_isWork.1] at hwork
    cases hwork
  rcases finishes_executeQuery engine query session with hmanages | hfinishes
  · exact absurd (hmanages _ hexecute) (hwork _ rfl)
  obtain ⟨used, asked, work, htalk, hasked, hidle, hfinishes⟩ := hfinishes
  rw [htalk] at hexecute ⊢
  obtain rfl : used = connection := by
    rcases List.mem_append.1 hexecute with hmem | hmem
    · exact absurd (hasked _ hmem) (hwork _ rfl)
    · rcases hfinishes.served _ hmem with huses | hends
      · exact Option.some.inj huses
      · exact hends.elim
  refine ⟨hidle, hfinishes.finished manner hasked fun answer hmem => ?_⟩
  have hanswered :
      ⟨.rollback used, answer⟩ ∈ session.talk ((executeQuery engine query).run session).2 := by
    rw [htalk]
    exact List.mem_append_right _ hmem
  exact hrollbacks.answered hanswered

theorem finished_of_execute_fetch :
    let session := Session.start
      ⟨[], [.results ⟨["id"], [.cells [.int 1]], some ⟨false, "gone"⟩⟩], [], [none], []⟩
    let result := (Blocking.executeQuery (inMemory 1) ⟨"select 1", []⟩).run session
    session.wire.RollsBack ∧ some 1 ∈ result.2.pool.idle ∧
      Finished .blocking (inMemory 1) 1 (session.talk result.2) result.1 ∧
      (session.talk result.2).getLast? = some ⟨.rollback 1, .ok none⟩ := by
  intro session result
  have hrollbacks : session.wire.RollsBack := by
    intro failure? hmem
    exact List.mem_singleton.1 hmem
  have hexecute : _ ∈ session.talk result.2 := List.mem_cons_of_mem _ List.mem_cons_self
  obtain ⟨hidle, hwork⟩ :=
    finished_of_execute .blocking (inMemory 1) ⟨"select 1", []⟩ session hrollbacks 1 _ _ hexecute
  exact ⟨hrollbacks, hidle, hwork, rfl⟩

/-- The key rule refuses a column of a statement that was executed. Its connection is in the pool again
with neither a commit nor a rollback asked for. -/
theorem unfinished_by_key_rule :
    let engine : Engine := { inMemory 1 with keyRule := some KeyRule.refuse }
    let cursor : Cursor := ⟨["a"], [.cells [.int 1]], none⟩
    let session := Session.start ⟨[], [.results cursor], [], [], []⟩
    let result := (Blocking.executeQuery engine ⟨"select 1", []⟩).run session
    session.wire.RollsBack ∧ result.2.pool.idle = [some 1] ∧
      result.1 = .error (.refused "bad key a") ∧
      session.talk result.2 = [⟨engine.opening session, .ok none⟩,
        ⟨.execute 1 ⟨"select 1", []⟩, .ok (some cursor)⟩, ⟨.fetch 1 cursor, .ok none⟩] ∧
      ∀ answered ∈ session.talk result.2, answered.request.ending? = none := by
  intro engine cursor session result
  have htalk : session.talk result.2 = [⟨engine.opening session, .ok none⟩,
      ⟨.execute 1 ⟨"select 1", []⟩, .ok (some cursor)⟩, ⟨.fetch 1 cursor, .ok none⟩] := rfl
  refine ⟨(fun _ hmem => nomatch hmem), rfl, rfl, htalk, ?_⟩
  rw [htalk]
  decide

end ParamSql
