import ParamSql.Proofs.Accounts

/-!
# Capacity

The pool counts as open what is in it and what was handed out. Closing a connection takes it off the
count only if the driver closes it: one that could not be closed is gone and stays counted, and the
pool opens one connection less from then on.
-/

namespace ParamSql

open Blocking

/-! ## The surplus of the count -/

namespace Custody

/-- How many connections the pool counts that are neither in it nor handed out. -/
def surplus (custody : Custody) : Int :=
  custody.session.pool.opened - (custody.session.pool.idle.length + custody.out.length)

/-- Whether a call gives back what was not handed out. -/
def strays (custody : Custody) (call : PoolCall) : Nat := if custody.Allows call then 0 else 1

/-- Whether a call fails to close a connection. -/
def loses (custody : Custody) : PoolCall → Nat
  | .close => if (closePool.run custody.session).1.isOk then 0 else 1
  | _ => 0

/-- A number for each call of a run, added up. -/
def total (engine : Engine) (count : Custody → PoolCall → Nat) : Custody → List PoolCall → Nat
  | _, [] => 0
  | custody, call :: calls => count custody call + total engine count (custody.next engine call) calls

end Custody

section Steps

variable {engine : Engine} {session after : Session} {out : List Handle}

theorem surplus_of_acquires {outcome : Except Error Handle}
    (h : Acquires engine session (outcome, after)) :
    Custody.surplus ⟨after, outcome.toOption.toList ++ out⟩ = Custody.surplus ⟨session, out⟩ := by
  cases h with
  | idle hidle =>
    simp only [Custody.surplus, hidle, Session.idle_setIdle, Session.opened_setIdle,
      Except.toOption, Option.toList_some, List.length_append, List.length_cons, List.length_nil]
    omega
  | exhausted hidle hfull => rfl
  | refused hidle hroom hanswer => rfl
  | opened hidle hroom hanswer =>
    simp only [Custody.surplus, Session.idle_addOpened, Session.opened_addOpened, Session.pool_told,
      Except.toOption, Option.toList_some, List.length_append, List.length_cons, List.length_nil]
    omega

theorem surplus_release (custody : Custody) (handle : Handle) :
    (custody.next engine (.release handle)).surplus + custody.strays (.release handle) =
      custody.surplus := by
  have hnext : (custody.next engine (.release handle)).surplus = custody.session.pool.opened -
      ((custody.session.pool.idle.length + 1 : Nat) + (custody.out.erase handle).length) := rfl
  rw [hnext, Custody.strays, Custody.surplus]
  by_cases hmem : custody.Allows (.release handle)
  · rw [if_pos hmem]
    have hlength := List.length_erase_add_one hmem
    omega
  · rw [if_neg hmem, List.erase_of_not_mem hmem]
    omega

theorem surplus_closeAll {handles : List Handle} (hidle : session.pool.idle = handles) :
    Custody.surplus ⟨((closeAll handles).run session).2, out⟩ =
      Custody.surplus ⟨session, out⟩ +
        (if ((closeAll handles).run session).1.isOk then 0 else 1 : Nat) := by
  induction handles generalizing session with
  | nil => exact (Int.add_zero _).symm
  | cons handle others ih =>
    have hpopped : Custody.surplus ⟨session.setIdle others, out⟩ =
        Custody.surplus ⟨session, out⟩ + 1 := by
      simp only [Custody.surplus, hidle, Session.idle_setIdle, Session.opened_setIdle,
        List.length_cons]
      omega
    cases handle with
    | none => exact hpopped
    | some connection =>
      rw [run_closeAll_cons]
      cases session.wire.answer (.close connection) with
      | ok cursor? =>
        dsimp only
        rw [ih rfl]
        simp only [Custody.surplus, Session.idle_addOpened, Session.opened_addOpened,
          Session.pool_ask, Session.idle_setIdle, Session.opened_setIdle] at hpopped ⊢
        omega
      | error failure =>
        -- The connection is out of the pool, and the counter still has it.
        exact hpopped

end Steps

/-! ## Runs -/

namespace Custody

variable {engine : Engine}

theorem surplus_next (custody : Custody) (call : PoolCall) :
    (custody.next engine call).surplus + custody.strays call =
      custody.surplus + custody.loses call := by
  cases call with
  | acquire =>
    have hacquires := acquires engine custody.session
    exact congrArg (· + (0 : Int)) (surplus_of_acquires hacquires)
  | release handle => exact (surplus_release custody handle).trans (Int.add_zero _).symm
  | close => exact (Int.add_zero _).trans (surplus_closeAll rfl)

theorem surplus_run (custody : Custody) (calls : List PoolCall) :
    (custody.run engine calls).surplus + total engine strays custody calls =
      custody.surplus + total engine loses custody calls := by
  induction calls generalizing custody with
  | nil => rfl
  | cons call calls ih =>
    have hnext : (custody.next engine call).surplus + _ = _ := custody.surplus_next call
    have hrun := ih (custody.next engine call)
    change (custody.run engine (call :: calls)).surplus + _ = _ at hrun
    simp only [total, Int.natCast_add]
    omega

theorem strays_of_lawful {custody : Custody} {calls : List PoolCall}
    (h : Lawful engine custody calls) : total engine strays custody calls = 0 := by
  induction calls generalizing custody with
  | nil => rfl
  | cons call calls ih =>
    have hstray : custody.strays call = 0 := if_pos h.1
    rw [total, hstray, ih h.2]

end Custody

/-! ## Opening again -/

section Opening

variable {engine : Engine} {custody : Custody}

theorem next_of_room (hidle : custody.session.pool.idle = [])
    (hroom : custody.session.pool.opened < engine.config.poolSize)
    (hconnect : custody.session.wire.script.connects.head?.join = none) :
    let later := custody.next engine .acquire
    later.session.pool.idle = [] ∧ later.session.pool.opened = custody.session.pool.opened + 1 ∧
      later.out.length = custody.out.length + 1 ∧
      later.session.wire.script.connects = custody.session.wire.script.connects.tail := by
  have hacquires := acquires engine custody.session
  unfold Custody.next
  dsimp only
  generalize (acquire engine).run custody.session = result at hacquires
  have hconnected : custody.session.wire.answer (engine.opening custody.session) = .ok none :=
    congrArg plainAnswer hconnect
  cases hacquires with
  | idle hsome => cases hidle.symm.trans hsome
  | exhausted hnone hfull => omega
  | refused hnone hroom hanswer => cases hconnected.symm.trans hanswer
  | opened hnone hroom hanswer =>
    refine ⟨hidle, rfl, rfl, ?_⟩
    show (Wire.after _ (.asked _ :: engine.openedEvents custody.session)).script.connects = _
    unfold Engine.openedEvents
    cases engine.backend.setsRowFactory
    · rfl
    · rfl

theorem run_of_room {count : Nat} (hidle : custody.session.pool.idle = [])
    (hroom : count + custody.session.pool.opened ≤ engine.config.poolSize)
    (hconnects : ∀ failure? ∈ custody.session.wire.script.connects.take count, failure? = none) :
    let later := custody.run engine (List.replicate count .acquire)
    later.session.pool.idle = [] ∧ later.session.pool.opened = count + custody.session.pool.opened ∧
      later.out.length = count + custody.out.length := by
  induction count generalizing custody with
  | zero => exact ⟨hidle, (Int.zero_add _).symm, (Nat.zero_add _).symm⟩
  | succ count ih =>
    have hconnect : custody.session.wire.script.connects.head?.join = none := by
      cases hscript : custody.session.wire.script.connects with
      | nil => rfl
      | cons failure? others =>
        rw [hscript] at hconnects
        exact hconnects failure? List.mem_cons_self
    have hothers : ∀ failure? ∈ custody.session.wire.script.connects.tail.take count,
        failure? = none := by
      cases hscript : custody.session.wire.script.connects with
      | nil => exact fun _ hmem => nomatch (List.take_nil ▸ hmem)
      | cons first others =>
        rw [hscript] at hconnects
        exact fun failure? hmem => hconnects failure? (List.mem_cons_of_mem _ hmem)
    obtain ⟨hnone, hopened, hout, hscript⟩ :=
      next_of_room hidle (show _ < (engine.config.poolSize : Int) by omega) hconnect
    obtain ⟨hidle', hopened', hout'⟩ := ih hnone (by omega) (hscript ▸ hothers)
    refine ⟨hidle', ?_, ?_⟩
    · rw [hopened] at hopened'
      refine hopened'.trans ?_
      omega
    · rw [hout] at hout'
      refine hout'.trans ?_
      omega

theorem acquire_of_full (hidle : custody.session.pool.idle = [])
    (hfull : engine.config.poolSize ≤ custody.session.pool.opened) :
    ((acquire engine).run custody.session).1 = .error (.poolExhausted engine.config.poolSize) := by
  have hacquires := acquires engine custody.session
  generalize (acquire engine).run custody.session = result at hacquires
  cases hacquires with
  | idle hsome => cases hidle.symm.trans hsome
  | exhausted hnone hfull => rfl
  | refused hnone hroom hanswer => exact absurd hfull hroom
  | opened hnone hroom hanswer => exact absurd hfull hroom

end Opening

/-- In every run the pool counts the connections that are in it and those that were handed out, with one
more for each closing that failed and one less for each connection given back that was not handed out.
Once it is empty and nothing is out, it opens as many as the settings allow for beside that surplus,
and then refuses. -/
theorem capacity_of_run (engine : Engine) (script : Script) (calls : List PoolCall) :
    let custody := Custody.run engine (.start script) calls
    let lost := Custody.total engine Custody.loses (.start script) calls
    let strays := Custody.total engine Custody.strays (.start script) calls
    custody.session.pool.opened + strays =
      custody.session.pool.idle.length + custody.out.length + lost ∧
    (Custody.Lawful engine (.start script) calls → strays = 0) ∧
    (custody.session.pool.idle = [] → custody.out = [] → ∀ count,
      count + lost ≤ engine.config.poolSize + strays →
      (∀ failure? ∈ custody.session.wire.script.connects.take count, failure? = none) →
        let later := custody.run engine (List.replicate count .acquire)
        later.out.length = count ∧
          (count + lost = engine.config.poolSize + strays →
            ((acquire engine).run later.session).1 =
              .error (.poolExhausted engine.config.poolSize))) := by
  intro custody lost strays
  have hopened : custody.session.pool.opened + strays =
      custody.session.pool.idle.length + custody.out.length + lost := by
    have hsurplus : custody.surplus + strays = 0 + lost :=
      Custody.surplus_run (.start script) calls
    rw [Custody.surplus] at hsurplus
    omega
  refine ⟨hopened, Custody.strays_of_lawful, fun hidle hout count hroom hconnects => ?_⟩
  rw [hidle, hout] at hopened
  simp only [List.length_nil] at hopened
  have hroom' : count + custody.session.pool.opened ≤ engine.config.poolSize := by omega
  obtain ⟨hnone, hopened', hlength⟩ := run_of_room hidle hroom' hconnects
  rw [hout] at hlength
  refine ⟨hlength, fun hfull => acquire_of_full hnone ?_⟩
  rw [hopened']
  omega

/-- One of two connections could not be closed. The pool is empty and nothing is out, but it opens no more
than one. -/
theorem capacity_of_run_lost :
    let script : Script := ⟨[], [], [], [], [some ⟨false, "gone"⟩]⟩
    let calls : List PoolCall :=
      [.acquire, .acquire, .release (some 1), .release (some 2), .close, .close]
    let custody := Custody.run (inMemory 2) (.start script) calls
    let later := custody.run (inMemory 2) [.acquire]
    custody.session.pool.idle = [] ∧ custody.out = [] ∧ later.out.length = 1 ∧
      ((acquire (inMemory 2)).run later.session).1 = .error (.poolExhausted 2) := by
  intro script calls
  have hidle : (Custody.run (inMemory 2) (.start script) calls).session.pool.idle = [] := by
    decide +kernel
  have hout : (Custody.run (inMemory 2) (.start script) calls).out = [] := by decide +kernel
  have hlost : Custody.total (inMemory 2) Custody.loses (.start script) calls = 1 := by
    decide +kernel
  have hstrays : Custody.total (inMemory 2) Custody.strays (.start script) calls = 0 := by
    decide +kernel
  have hconnects :
      (Custody.run (inMemory 2) (.start script) calls).session.wire.script.connects = [] := by
    decide +kernel
  obtain ⟨-, -, hreopens⟩ := capacity_of_run (inMemory 2) script calls
  rw [hlost, hstrays, hconnects] at hreopens
  obtain ⟨hlength, hrefused⟩ := hreopens hidle hout 1 (by decide) (by simp)
  exact ⟨hidle, hout, hlength, hrefused rfl⟩

/-- The only connection is given back and cannot be closed. Nothing is in the pool and nothing is out, and
the pool still says that all connections are in use. -/
theorem exhausted_by_lost_connection :
    let script : Script := ⟨[], [], [], [], [some ⟨false, "gone"⟩]⟩
    let calls : List PoolCall := [.acquire, .release (some 1), .close]
    let custody := Custody.run (inMemory 1) (.start script) calls
    Custody.Lawful (inMemory 1) (.start script) calls ∧ custody.out = [] ∧
      custody.session.pool.idle = [] ∧ custody.session.wire.script.connects = [] ∧
      custody.session.pool.opened ≠ custody.session.pool.idle.length + custody.out.length ∧
      ((acquire (inMemory 1)).run custody.session).1 = .error (.poolExhausted 1) := by
  intro script calls custody
  exact ⟨by decide +kernel, rfl, rfl, rfl, by decide +kernel, rfl⟩

end ParamSql
