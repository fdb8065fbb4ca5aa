import Mathlib.Data.List.Perm.Basic
import ParamSql.Proofs.Turns

/-!
# Many tasks on one pool

A task that finds room in the pool opens a connection even if others have filled the pool while it
waited. So the size of the pool bounds the open connections only while they are opened one after the
other.
-/

namespace ParamSql

/-! ## What every move keeps -/

/-- A task that waits, waits for a connection to be opened or to be closed. -/
inductive Task.Rests (engine : Engine) : Task → Prop
  | idle {held : List Handle} : Rests engine ⟨held, none⟩
  | opens {held : List Handle} {connection : Nat} {arguments : Row}
      {next : Except Failure (Option Cursor) → Waiting (List Handle)} (h : Opens connection next) :
    Rests engine ⟨held, some (.connect connection arguments, next)⟩
  | closes {held : List Handle} {connection rounds : Nat}
      {next : Except Failure (Option Cursor) → Waiting (List Handle)}
      (h : Closes engine rounds next) :
    Rests engine ⟨held, some (.close connection, next)⟩

/-- The open connections are those of the pool and of all tasks, and those that could not be closed.
Whoever opens a connection has found room for one, so the others that are being opened by then are
all that can come on top of the size of the pool. -/
structure Kept (engine : Engine) (session : Session) (tasks : List Task) (live : List Nat)
    (peak : Nat) : Prop where
  balance : ∃ lost : List Handle,
    (live.map some).Perm (session.pool.idle ++ (tasks.flatMap Task.claims ++ lost))
  opened_eq : session.pool.opened = live.length
  live_lt : live.length + (underWay tasks).length < engine.config.poolSize + peak
  nodup : (underWay tasks ++ live).Nodup
  numbered : ∀ connection ∈ underWay tasks ++ live, connection ≤ session.wire.attempts
  rests : ∀ task ∈ tasks, task.Rests engine

namespace Kept

variable {engine : Engine} {session after : Session} {rest : List Task} {live : List Nat}
  {peak connection : Nat} {held : List Handle} {request : Request} {arguments : Row}
  {next : Except Failure (Option Cursor) → Waiting (List Handle)}

theorem start (engine : Engine) (script : Script) (tasks : Nat) :
    Kept engine (Session.start script) (List.replicate tasks ⟨[], none⟩) [] 0 := by
  have hidle : ∀ task ∈ List.replicate tasks (⟨[], none⟩ : Task), task = ⟨[], none⟩ :=
    fun _ => List.eq_of_mem_replicate
  have hclaims : (List.replicate tasks (⟨[], none⟩ : Task)).flatMap Task.claims = [] :=
    List.flatMap_eq_nil_iff.2 fun task hmem => by rw [hidle task hmem]; rfl
  have hway : underWay (List.replicate tasks ⟨[], none⟩) = [] :=
    List.filterMap_eq_nil_iff.2 fun task hmem => by rw [hidle task hmem]; rfl
  refine ⟨⟨[], ?_⟩, rfl, ?_, ?_, ?_, fun task hmem => ?_⟩
  · rw [hclaims]
    rfl
  · rw [hway]
    exact engine.config.poolSize_pos
  · rw [hway]
    exact List.nodup_nil
  · rw [hway]
    exact fun _ h => nomatch h
  · rw [hidle task hmem]
    exact .idle

theorem perm {tasks others : List Task} (h : Kept engine session tasks live peak)
    (hperm : tasks.Perm others) : Kept engine session others live peak := by
  have hway : (underWay tasks).Perm (underWay others) := hperm.filterMap Task.opening?
  obtain ⟨lost, hbalance⟩ := h.balance
  refine ⟨⟨lost, hbalance.trans ?_⟩, h.opened_eq, ?_, ?_, fun connection hmem => ?_,
    fun task hmem => h.rests task (hperm.mem_iff.2 hmem)⟩
  · exact ((hperm.flatMap_right _).append_right lost).append_left _
  · rw [← hway.length_eq]
    exact h.live_lt
  · exact (hway.append_right live).nodup_iff.1 h.nodup
  · exact h.numbered connection ((hway.append_right live).mem_iff.2 hmem)

theorem congr {tasks : List Task} (h : Kept engine session tasks live peak)
    (hpool : after.pool = session.pool) (hattempts : after.wire.attempts = session.wire.attempts) :
    Kept engine after tasks live peak := by
  refine ⟨?_, ?_, h.live_lt, h.nodup, ?_, h.rests⟩
  · rw [hpool]
    exact h.balance
  · rw [hpool]
    exact h.opened_eq
  · rw [hattempts]
    exact h.numbered

theorem mono {tasks : List Task} {other : Nat} (h : Kept engine session tasks live peak)
    (hle : peak ≤ other) : Kept engine session tasks live other :=
  { h with live_lt := Nat.lt_of_lt_of_le h.live_lt (Nat.add_le_add_left hle _) }

theorem rests_cons {task other : Task} (h : Kept engine session (task :: rest) live peak)
    (hother : other.Rests engine) : ∀ task ∈ other :: rest, task.Rests engine :=
  List.forall_mem_cons.2 ⟨hother, (List.forall_mem_cons.1 h.rests).2⟩

/-! ### One task -/

theorem take {handle : Handle} {others : List Handle} {task : Task}
    (h : Kept engine session (⟨held, none⟩ :: rest) live peak)
    (hidle : session.pool.idle = handle :: others) (hclaims : task.claims = handle :: held)
    (hopening : task.opening? = none) (hrests : task.Rests engine) :
    Kept engine (session.setIdle others) (task :: rest) live peak := by
  have hway : underWay (task :: rest) = underWay rest := List.filterMap_cons_none hopening
  obtain ⟨lost, hbalance⟩ := h.balance
  refine ⟨⟨lost, hbalance.trans ?_⟩, h.opened_eq, ?_, ?_, ?_, h.rests_cons hrests⟩
  · rw [List.flatMap_cons, List.flatMap_cons, hclaims, hidle]
    exact List.perm_middle.symm
  · rw [hway]
    exact h.live_lt
  · rw [hway]
    exact h.nodup
  · rw [hway]
    exact h.numbered

theorem release {handle : Handle} (h : Kept engine session (⟨held, none⟩ :: rest) live peak)
    (hmem : handle ∈ held) :
    Kept engine (session.setIdle (handle :: session.pool.idle)) (⟨held.erase handle, none⟩ :: rest)
      live peak := by
  obtain ⟨lost, hbalance⟩ := h.balance
  have hheld : (held ++ rest.flatMap Task.claims ++ lost).Perm
      (handle :: (held.erase handle ++ rest.flatMap Task.claims ++ lost)) :=
    ((List.perm_cons_erase hmem).append_right _).append_right _
  exact { h with
    balance := ⟨lost, hbalance.trans ((hheld.append_left _).trans List.perm_middle)⟩
    rests := h.rests_cons .idle }

theorem ask (h : Kept engine session (⟨held, none⟩ :: rest) live peak)
    (hroom : ¬ (engine.config.poolSize : Int) ≤ session.pool.opened)
    (hnext : Opens (session.wire.attempts + 1) next) :
    Kept engine (session.ask (engine.opening session))
      (⟨held, some (engine.opening session, next)⟩ :: rest) live
      (max peak ((underWay rest).length + 1)) := by
  have hopened := h.opened_eq
  -- Connections are numbered as they are asked for, so this number is a new one.
  have hfresh : session.wire.attempts + 1 ∉ underWay rest ++ live :=
    fun hmem => Nat.not_succ_le_self _ (h.numbered _ hmem)
  refine ⟨h.balance, hopened, ?_, List.nodup_cons.2 ⟨hfresh, h.nodup⟩, ?_,
    h.rests_cons (.opens hnext)⟩
  · show live.length + ((underWay rest).length + 1) < _
    omega
  · exact List.forall_mem_cons.2 ⟨Nat.le_refl _, fun connection hmem =>
      Nat.le_succ_of_le (h.numbered connection hmem)⟩

theorem opened (h : Kept engine session
      (⟨held, some (.connect connection arguments, next)⟩ :: rest) live peak) :
    Kept engine (session.addOpened 1) (⟨some connection :: held, none⟩ :: rest) (connection :: live)
      peak := by
  obtain ⟨lost, hbalance⟩ := h.balance
  have hopened := h.opened_eq
  have hlive : live.length + ((underWay rest).length + 1) < engine.config.poolSize + peak :=
    h.live_lt
  have hperm : (underWay rest ++ connection :: live).Perm (connection :: (underWay rest ++ live)) :=
    List.perm_middle
  refine ⟨⟨lost, (hbalance.cons (some connection)).trans List.perm_middle.symm⟩, ?_, ?_,
    hperm.nodup_iff.2 h.nodup, fun other hmem => h.numbered other (hperm.mem_iff.1 hmem),
    h.rests_cons .idle⟩
  · rw [Session.opened_addOpened, List.length_cons]
    omega
  · show (live.length + 1) + (underWay rest).length < _
    omega

theorem refused (h : Kept engine session
      (⟨held, some (.connect connection arguments, next)⟩ :: rest) live peak) :
    Kept engine session (⟨held, none⟩ :: rest) live peak := by
  have hlive : live.length + ((underWay rest).length + 1) < engine.config.poolSize + peak :=
    h.live_lt
  refine ⟨h.balance, h.opened_eq, ?_, (List.nodup_cons.1 h.nodup).2, ?_, h.rests_cons .idle⟩
  · show live.length + (underWay rest).length < _
    omega
  · exact fun other hmem => h.numbered other (List.mem_cons_of_mem _ hmem)

theorem closed
    (h : Kept engine session (⟨held, some (.close connection, next)⟩ :: rest) live peak) :
    Kept engine (session.addOpened (-1)) (⟨held, none⟩ :: rest) (live.erase connection) peak := by
  obtain ⟨lost, hbalance⟩ := h.balance
  have hclaimed : (live.map some).Perm (some connection ::
      (session.pool.idle ++ (held ++ rest.flatMap Task.claims ++ lost))) :=
    hbalance.trans List.perm_middle
  -- What a task is closing is open, so closing it makes the count smaller.
  have hmem : connection ∈ live := by
    obtain ⟨other, hother, heq⟩ := List.mem_map.1 (hclaimed.mem_iff.2 List.mem_cons_self)
    exact Option.some.inj heq ▸ hother
  have herase : live.Perm (connection :: live.erase connection) := List.perm_cons_erase hmem
  have hlength : live.length = (live.erase connection).length + 1 := herase.length_eq
  have hopened := h.opened_eq
  have hlive : live.length + (underWay rest).length < engine.config.poolSize + peak := h.live_lt
  refine ⟨⟨lost, (((herase.map some).symm.trans hclaimed).cons_inv)⟩, ?_, ?_, ?_, ?_,
    h.rests_cons .idle⟩
  · rw [Session.opened_addOpened]
    omega
  · show _ + (underWay rest).length < _
    omega
  · exact h.nodup.sublist (List.erase_sublist.append_left _)
  · exact fun other hmem => h.numbered other ((List.erase_sublist.append_left _).mem hmem)

theorem unclosed
    (h : Kept engine session (⟨held, some (.close connection, next)⟩ :: rest) live peak) :
    Kept engine session (⟨held, none⟩ :: rest) live peak := by
  obtain ⟨lost, hbalance⟩ := h.balance
  have hlost : (some connection :: (held ++ rest.flatMap Task.claims ++ lost)).Perm
      (held ++ rest.flatMap Task.claims ++ some connection :: lost) := List.perm_middle.symm
  exact { h with
    balance := ⟨some connection :: lost, hbalance.trans (hlost.append_left _)⟩
    rests := h.rests_cons .idle }

/-! ### Going on -/

/-- What was kept is kept once a task has gone on. -/
def Settled (engine : Engine) (rest : List Task) (live : List Nat) (peak : Nat) (held : List Handle)
    (result : Paused (List Handle) × Session) : Prop :=
  let tasks := Task.after held result.1 :: rest
  Kept engine (result.1.asked result.2) tasks live (max peak (underWay tasks).length)

theorem settled_finished (h : Kept engine session (⟨held, none⟩ :: rest) live peak) (error : Error) :
    Settled engine rest live peak held (.finished (.error error), session) :=
  h.mono (Nat.le_max_left _ _)

theorem settled_acquire (h : Kept engine session (⟨held, none⟩ :: rest) live peak) :
    Settled engine rest live peak held ((TaskCall.acquire.body engine).advance session) := by
  cases hidle : session.pool.idle with
  | cons handle others =>
    rw [advance_acquire_of_idle hidle]
    exact (h.take hidle rfl rfl .idle).mono (Nat.le_max_left _ _)
  | nil =>
    by_cases hfull : (engine.config.poolSize : Int) ≤ session.pool.opened
    · rw [advance_acquire_of_full hidle hfull]
      exact h.settled_finished _
    · obtain ⟨next, hadvance, hnext⟩ := advance_acquire_of_room hidle hfull
      rw [hadvance]
      exact h.ask hfull hnext

theorem settled_release {handle : Handle} (h : Kept engine session (⟨held, none⟩ :: rest) live peak)
    (hmem : handle ∈ held) :
    Settled engine rest live peak (held.erase handle)
      (((TaskCall.release handle).body engine).advance session) := by
  rw [advance_release]
  exact (h.release hmem).mono (Nat.le_max_left _ _)

theorem settled_close (h : Kept engine session (⟨held, none⟩ :: rest) live peak) (rounds : Nat) :
    Settled engine rest live peak held (((TaskCall.close rounds).body engine).advance session) := by
  cases hidle : session.pool.idle with
  | nil =>
    rw [advance_close_of_empty hidle]
    exact h.mono (Nat.le_max_left _ _)
  | cons handle others =>
    -- Only open connections are in the pool, so what is closed has a number.
    obtain ⟨lost, hbalance⟩ := h.balance
    have hmem : handle ∈ live.map some :=
      hbalance.mem_iff.2 (List.mem_append_left _ (hidle ▸ List.mem_cons_self))
    obtain ⟨connection, -, rfl⟩ := List.mem_map.1 hmem
    cases rounds with
    | zero => exact h.mono (Nat.le_max_left _ _)
    | succ rounds =>
      obtain ⟨next, hadvance, hnext⟩ := advance_close_of_idle hidle
      have hasked : Kept engine ((session.setIdle others).ask (.close connection))
          (⟨held, some (.close connection, next)⟩ :: rest) live peak :=
        (h.take hidle rfl rfl (.closes hnext)).congr rfl rfl
      rw [hadvance]
      exact hasked.mono (Nat.le_max_left _ _)

theorem settled_call {task : Task} (h : Kept engine session (task :: rest) live peak)
    {call : TaskCall} (hallows : task.Allows call) :
    Settled engine rest live peak (task.keeps call) ((call.body engine).advance session) := by
  obtain ⟨held, waits⟩ := task
  cases waits with
  | some stop =>
    cases call
    case release handle => cases hallows.1
    all_goals cases hallows
  | none =>
    cases call with
    | acquire => exact h.settled_acquire
    | release handle => exact h.settled_release hallows.2
    | close rounds => exact h.settled_close rounds

theorem settled_answer (h : Kept engine session (⟨held, some (request, next)⟩ :: rest) live peak)
    (answer : Except Failure (Option Cursor)) :
    Settled engine rest (liveAfter live request answer) peak held
      ((next answer).advance session) := by
  cases (List.forall_mem_cons.1 h.rests).1 with
  | opens hopens =>
    cases answer with
    | ok cursor? =>
      obtain ⟨after, hadvance, hpool, hattempts⟩ := hopens.ok cursor? session
      rw [hadvance]
      exact (h.opened.congr hpool hattempts).mono (Nat.le_max_left _ _)
    | error failure =>
      obtain ⟨error, hadvance⟩ := hopens.error failure session
      rw [hadvance]
      exact h.refused.settled_finished error
  | closes hcloses =>
    cases answer with
    | ok cursor? =>
      rw [hcloses.ok cursor? session]
      exact h.closed.settled_close _
    | error failure =>
      obtain ⟨error, hadvance⟩ := hcloses.error failure session
      rw [hadvance]
      exact h.unclosed.settled_finished error

end Kept

/-! ## Runs -/

namespace Crowd

variable {engine : Engine} {crowd : Crowd}

def Sound (engine : Engine) (crowd : Crowd) : Prop :=
  Kept engine crowd.session crowd.tasks crowd.live crowd.peak

theorem sound_start (engine : Engine) (script : Script) (tasks : Nat) :
    (start script tasks).Sound engine :=
  Kept.start engine script tasks

theorem sound_proceed {index : Nat} {held : List Handle} {body : Waiting (List Handle)}
    (hindex : index < crowd.tasks.length)
    (h : Kept.Settled engine (crowd.tasks.eraseIdx index) crowd.live crowd.peak held
      (body.advance crowd.session)) :
    (crowd.proceed index held body).Sound engine := by
  -- The order of the tasks does not matter, so the one that went on is put first.
  have hperm := List.set_perm_cons_eraseIdx hindex
    (Task.after held (body.advance crowd.session).1)
  have hlength : (underWay (crowd.tasks.set index
      (Task.after held (body.advance crowd.session).1))).length = _ :=
    (hperm.filterMap Task.opening?).length_eq
  unfold Sound proceed
  dsimp only
  rw [hlength]
  exact h.perm hperm.symm

theorem sound_next (h : crowd.Sound engine) (move : Move) :
    (crowd.next engine move).Sound engine := by
  cases move with
  | call index call =>
    unfold next
    dsimp only
    cases htask : crowd.tasks[index]? with
    | none => exact h
    | some task =>
      obtain ⟨hindex, rfl⟩ := List.getElem?_eq_some_iff.1 htask
      have hcons := h.perm (List.getElem_cons_eraseIdx_perm hindex).symm
      dsimp only
      split
      · next hallows => exact sound_proceed hindex (hcons.settled_call hallows)
      · exact h
  | answer index answer =>
    unfold next
    dsimp only
    cases htask : crowd.tasks[index]? with
    | none => exact h
    | some task =>
      obtain ⟨hindex, htask⟩ := List.getElem?_eq_some_iff.1 htask
      have hcons := h.perm (List.getElem_cons_eraseIdx_perm hindex).symm
      rw [htask] at hcons
      obtain ⟨held, none | ⟨request, next⟩⟩ := task
      · exact h
      · have hsettled := hcons.settled_answer answer
        exact sound_proceed hindex hsettled

theorem sound_run (h : crowd.Sound engine) (moves : List Move) :
    (crowd.run engine moves).Sound engine := by
  induction moves generalizing crowd with
  | nil => exact h
  | cons move moves ih => exact ih (sound_next h move)

end Crowd

/-! ## Tasks that ask at once -/

namespace Crowd

variable {engine : Engine} {crowd : Crowd} {tasks count index connection : Nat}

theorem run_append (moves more : List Move) :
    crowd.run engine (moves ++ more) = (crowd.run engine moves).run engine more :=
  List.foldl_append

theorem next_acquire (htask : crowd.tasks[index]? = some ⟨[], none⟩)
    (hidle : crowd.session.pool.idle = [])
    (hroom : ¬ (engine.config.poolSize : Int) ≤ crowd.session.pool.opened) :
    ∃ next, (crowd.next engine (.call index .acquire)).tasks =
        crowd.tasks.set index ⟨[], some (engine.opening crowd.session, next)⟩ ∧
      (crowd.next engine (.call index .acquire)).session =
        crowd.session.ask (engine.opening crowd.session) ∧
      (crowd.next engine (.call index .acquire)).live = crowd.live := by
  obtain ⟨next, hadvance, -⟩ := advance_acquire_of_room hidle hroom
  have hallows : (⟨[], none⟩ : Task).Allows .acquire := rfl
  refine ⟨next, ?_⟩
  unfold Crowd.next
  simp only [htask, if_pos hallows, proceed, hadvance]
  exact ⟨rfl, rfl, trivial⟩

theorem next_answer {task : Task} (h : crowd.Sound engine) (htask : crowd.tasks[index]? = some task)
    (hopening : task.opening? = some connection) :
    (crowd.next engine (.answer index (.ok none))).live = connection :: crowd.live ∧
      ∃ other, (crowd.next engine (.answer index (.ok none))).tasks =
        crowd.tasks.set index other := by
  cases h.rests task (List.mem_of_getElem? htask) with
  | idle => cases hopening
  | opens hopens =>
    cases hopening
    unfold Crowd.next
    simp only [htask, proceed]
    exact ⟨rfl, _, rfl⟩
  | closes hcloses => cases hopening

/-- The first tasks have asked for a connection, the others have done nothing. -/
structure Asked (tasks count : Nat) (crowd : Crowd) : Prop where
  pool_eq : crowd.session.pool = ⟨[], 0⟩
  live_eq : crowd.live = []
  opening (index : Nat) : index < count →
    ∃ task connection, crowd.tasks[index]? = some task ∧ task.opening? = some connection
  idle (index : Nat) : count ≤ index → index < tasks → crowd.tasks[index]? = some ⟨[], none⟩

/-- The first tasks have got a connection, the others wait for theirs. -/
structure Served (tasks count : Nat) (crowd : Crowd) : Prop where
  length_live : crowd.live.length = count
  opening (index : Nat) : count ≤ index → index < tasks →
    ∃ task connection, crowd.tasks[index]? = some task ∧ task.opening? = some connection

theorem Asked.next (h : crowd.Asked tasks count) (hcount : count < tasks) :
    (crowd.next engine (.call count .acquire)).Asked tasks (count + 1) := by
  have htask := h.idle count (Nat.le_refl _) hcount
  have hidle : crowd.session.pool.idle = [] := by rw [h.pool_eq]
  have hroom : ¬ (engine.config.poolSize : Int) ≤ crowd.session.pool.opened := by
    have hsize := engine.config.poolSize_pos
    rw [h.pool_eq]
    dsimp only
    omega
  obtain ⟨next, htasks, hsession, hlive⟩ := next_acquire htask hidle hroom
  refine ⟨hsession ▸ h.pool_eq, hlive.trans h.live_eq, fun index hlt => ?_,
    fun index hle hlt => ?_⟩
  · rw [htasks]
    rcases Nat.lt_succ_iff_lt_or_eq.1 hlt with hlt | rfl
    · rw [List.getElem?_set_ne (Nat.ne_of_gt hlt)]
      exact h.opening index hlt
    · exact ⟨_, _, List.getElem?_set_self (List.getElem?_eq_some_iff.1 htask).1, rfl⟩
  · rw [htasks, List.getElem?_set_ne (Nat.ne_of_lt hle)]
    exact h.idle index (Nat.le_of_succ_le hle) hlt

theorem Served.next (h : crowd.Served tasks count) (hsound : crowd.Sound engine)
    (hcount : count < tasks) :
    (crowd.next engine (.answer count (.ok none))).Served tasks (count + 1) := by
  obtain ⟨task, connection, htask, hopening⟩ := h.opening count (Nat.le_refl _) hcount
  obtain ⟨hlive, other, htasks⟩ := next_answer hsound htask hopening
  refine ⟨?_, fun index hle hlt => ?_⟩
  · rw [hlive, List.length_cons, h.length_live]
  · rw [htasks, List.getElem?_set_ne (Nat.ne_of_lt hle)]
    exact h.opening index (Nat.le_of_succ_le hle) hlt

theorem asked_run (engine : Engine) (script : Script) (hcount : count ≤ tasks) :
    ((start script tasks).run engine ((List.range count).map (.call · .acquire))).Asked tasks
      count := by
  induction count with
  | zero =>
    exact ⟨rfl, rfl, fun _ hlt => absurd hlt (Nat.not_lt_zero _),
      fun _ _ hlt => List.getElem?_replicate_of_lt hlt⟩
  | succ count ih =>
    rw [List.range_succ, List.map_append, run_append]
    exact (ih (Nat.le_of_succ_le hcount)).next hcount

theorem served_run (h : crowd.Asked tasks tasks) (hsound : crowd.Sound engine)
    (hcount : count ≤ tasks) :
    (crowd.run engine ((List.range count).map (.answer · (.ok none)))).Served tasks count := by
  induction count with
  | zero => exact ⟨congrArg List.length h.live_eq, fun index _ hlt => h.opening index hlt⟩
  | succ count ih =>
    rw [List.range_succ, List.map_append, run_append]
    exact (ih (Nat.le_of_succ_le hcount)).next (sound_run hsound _) hcount

/-- All tasks ask for a connection before any of them is answered. -/
def rush (tasks : Nat) : List Move :=
  (List.range tasks).map (.call · .acquire) ++ (List.range tasks).map (.answer · (.ok none))

/-- Tasks that ask all at once get a connection each, whatever the size of the pool. -/
theorem length_live_rush (engine : Engine) (script : Script) (tasks : Nat) :
    ((start script tasks).run engine (rush tasks)).live.length = tasks := by
  rw [rush, run_append]
  exact (served_run (asked_run engine script (Nat.le_refl _))
    (sound_run (sound_start engine script tasks) _) (Nat.le_refl _)).length_live

end Crowd

/-- However tasks take turns on a pool, and whatever the driver answers and when: the open
connections are fewer than the size of the pool and the most that were being opened at once
together, the pool counts them right, and nobody shares a connection. -/
theorem live_of_interleaving (engine : Engine) (script : Script) (tasks : Nat) (moves : List Move) :
    let crowd := Crowd.run engine (.start script tasks) moves
    crowd.live.length < engine.config.poolSize + crowd.peak ∧
      crowd.session.pool.opened = crowd.live.length ∧
      (crowd.session.pool.idle ++ crowd.tasks.flatMap Task.claims).Nodup := by
  intro crowd
  have hsound : crowd.Sound engine := Crowd.sound_run (Crowd.sound_start engine script tasks) moves
  obtain ⟨lost, hbalance⟩ := hsound.balance
  have hnodup : (crowd.live.map some).Nodup :=
    hsound.nodup.of_append_right.map fun _ _ => Option.some.inj
  refine ⟨?_, hsound.opened_eq, ?_⟩
  · exact Nat.lt_of_le_of_lt (Nat.le_add_right _ _) hsound.live_lt
  · rw [hbalance.nodup_iff, ← List.append_assoc] at hnodup
    exact hnodup.of_append_left

/-- Two tasks find room for one connection, and both open it. -/
theorem live_of_interleaving_overfull :
    let crowd := Crowd.run (inMemory 1) (.start ⟨[], [], [], [], []⟩ 2)
      [.call 0 .acquire, .call 1 .acquire, .answer 1 (.ok none), .answer 0 (.ok none)]
    crowd.tasks.map Task.held = [[some 1], [some 2]] ∧ crowd.live = [1, 2] ∧
      crowd.session.pool.opened = 2 ∧ ¬ crowd.live.length ≤ (inMemory 1).config.poolSize := by
  decide +kernel

end ParamSql
