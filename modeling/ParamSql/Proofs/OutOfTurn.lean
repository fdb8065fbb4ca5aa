import ParamSql.Proofs.Windows

/-!
# Entering and leaving out of turn

Nothing keeps a transaction from being entered while it holds a connection, or left while it holds
none. The pool is sound after every call exactly if no call does so: each one out of turn loses a
connection, or puts into the pool what does not belong there.
-/

namespace ParamSql

open Blocking

/-! ## Calls in any order -/

inductive Passage where
  | enter (name : String)
  | leave (name : String) (reason : Option String)

def Passage.step : Passage → Step
  | enter name => .enter name
  | leave name reason => .leave name reason

namespace Progress

/-- Whoever enters holds one connection, even if it held one before, and whoever leaves holds none. -/
def holdersAfter (holders : List String) : Passage → Except Error Outcome → List String
  | .enter name, .ok _ => holders.insert name
  | .enter _, .error _ => holders
  | .leave name _, _ => holders.erase name

def pass (engine : Engine) (progress : Progress) (passage : Passage) : Progress :=
  let result := (Blocking.step engine passage.step).run progress.session
  ⟨result.2, holdersAfter progress.windows passage result.1⟩

def passAll (engine : Engine) (progress : Progress) (passages : List Passage) : Progress :=
  passages.foldl (pass engine) progress

/-- A transaction is left just if it holds a connection, and no entering succeeds while it does. -/
def InTurn (engine : Engine) : Progress → List Passage → Prop
  | _, [] => True
  | progress, passage :: passages =>
    Allows progress.windows passage.step
      ((Blocking.step engine passage.step).run progress.session).1 ∧
        InTurn engine (progress.pass engine passage) passages

def Has (progress : Progress) (name : String) (connection : Nat) : Prop :=
  name ∈ progress.windows ∧ (progress.session.transaction name).connection = some connection

/-- What is in the pool is open and there once. What is open is in the pool and nobody has it, or it is
not there and one transaction has it. -/
structure Intact (script : Script) (progress : Progress) : Prop where
  live_idle : ∀ handle ∈ progress.session.pool.idle, ∃ connection, handle = some connection ∧
    Live (progress.session.history script) connection
  nodup_idle : progress.session.pool.idle.Nodup
  placed : ∀ connection, Live (progress.session.history script) connection →
    (some connection ∈ progress.session.pool.idle ∧ ∀ name, ¬ progress.Has name connection) ∨
    (some connection ∉ progress.session.pool.idle ∧ ∃! name, progress.Has name connection)

variable {engine : Engine} {script : Script} {progress : Progress} {session : Session}
  {name : String}

/-! ## In turn -/

theorem mem_held_iff {handle : Handle} : handle ∈ progress.held ↔
    ∃ name ∈ progress.windows, (progress.session.transaction name).connection = handle :=
  List.mem_map

theorem intact_of_ledger (h : Ledger script progress.session progress.held) :
    Intact script progress := by
  obtain ⟨hheld, hidle, hdisjoint⟩ := List.nodup_append.1 h.nodup
  refine ⟨fun handle hmem => (h.mem_iff handle).1 (List.mem_append_right _ hmem), hidle, ?_⟩
  intro connection hlive
  rcases List.mem_append.1 ((h.mem_iff _).2 ⟨connection, rfl, hlive⟩) with hout | hin
  · obtain ⟨name, hname, hconnection⟩ := mem_held_iff.1 hout
    refine .inr ⟨fun hin => hdisjoint _ hout _ hin rfl, name, ⟨hname, hconnection⟩, ?_⟩
    rintro other ⟨hother, hsame⟩
    exact List.inj_on_of_nodup_map hheld hother hname (hsame.trans hconnection.symm)
  · refine .inl ⟨hin, fun name ⟨hname, hconnection⟩ => ?_⟩
    exact hdisjoint _ (mem_held_iff.2 ⟨name, hname, hconnection⟩) _ hin rfl

theorem pass_eq_next {passage : Passage} (h : Allows progress.windows passage.step
    ((Blocking.step engine passage.step).run progress.session).1) :
    progress.pass engine passage = progress.next engine passage.step := by
  unfold pass next
  cases passage with
  | leave name reason => rfl
  | enter name =>
    unfold Passage.step at h ⊢
    dsimp only at h ⊢
    cases houtcome : ((Blocking.step engine (.enter name)).run progress.session).1 with
    | error error => rfl
    | ok outcome =>
      -- In turn it makes no difference that whoever enters again is counted once.
      rw [houtcome] at h
      rw [holdersAfter, List.insert_of_not_mem h]
      rfl

theorem ledger_pass {passage : Passage} (h : Ledger script progress.session progress.held)
    (hallows : Allows progress.windows passage.step
      ((Blocking.step engine passage.step).run progress.session).1) :
    Ledger script (progress.pass engine passage).session (progress.pass engine passage).held := by
  rw [pass_eq_next hallows]
  exact ledger_next h hallows

theorem ledger_passAll {passages : List Passage}
    (h : Ledger script progress.session progress.held) (hturn : InTurn engine progress passages) :
    Ledger script (progress.passAll engine passages).session
      (progress.passAll engine passages).held := by
  induction passages generalizing progress with
  | nil => exact h
  | cons passage passages ih => exact ih (ledger_pass h hturn.1) hturn.2

theorem InTurn.of_prefix {done passages : List Passage} (hdone : done <+: passages)
    (h : InTurn engine progress passages) : InTurn engine progress done := by
  induction done generalizing progress passages with
  | nil => trivial
  | cons passage done ih =>
    obtain ⟨rest, rfl, hrest⟩ := List.cons_prefix_iff.1 hdone
    exact ⟨h.1, ih hrest h.2⟩

/-! ## Out of turn -/

theorem exists_used_of_leave (name : String) (reason : Option String) (session : Session) :
    ∃ after, session.Used name after ∧ ((leave name reason).run session).2 =
      after.setIdle ((session.transaction name).connection :: session.pool.idle) := by
  have hused := used_finish name reason session
  refine ⟨_, hused, ?_⟩
  show ((finish name reason).run session).2.setIdle
    (((((finish name reason).run session).2).transaction name).connection ::
      ((finish name reason).run session).2.pool.idle) = _
  rw [hused.moves.connection, hused.pool]

theorem live_of_used {after : Session} {out : List Handle} (h : Ledger script session out)
    (hused : session.Used name after) {connection : Nat} :
    Live (after.history script) connection ↔ Live (session.history script) connection := by
  obtain ⟨events, hwire⟩ := hused.wire
  have htalk := Session.talk_of_wire hwire
  rw [h.history_after hwire, ← htalk]
  exact live_append_of_not_manages fun answered hmem =>
    not_manages_of_serves (hused.moves.serves answered hmem)

theorem mem_windows_of_left {reason : Option String}
    (h : Ledger script progress.session progress.held)
    (hintact : Intact script (progress.pass engine (.leave name reason))) :
    name ∈ progress.windows := by
  by_contra hname
  obtain ⟨after, hused, hafter⟩ := exists_used_of_leave name reason progress.session
  unfold pass Passage.step holdersAfter at hintact
  dsimp only at hintact
  rw [run_step_leave, hafter, List.erase_of_not_mem hname] at hintact
  obtain ⟨connection, hconnection, hlive⟩ := hintact.live_idle _ List.mem_cons_self
  have hnew := (List.nodup_cons.1 hintact.nodup_idle).1
  -- The connection is open and was not in the pool, so another transaction has it.
  have hbefore : Live (progress.session.history script) connection := (live_of_used h hused).1 hlive
  have hheld := (h.mem_iff _).2 ⟨connection, hconnection, hbefore⟩
  obtain ⟨other, hother, hsame⟩ := mem_held_iff.1 ((List.mem_append.1 hheld).resolve_right hnew)
  have hne : other ≠ name := fun heq => hname (heq ▸ hother)
  rcases hintact.placed connection hlive with ⟨-, hnobody⟩ | ⟨hout, -⟩
  · refine hnobody other ⟨hother, ?_⟩
    show (after.transaction other).connection = _
    rw [hused.others other hne, hsame, hconnection]
  · exact hout (hconnection ▸ List.mem_cons_self)

theorem not_mem_windows_of_entered {handle : Handle} {after : Session}
    (h : Ledger script progress.session progress.held)
    (hacquires : Acquires engine progress.session (.ok handle, after))
    (hintact : Intact script
      ⟨after.setTransaction name ⟨.active, handle⟩, progress.windows.insert name⟩) :
    name ∉ progress.windows := by
  intro hname
  -- The connection that it held before is out of the pool, and now nobody holds it.
  have hledger : Ledger script after (handle :: progress.held) := h.acquire hacquires
  obtain ⟨hhandle, hnodup⟩ := List.nodup_cons.1 hledger.nodup
  obtain ⟨hheld, -, hdisjoint⟩ := List.nodup_append.1 hnodup
  have hfirst : (progress.session.transaction name).connection ∈ progress.held :=
    mem_held_iff.2 ⟨name, hname, rfl⟩
  obtain ⟨connection, hconnection, hlive⟩ :=
    (hledger.mem_iff _).1 (List.mem_cons_of_mem _ (List.mem_append_left _ hfirst))
  rw [List.insert_of_mem hname] at hintact
  rcases hintact.placed connection hlive with ⟨hin, -⟩ | ⟨-, other, ⟨hother, hsame⟩, -⟩
  · exact hdisjoint _ hfirst _ (hconnection ▸ hin) rfl
  · dsimp only at hother hsame
    by_cases hne : other = name
    · subst hne
      rw [Session.transaction_setTransaction_self] at hsame
      have heq : handle = (progress.session.transaction other).connection :=
        hsame.trans hconnection.symm
      exact hhandle (List.mem_append_left _ (heq ▸ hfirst))
    · rw [Session.transaction_setTransaction_of_ne _ _ hne,
        Session.transaction_congr hacquires.transactions] at hsame
      exact hne (List.inj_on_of_nodup_map hheld hother hname (hsame.trans hconnection.symm))

theorem allows_of_intact {passage : Passage} (h : Ledger script progress.session progress.held)
    (hintact : Intact script (progress.pass engine passage)) :
    Allows progress.windows passage.step
      ((Blocking.step engine passage.step).run progress.session).1 := by
  cases passage with
  | leave name reason => exact mem_windows_of_left h hintact
  | enter name =>
    have hacquires := acquires engine progress.session
    unfold pass Passage.step at hintact
    dsimp only [Passage.step] at hintact ⊢
    rw [run_step_enter, run_enter] at hintact ⊢
    generalize (acquire engine).run progress.session = result at hacquires hintact
    obtain ⟨outcome, after⟩ := result
    cases outcome with
    | error error => trivial
    | ok handle => exact not_mem_windows_of_entered h hacquires hintact

theorem inTurn_of_intact {passages : List Passage}
    (h : Ledger script progress.session progress.held)
    (hintact : ∀ done, done <+: passages → Intact script (progress.passAll engine done)) :
    InTurn engine progress passages := by
  induction passages generalizing progress with
  | nil => trivial
  | cons passage passages ih =>
    have hfirst := hintact [passage] (List.cons_prefix_cons.2 ⟨rfl, List.nil_prefix⟩)
    have hallows := allows_of_intact h hfirst
    exact ⟨hallows, ih (ledger_pass h hallows) fun done hdone =>
      hintact (passage :: done) (List.cons_prefix_cons.2 ⟨rfl, hdone⟩)⟩

end Progress

/-! ## What a call does to the pool -/

section Pool

variable (session : Session) (name : String)

theorem pool_of_leave (reason : Option String) :
    ((leave name reason).run session).2.pool =
      ⟨(session.transaction name).connection :: session.pool.idle, session.pool.opened⟩ := by
  obtain ⟨after, hused, hafter⟩ := Progress.exists_used_of_leave name reason session
  rw [hafter]
  show (⟨_, after.pool.opened⟩ : Pool) = _
  rw [hused.pool]

theorem pool_of_enter_eq_iff (engine : Engine) :
    ((enter engine name).run session).2.pool = session.pool ↔
      ∃ error, ((enter engine name).run session).1 = .error error := by
  have hacquires := acquires engine session
  rw [run_enter]
  generalize (acquire engine).run session = result at hacquires
  constructor
  · intro hpool
    cases hacquires with
    | @idle handle others hidle =>
      have hlength := congrArg (fun pool : Pool => pool.idle.length) hpool
      change others.length = session.pool.idle.length at hlength
      rw [hidle, List.length_cons] at hlength
      omega
    | exhausted hidle hfull => exact ⟨_, rfl⟩
    | refused hidle hroom hanswer => exact ⟨_, rfl⟩
    | opened hidle hroom hanswer =>
      have hopened : session.pool.opened + 1 = session.pool.opened := congrArg Pool.opened hpool
      omega
  · rintro ⟨error, herror⟩
    cases hacquires with
    | idle hidle => cases herror
    | exhausted hidle hfull => rfl
    | refused hidle hroom hanswer => rfl
    | opened hidle hroom hanswer => cases herror

end Pool

/-- However transactions are entered and left, the pool is intact after every call exactly if they take
turns: none is entered with success while it holds a connection, and none is left while it holds none.
To leave always adds the last connection to the pool, and to enter leaves the pool as it is only if it
fails. -/
theorem intact_iff_in_turn (engine : Engine) (script : Script) (passages : List Passage) :
    ((∀ done, done <+: passages →
        Progress.Intact script (Progress.passAll engine (.start script) done)) ↔
      Progress.InTurn engine (.start script) passages) ∧
    ∀ session name,
      (∀ reason, ((leave name reason).run session).2.pool =
        ⟨(session.transaction name).connection :: session.pool.idle, session.pool.opened⟩) ∧
      (((enter engine name).run session).2.pool = session.pool ↔
        ∃ error, ((enter engine name).run session).1 = .error error) := by
  have hstart : Ledger script (Progress.start script).session (Progress.start script).held :=
    Ledger.start script
  refine ⟨⟨Progress.inTurn_of_intact hstart, fun hturn done hdone => ?_⟩, fun session name => ?_⟩
  · exact Progress.intact_of_ledger (Progress.ledger_passAll hstart (hturn.of_prefix hdone))
  · exact ⟨pool_of_leave session name, pool_of_enter_eq_iff session name engine⟩

/-- A transaction that was never entered puts into the pool what is no connection, one that was left
already puts its connection there twice, and one that is entered again loses its first connection. -/
theorem pool_out_of_turn :
    let script : Script := ⟨[], [], [], [], []⟩
    let start := Progress.start script
    let fresh := start.passAll (inMemory 2) [.leave "a" none]
    let twice := start.passAll (inMemory 2) [.enter "a", .leave "a" none, .leave "a" none]
    let again := start.passAll (inMemory 2) [.enter "a", .enter "a"]
    (fresh.session.pool.idle = [none] ∧ ¬ fresh.Intact script) ∧
    (twice.session.pool.idle = [some 1, some 1] ∧ ¬ twice.Intact script) ∧
    again.session.pool.idle = [] ∧ Live (again.session.history script) 1 ∧
      (∀ name, ¬ again.Has name 1) ∧ ¬ again.Intact script := by
  intro script start fresh twice again
  have hfresh : fresh.session.pool.idle = [none] := by decide +kernel
  have htwice : twice.session.pool.idle = [some 1, some 1] := by decide +kernel
  have hidle : again.session.pool.idle = [] := by decide +kernel
  have hhas : ∀ name, ¬ again.Has name 1 := by
    have hwindows : again.windows = ["a"] := by decide +kernel
    have hconnection : (again.session.transaction "a").connection = some 2 := by decide +kernel
    rintro name ⟨hname, hone⟩
    rw [hwindows, List.mem_singleton] at hname
    rw [hname, hconnection] at hone
    cases hone
  have hlive : Live (again.session.history script) 1 := by
    have hhistory : again.session.history script =
        [⟨(inMemory 2).opening (Session.start script), .ok none⟩,
          ⟨(inMemory 2).opening (start.passAll (inMemory 2) [.enter "a"]).session, .ok none⟩] := rfl
    rw [hhistory]
    refine ⟨⟨_, List.mem_cons_self, rfl, none, rfl⟩, ?_⟩
    rintro ⟨answered, hmem, hcloses⟩
    rcases List.mem_cons.1 hmem with rfl | hmem
    · exact hcloses
    · obtain rfl := List.mem_singleton.1 hmem
      exact hcloses
  refine ⟨⟨hfresh, fun h => ?_⟩, ⟨htwice, fun h => ?_⟩, hidle, hlive, hhas, fun h => ?_⟩
  · obtain ⟨connection, hnone, -⟩ := h.live_idle none (hfresh ▸ List.mem_singleton_self none)
    cases hnone
  · have hnodup := h.nodup_idle
    rw [htwice] at hnodup
    simp at hnodup
  · rcases h.placed 1 hlive with ⟨hin, -⟩ | ⟨-, name, hname, -⟩
    · rw [hidle] at hin
      cases hin
    · exact hhas name hname

end ParamSql
