import ParamSql.Proofs.Lifecycle

/-!
# Windows

A transaction holds a connection from the time it is entered until it is left. If transactions are
entered and left in turn, no connection is held twice and none is lost, whatever the driver answers
and whenever else the transactions are called.
-/

namespace ParamSql

open Blocking

/-! ## Entering and leaving in turn -/

/-- A session, and the transactions that were entered and not left again. -/
structure Progress where
  session : Session
  windows : List String

namespace Progress

def start (script : Script) : Progress := ⟨Session.start script, []⟩

def windowsAfter (windows : List String) : Step → Except Error Outcome → List String
  | .enter name, .ok _ => name :: windows
  | .leave name _, _ => windows.erase name
  | _, _ => windows

def next (engine : Engine) (progress : Progress) (step : Step) : Progress :=
  let result := (Blocking.step engine step).run progress.session
  ⟨result.2, windowsAfter progress.windows step result.1⟩

def run (engine : Engine) (progress : Progress) (steps : List Step) : Progress :=
  steps.foldl (next engine) progress

/-- A transaction is not entered again before it is left, nor left again before it is entered. Nobody
takes a connection by hand. -/
def Allows (windows : List String) : Step → Except Error Outcome → Prop
  | .begin name, _ => name ∉ windows
  | .enter name, .ok _ => name ∉ windows
  | .leave name _, _ => name ∈ windows
  | .acquire _, _ => False
  | .release _, _ => False
  | _, _ => True

instance (windows : List String) (step : Step) (outcome : Except Error Outcome) :
    Decidable (Allows windows step outcome) := by
  unfold Allows
  split
  all_goals infer_instance

/-- Transactions are entered and left in turn, and otherwise called at any time. -/
def Paired (engine : Engine) : Progress → List Step → Prop
  | _, [] => True
  | progress, step :: steps =>
    Allows progress.windows step ((Blocking.step engine step).run progress.session).1 ∧
      Paired engine (progress.next engine step) steps

instance (engine : Engine) (progress : Progress) (steps : List Step) :
    Decidable (Paired engine progress steps) := by
  induction steps generalizing progress with
  | nil => exact isTrue trivial
  | cons step steps ih => exact @instDecidableAnd _ _ inferInstance (ih _)

/-- The connections of the windows that are open. -/
def held (progress : Progress) : List Handle :=
  progress.windows.map fun name => (progress.session.transaction name).connection

/-! ## The ledger of windows -/

variable {engine : Engine} {script : Script} {windows : List String} {session after : Session}

theorem windowsAfter_of_not_owner {step : Step} (h : step.owner? = none) (windows : List String)
    (outcome : Except Error Outcome) : windowsAfter windows step outcome = windows := by
  cases step
  case enter => cases h
  case leave => cases h
  all_goals rfl

theorem windowsAfter_of_user {step : Step} {name : String} (h : step.user? = some name)
    (windows : List String) (outcome : Except Error Outcome) :
    windowsAfter windows step outcome = windows := by
  cases step
  case enter => cases h
  case leave => cases h
  all_goals rfl

theorem not_manages_of_serves {handle : Handle} {request : Request} (h : request.Serves handle) :
    ¬ request.Manages := by
  rintro ⟨connection, hmanages⟩
  cases request
  case connect => rcases h with h | h <;> cases h
  case close => rcases h with h | h <;> cases h
  all_goals rcases hmanages with hmanages | hmanages <;> cases hmanages

theorem held_congr (h : ∀ name ∈ windows,
    (after.transaction name).connection = (session.transaction name).connection) :
    held ⟨after, windows⟩ = held ⟨session, windows⟩ :=
  List.map_congr_left h

theorem held_of_transactions (h : after.transactions = session.transactions) :
    held ⟨after, windows⟩ = held ⟨session, windows⟩ :=
  held_congr fun name _ => by rw [Session.transaction_congr h name]

theorem held_of_used {name : String} (h : session.Used name after) :
    held ⟨after, windows⟩ = held ⟨session, windows⟩ := by
  refine held_congr fun other _ => ?_
  by_cases hother : other = name
  · rw [hother, h.moves.connection]
  · rw [h.others other hother]

theorem held_entered {name : String} {handle : Handle} (hname : name ∉ windows)
    (h : after.transactions = session.transactions) :
    held ⟨after.setTransaction name ⟨.active, handle⟩, name :: windows⟩ =
      handle :: held ⟨session, windows⟩ := by
  have hothers : held ⟨after.setTransaction name ⟨.active, handle⟩, windows⟩ =
      held ⟨session, windows⟩ := by
    refine held_congr fun other hother => ?_
    have hne : other ≠ name := fun heq => hname (heq ▸ hother)
    rw [after.transaction_setTransaction_of_ne _ hne, Session.transaction_congr h other]
  rw [← hothers, held, List.map_cons, Session.transaction_setTransaction_self]
  rfl

theorem ledger_of_used {name : String} {out : List Handle} (hledger : Ledger script session out)
    (h : session.Used name after) : Ledger script after out := by
  obtain ⟨events, hwire⟩ := h.wire
  exact hledger.told hwire (congrArg Pool.idle h.pool) fun answered hmem =>
    not_manages_of_serves (h.moves.serves answered hmem)

theorem ledger_of_borrowed {out : List Handle} (hledger : Ledger script session out)
    {handle : Handle} {borrowed : Session} {events : List Event}
    (hacquires : Acquires engine session (.ok handle, borrowed))
    (hserves : ∀ request, .asked request ∈ events → request.Serves handle) :
    Ledger script ((borrowed.told events).setIdle (handle :: borrowed.pool.idle)) out := by
  have htold : Ledger script (borrowed.told events) (handle :: out) := by
    refine (hledger.acquire hacquires).told rfl rfl fun answered hmem => ?_
    rw [Session.talk_told] at hmem
    exact not_manages_of_serves (hserves _ (Wire.mem_events_of_mem_answered hmem))
  exact htold.release (List.Perm.refl _)

theorem ledger_next {progress : Progress} {step : Step}
    (h : Ledger script progress.session progress.held)
    (hallows : Allows progress.windows step
      ((Blocking.step engine step).run progress.session).1) :
    Ledger script (progress.next engine step).session (progress.next engine step).held := by
  have htransition := transition engine progress.session step
  unfold next
  generalize (Blocking.step engine step).run progress.session = result at htransition hallows
  obtain ⟨session, windows⟩ := progress
  dsimp only at *
  cases htransition with
  | rests howner =>
    rw [windowsAfter_of_not_owner howner]
    exact h
  | borrowsNone hquery hacquires =>
    rw [windowsAfter_of_not_owner (user?_of_query hquery).2,
      held_of_transactions hacquires.transactions]
    exact h.acquire hacquires
  | borrows hquery hacquires hserves =>
    rw [windowsAfter_of_not_owner (user?_of_query hquery).2, held_of_transactions]
    · exact ledger_of_borrowed h hacquires hserves
    · exact hacquires.transactions
  | uses huser hused =>
    rw [windowsAfter_of_user huser, held_of_used hused]
    exact ledger_of_used h hused
  | begins name =>
    have hheld : held ⟨session.setTransaction name .fresh, windows⟩ = held ⟨session, windows⟩ := by
      refine held_congr fun other hother => ?_
      have hne : other ≠ name := fun heq => hallows (heq ▸ hother)
      rw [session.transaction_setTransaction_of_ne _ hne]
    show Ledger script _ (held ⟨_, windows⟩)
    rw [hheld]
    exact h.congr rfl rfl
  | entersNone name hacquires =>
    show Ledger script _ (held ⟨_, windows⟩)
    rw [held_of_transactions hacquires.transactions]
    exact h.acquire hacquires
  | enters name hacquires =>
    rw [windowsAfter, held_entered hallows hacquires.transactions]
    exact (h.acquire hacquires).congr rfl rfl
  | leaves name reason hused =>
    -- The connection of the window goes from the held ones into the pool.
    have hused' := ledger_of_used h hused
    rw [← held_of_used hused] at hused'
    exact hused'.release ((List.perm_cons_erase hallows).map _)
  | takesNone holder hacquires => exact hallows.elim
  | takes holder hacquires => exact hallows.elim
  | givesBack holder hheld => exact hallows.elim
  | closes =>
    show Ledger script _ (held ⟨_, windows⟩)
    rw [held_of_transactions (transactions_closeAll _ session)]
    exact h.closeAll rfl

theorem ledger_run {progress : Progress} {steps : List Step}
    (h : Ledger script progress.session progress.held) (hpaired : Paired engine progress steps) :
    Ledger script (progress.run engine steps).session (progress.run engine steps).held := by
  induction steps generalizing progress with
  | nil => exact h
  | cons step steps ih => exact ih (ledger_next h hpaired.1) hpaired.2

end Progress

/-- While transactions are entered and left in turn, the connections of the open windows are all
different, none of them is in the pool, and together with the pool they are the connections that were
opened and that nobody has tried to close. -/
theorem connections_owned (engine : Engine) (script : Script) (steps : List Step)
    (h : Progress.Paired engine (.start script) steps) :
    let progress := Progress.run engine (.start script) steps
    let idle := progress.session.pool.idle
    progress.held.Nodup ∧ (∀ handle ∈ progress.held, handle ∉ idle) ∧ idle.Nodup ∧
      (∀ handle, handle ∈ progress.held ∨ handle ∈ idle ↔
        ∃ connection, handle = some connection ∧ Live (progress.session.history script) connection) ∧
      (progress.windows = [] → ∀ connection,
        Live (progress.session.history script) connection ↔ some connection ∈ idle) := by
  intro progress idle
  have hledger : Ledger script progress.session progress.held :=
    Progress.ledger_run (Ledger.start script) h
  obtain ⟨hheld, hidle, hdisjoint⟩ := List.nodup_append.1 hledger.nodup
  have hmem := hledger.mem_iff
  simp only [List.mem_append] at hmem
  refine ⟨hheld, fun handle hhandle hin => hdisjoint handle hhandle handle hin rfl, hidle, hmem,
    fun hnone connection => ?_⟩
  have hempty : progress.held = [] := by rw [Progress.held, hnone, List.map_nil]
  constructor
  · intro hlive
    have hconnection := (hmem (some connection)).2 ⟨connection, rfl, hlive⟩
    rw [hempty] at hconnection
    exact hconnection.resolve_left List.not_mem_nil
  · exact hledger.live_of_mem_idle

/-- Of two open windows one is left while its rollback fails; its connection is used once more and
closed, and the other one stays held. -/
theorem connections_owned_closed :
    let script : Script := ⟨[], [], [], [some ⟨false, "gone"⟩], []⟩
    let steps : List Step := [.begin "a", .begin "b", .enter "a", .enter "b",
      .leave "a" (some "ValueError"), .query none ⟨"SELECT 1", []⟩, .close]
    let progress := Progress.run (inMemory 2) (.start script) steps
    Progress.Paired (inMemory 2) (.start script) steps ∧ progress.held = [some 2] ∧
      progress.session.pool.idle = [] ∧
      ∀ connection, Live (progress.session.history script) connection ↔ connection = 2 := by
  intro script steps
  have hpaired : Progress.Paired (inMemory 2) (.start script) steps := by decide +kernel
  have hheld : (Progress.run (inMemory 2) (.start script) steps).held = [some 2] := by
    decide +kernel
  have hidle : (Progress.run (inMemory 2) (.start script) steps).session.pool.idle = [] := by
    decide +kernel
  have howned := connections_owned (inMemory 2) script steps hpaired
  generalize Progress.run (inMemory 2) (.start script) steps = progress at *
  obtain ⟨-, -, -, hlive, -⟩ := howned
  refine ⟨hpaired, hheld, hidle, fun connection => ?_⟩
  have hconnection := hlive (some connection)
  rw [hheld, hidle] at hconnection
  simpa using hconnection.symm

end ParamSql
