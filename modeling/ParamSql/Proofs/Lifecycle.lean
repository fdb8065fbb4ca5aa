import ParamSql.Proofs.Steps

/-!
# The life of a transaction

Whatever else happens in a session, the state of a transaction follows what it has asked of its
connection since it was last entered, and what it may ask follows its state.
-/

namespace ParamSql

open Blocking Transaction

/-! ## What a transaction has asked -/

namespace Request

def isWork : Request → Bool
  | execute _ _ => true
  | fetch _ _ => true
  | _ => false

def ending? : Request → Option Ending
  | commit _ => some .commit
  | rollback _ => some .rollback
  | _ => none

theorem Uses.isWork {handle : Handle} {request : Request} (h : request.Uses handle) :
    request.isWork = true ∧ request.ending? = none := by
  cases request
  case execute => exact ⟨rfl, rfl⟩
  case fetch => exact ⟨rfl, rfl⟩
  all_goals cases h

theorem Manages.not_isWork {request : Request} (h : request.Manages) :
    request.isWork = false ∧ request.ending? = none := by
  obtain ⟨connection, h⟩ := h
  cases request
  case connect => exact ⟨rfl, rfl⟩
  case close => exact ⟨rfl, rfl⟩
  all_goals rcases h with h | h <;> cases h

end Request

theorem ending?_request (ending : Ending) (connection : Nat) :
    (ending.request connection).ending? = some ending ∧
      (ending.request connection).isWork = false := by
  cases ending
  · exact ⟨rfl, rfl⟩
  · exact ⟨rfl, rfl⟩

namespace Answered

def Ended (ending : Ending) (answered : Answered) : Prop :=
  answered.request.ending? = some ending ∧ answered.Succeeds

/-- Nothing but a connection is asked for after a commit, and after a rollback nothing else but to
roll back once more. -/
def Precedes (earlier later : Answered) : Prop :=
  (earlier.Ended .commit → later.request.isWork = false ∧ later.request.ending? = none) ∧
  (earlier.Ended .rollback →
    later.request.isWork = false ∧ later.request.ending? ≠ some .commit)

end Answered

/-! ## The state and what was asked -/

/-- The state of a transaction is what it has asked since it was entered makes it. -/
structure Transaction.Follows (transaction : Transaction) (since : List Answered) : Prop where
  committed : ∀ answered ∈ since, answered.Ended .commit → transaction.state = .committed
  rolledBack : ∀ answered ∈ since, answered.Ended .rollback → transaction.state = .rolledBack
  active_or_ended : transaction.state = .active ∨ ∃ answered ∈ since, ∃ ending,
    answered.Ended ending
  ordered : since.Pairwise Answered.Precedes

namespace Transaction.Follows

variable {transaction after : Transaction} {since asked : List Answered}

theorem entered (h : transaction.state = .active) : transaction.Follows [] where
  committed := fun _ hmem => nomatch hmem
  rolledBack := fun _ hmem => nomatch hmem
  active_or_ended := .inl h
  ordered := .nil

theorem active_iff (h : transaction.Follows since) :
    transaction.state = .active ↔ ∀ answered ∈ since, ∀ ending, ¬ answered.Ended ending := by
  constructor
  · intro hactive answered hmem ending hended
    cases ending with
    | commit => cases hactive.symm.trans (h.committed answered hmem hended)
    | rollback => cases hactive.symm.trans (h.rolledBack answered hmem hended)
  · intro hnone
    exact h.active_or_ended.resolve_right fun ⟨answered, hmem, ending, hended⟩ =>
      hnone answered hmem ending hended

theorem asks (h : transaction.Follows since)
    (hnone : ∀ answered ∈ asked, ∀ ending, ¬ answered.Ended ending)
    (hprecedes : ∀ earlier ∈ since, ∀ later ∈ asked, earlier.Precedes later) :
    transaction.Follows (since ++ asked) := by
  refine ⟨fun answered hmem hended => ?_, fun answered hmem hended => ?_, ?_, ?_⟩
  · exact (List.mem_append.1 hmem).elim (h.committed answered · hended) fun hmem =>
      absurd hended (hnone answered hmem _)
  · exact (List.mem_append.1 hmem).elim (h.rolledBack answered · hended) fun hmem =>
      absurd hended (hnone answered hmem _)
  · exact h.active_or_ended.imp_right fun ⟨answered, hmem, hended⟩ =>
      ⟨answered, List.mem_append_left _ hmem, hended⟩
  · refine List.pairwise_append.2 ⟨h.ordered, ?_, hprecedes⟩
    exact List.pairwise_of_forall_mem_list fun earlier hearlier later _ =>
      ⟨(absurd · (hnone earlier hearlier _)), (absurd · (hnone earlier hearlier _))⟩

theorem rollback_of_allows (h : transaction.Follows since) {ending other : Ending}
    (hallows : transaction.allows ending.action = true) {earlier : Answered}
    (hmem : earlier ∈ since) (hended : earlier.Ended other) :
    other = .rollback ∧ ending = .rollback := by
  have hstate := (allows_iff _ _).1 hallows
  cases other with
  | commit =>
    rw [h.committed earlier hmem hended] at hstate
    simp at hstate
  | rollback =>
    rw [h.rolledBack earlier hmem hended] at hstate
    cases ending with
    | commit => simp [Ending.action] at hstate
    | rollback => exact ⟨rfl, rfl⟩

theorem precedes_of_allows (h : transaction.Follows since) {ending : Ending}
    (hallows : transaction.allows ending.action = true) (connection : Nat)
    (answer : Except Failure (Option Cursor)) :
    ∀ earlier ∈ since, earlier.Precedes ⟨ending.request connection, answer⟩ := by
  obtain ⟨hending, hwork⟩ := ending?_request ending connection
  intro earlier hmem
  constructor
  · intro hended
    cases (h.rollback_of_allows hallows hmem hended).1
  · intro hended
    refine ⟨hwork, ?_⟩
    rw [hending, (h.rollback_of_allows hallows hmem hended).2]
    decide

theorem ends (h : transaction.Follows since) {ending : Ending}
    (hallows : transaction.allows ending.action = true) (connection : Nat)
    (cursor? : Option Cursor) :
    ({ transaction with state := ending.state } : Transaction).Follows
      (since ++ [⟨ending.request connection, .ok cursor?⟩]) := by
  obtain ⟨hending, -⟩ := ending?_request ending connection
  -- If it was ended before, it was ended the same way.
  have hstate : ∀ answered ∈ since ++ [⟨ending.request connection, .ok cursor?⟩], ∀ other,
      answered.Ended other → other = ending := by
    intro answered hmem other hended
    rcases List.mem_append.1 hmem with hmem | hmem
    · obtain ⟨rfl, rfl⟩ := h.rollback_of_allows hallows hmem hended
      rfl
    · obtain rfl := List.mem_singleton.1 hmem
      exact (Option.some.inj (hending.symm.trans hended.1)).symm
  refine ⟨fun answered hmem hended => ?_, fun answered hmem hended => ?_, ?_, ?_⟩
  · rw [← hstate answered hmem _ hended]
    rfl
  · rw [← hstate answered hmem _ hended]
    rfl
  · exact .inr ⟨_, List.mem_append_right _ List.mem_cons_self, ending, hending, cursor?, rfl⟩
  · refine List.pairwise_append.2 ⟨h.ordered, List.pairwise_singleton _ _,
      fun earlier hearlier later hlater => ?_⟩
    obtain rfl := List.mem_singleton.1 hlater
    exact h.precedes_of_allows hallows connection _ earlier hearlier

theorem moves (h : transaction.Follows since) (hmoves : transaction.Moves asked after) :
    after.Follows (since ++ asked) := by
  cases hmoves with
  | rests =>
    rw [List.append_nil]
    exact h
  | works hactive huses =>
    have hnone : ∀ answered ∈ asked, ∀ ending, ¬ answered.Ended ending :=
      fun answered hmem ending hended => nomatch (huses answered hmem).isWork.2.symm.trans hended.1
    refine h.asks hnone fun earlier hearlier _ _ => ?_
    have hactive := h.active_iff.1 hactive earlier hearlier
    exact ⟨(absurd · (hactive _)), (absurd · (hactive _))⟩
  | fails ending hallows hconnection =>
    refine h.asks (fun answered hmem other hended => ?_) fun earlier hearlier later hlater => ?_
    · obtain rfl := List.mem_singleton.1 hmem
      obtain ⟨cursor?, hcursor⟩ := hended.2
      cases hcursor
    · obtain rfl := List.mem_singleton.1 hlater
      exact h.precedes_of_allows hallows _ _ earlier hearlier
  | ends ending hallows hconnection => exact h.ends hallows _ _

theorem manages (h : transaction.Follows since)
    (hmanages : ∀ answered ∈ asked, answered.request.Manages) :
    transaction.Follows (since ++ asked) := by
  refine h.asks (fun answered hmem ending hended => ?_) fun earlier _ later hlater => ?_
  · exact nomatch (hmanages answered hmem).not_isWork.2.symm.trans hended.1
  · obtain ⟨hwork, hnone⟩ := (hmanages later hlater).not_isWork
    exact ⟨fun _ => ⟨hwork, hnone⟩, fun _ => ⟨hwork, by simp [hnone]⟩⟩

end Transaction.Follows

/-! ## Runs -/

/-- A session in which one transaction is watched. -/
structure Life where
  session : Session
  /-- What the transaction has asked since it was last entered, if it was. -/
  since : Option (List Answered)

namespace Life

variable {engine : Engine} {name : String}

def start (script : Script) : Life := ⟨Session.start script, none⟩

def since? (name : String) (since : Option (List Answered)) (asked : List Answered) :
    Step → Except Error Outcome → Option (List Answered)
  | .begin other, _ => if other = name then none else since
  | .enter other, .ok _ => if other = name then some [] else since
  | step, _ => if step.owner? = some name then since.map (· ++ asked) else since

def next (engine : Engine) (name : String) (life : Life) (step : Step) : Life :=
  let result := (Blocking.step engine step).run life.session
  ⟨result.2, since? name life.since (life.session.talk result.2) step result.1⟩

def run (engine : Engine) (name : String) (script : Script) (steps : List Step) : Life :=
  steps.foldl (next engine name) (start script)

theorem since?_of_user {step : Step} (h : step.user? = some name) (since : Option (List Answered))
    (asked : List Answered) (outcome : Except Error Outcome) :
    since? name since asked step outcome = since.map (· ++ asked) := by
  have howner := Step.owner?_of_user h
  cases step
  case begin => cases h
  case enter => cases h
  all_goals exact if_pos howner

theorem since?_of_not_owner {step : Step} (howner : step.owner? ≠ some name)
    (hbegin : step ≠ .begin name) (since : Option (List Answered)) (asked : List Answered)
    (outcome : Except Error Outcome) : since? name since asked step outcome = since := by
  cases step
  case begin other => exact if_neg fun heq => hbegin (congrArg Step.begin heq)
  case enter other =>
    have hne : other ≠ name := fun heq => howner (congrArg some heq)
    cases outcome with
    | ok outcome => exact if_neg hne
    | error error => exact if_neg howner
  all_goals simp [since?, howner]

def Sound (name : String) (life : Life) : Prop :=
  ∀ since, life.since = some since → (life.session.transaction name).Follows since

theorem sound_start (script : Script) : Sound name (start script) := fun _ h => nomatch h

theorem sound_of_moves {life : Life} {after : Session} (h : Sound name life)
    (hmoves : (life.session.transaction name).Moves (life.session.talk after)
      (after.transaction name)) :
    Sound name ⟨after, life.since.map (· ++ life.session.talk after)⟩ := by
  intro since hsince
  obtain ⟨earlier, hearlier, rfl⟩ := Option.map_eq_some_iff.1 hsince
  exact (h earlier hearlier).moves hmoves

theorem sound_of_owner {life : Life} (h : Sound name life) {step : Step}
    (howner : step.owner? = some name) {result : Except Error Outcome × Session}
    (htransition : Transition engine life.session step result) :
    Sound name ⟨result.2, since? name life.since (life.session.talk result.2) step result.1⟩ := by
  obtain ⟨huser, hused⟩ | ⟨error, rfl, hfailed, hacquires⟩ | ⟨handle, after, rfl, -, rfl⟩ |
    ⟨reason, after, rfl, hused, hafter⟩ := htransition.of_owner howner
  · rw [since?_of_user huser]
    exact sound_of_moves h hused.moves
  · intro since hsince
    rw [hfailed] at hsince
    simp only [since?, if_pos howner] at hsince
    obtain ⟨earlier, hearlier, rfl⟩ := Option.map_eq_some_iff.1 hsince
    rw [Session.transaction_congr hacquires.transactions name]
    exact (h earlier hearlier).manages hacquires.manages
  · intro since hsince
    simp only [since?, if_pos] at hsince
    cases hsince
    exact .entered (by rw [Session.transaction_setTransaction_self])
  · rw [hafter]
    simp only [since?, if_pos howner]
    exact sound_of_moves h hused.moves

theorem sound_next {life : Life} (h : Sound name life) (step : Step) :
    Sound name (next engine name life step) := by
  have htransition := transition engine life.session step
  unfold next
  generalize (Blocking.step engine step).run life.session = result at htransition
  by_cases hbegin : step = .begin name
  · subst hbegin
    intro since hsince
    simp only [since?, if_pos] at hsince
    cases hsince
  · by_cases howner : step.owner? = some name
    · exact sound_of_owner h howner htransition
    · intro since hsince
      dsimp only at hsince ⊢
      rw [since?_of_not_owner howner hbegin] at hsince
      rw [htransition.transaction_of_ne howner hbegin]
      exact h since hsince

theorem sound_run (script : Script) (steps : List Step) :
    Sound name (run engine name script steps) := by
  unfold run
  generalize hstart : start script = life
  have hsound : Sound name life := hstart ▸ sound_start script
  clear hstart
  induction steps generalizing life with
  | nil => exact hsound
  | cons step steps ih => exact ih _ (sound_next hsound step)

end Life

/-! ## What the state allows -/

section Calls

variable {engine : Engine} {name : String} {session : Session}

theorem active_of_moves {transaction after : Transaction} {asked : List Answered}
    (h : transaction.Moves asked after) {answered : Answered} (hmem : answered ∈ asked)
    (hasked : answered.request.isWork = true ∨ answered.request.ending? = some .commit) :
    transaction.state = .active := by
  have hending : ∀ {ending : Ending} {connection : Nat} {answer : Except Failure (Option Cursor)},
      transaction.allows ending.action = true →
      answered ∈ [⟨ending.request connection, answer⟩] → transaction.state = .active := by
    intro ending connection answer hallows hmem
    obtain rfl := List.mem_singleton.1 hmem
    obtain ⟨hending, hwork⟩ := ending?_request ending connection
    rw [hwork, hending] at hasked
    obtain rfl : ending = .commit := by simpa using hasked
    simpa [allows_iff, Ending.action] using hallows
  cases h with
  | rests => cases hmem
  | works hactive huses => exact hactive
  | ends ending hallows hconnection => exact hending hallows hmem
  | fails ending hallows hconnection => exact hending hallows hmem

theorem active_of_asked {step : Step} (howner : step.owner? = some name) {answered : Answered}
    (hmem : answered ∈ session.talk ((Blocking.step engine step).run session).2)
    (hasked : answered.request.isWork = true ∨ answered.request.ending? = some .commit) :
    (session.transaction name).state = .active := by
  obtain hmanages | ⟨after, hmoves⟩ := (transition engine session step).manages_or_moves howner
  · obtain ⟨hwork, hending⟩ := (hmanages answered hmem).not_isWork
    simp [hwork, hending] at hasked
  · exact active_of_moves hmoves hmem hasked

/-! ## What is refused -/

theorem session_of_refused_call {ending : Ending} {error : Error} {after : Session}
    (hrun : (ending.call name).run session = (.error error, after))
    (hkind : error.kind? = some .transactionState) : after = session := by
  cases hallows : (session.transaction name).allows ending.action with
  | false =>
    rw [run_call_of_not_allows hallows] at hrun
    exact (congrArg Prod.snd hrun).symm
  | true =>
    -- An error of the driver or of a missing connection has no such kind.
    have hends := ends_call hallows
    rw [hrun] at hends
    cases hends with
    | noConnection h => rfl
    | fails h hanswer => cases hkind

theorem error_of_bind {ε α β : Type} {first : Except ε α} {next : α → Except ε β} {error : ε}
    (h : (first >>= next) = .error error) :
    first = .error error ∨ ∃ value, first = .ok value ∧ next value = .error error := by
  cases first with
  | error other =>
    cases h
    exact .inl rfl
  | ok value => exact .inr ⟨value, rfl, h⟩

theorem error_of_mapM {ε α β : Type} {f : α → Except ε β} {values : List α} {error : ε}
    (h : values.mapM f = .error error) : ∃ value, f value = .error error := by
  induction values with
  | nil => cases h
  | cons value values ih =>
    rw [List.mapM_cons] at h
    obtain hvalue | ⟨_, -, h⟩ := error_of_bind h
    · exact ⟨value, hvalue⟩
    obtain hvalues | ⟨_, -, h⟩ := error_of_bind h
    · exact ih hvalues
    cases h

theorem error_of_renameEntries {rule : KeyRule} {entries : List (Value × Value)} {error : Error}
    (h : rule.renameEntries entries = .error error) : ∃ key, rule key = .error error := by
  induction entries with
  | nil => cases h
  | cons entry rest ih =>
    obtain ⟨key, value⟩ := entry
    unfold KeyRule.renameEntries at h
    obtain hkey | ⟨_, -, h⟩ := error_of_bind h
    · exact ⟨key, hkey⟩
    obtain hrest | ⟨_, -, h⟩ := error_of_bind h
    · exact ih hrest
    cases h

theorem error_of_renameRows {rule? : Option KeyRule} {rows : List ResultRow} {error : Error}
    (h : renameRows rule? rows = .error error) :
    ∃ rule key, rule? = some rule ∧ rule key = .error error := by
  cases rule? with
  | none => cases h
  | some rule =>
    obtain ⟨row, hrow⟩ := error_of_mapM h
    obtain hentries | ⟨_, -, h⟩ := error_of_bind hrow
    · obtain ⟨key, hkey⟩ := error_of_renameEntries hentries
      exact ⟨rule, key, rfl, hkey⟩
    cases h

/-- A query that is executed fails as a query, or because of the key rule. -/
theorem error_of_executeOn {handle : Handle} {query : Query} {error : Error} {after : Session}
    (h : (executeOn engine handle query).run session = (.error error, after)) :
    error.kind? = some .queryExecution ∨
      ∃ rule key, engine.keyRule = some rule ∧ rule key = .error error := by
  simp only [executeOn, run_bind, run_record, run_attempt] at h
  cases houtcome : ((runQuery engine handle query).run
      (session.record (.debug query.executingLine))).1 with
  | ok rows =>
    rw [houtcome] at h
    exact .inr (error_of_renameRows (congrArg Prod.fst h))
  | error failure =>
    rw [houtcome] at h
    cases congrArg Prod.fst h
    exact .inl rfl

theorem session_of_refused_query {query : Query} {error : Error} {after : Session}
    (hrun : (executeIn engine name query).run session = (.error error, after))
    (hkind : error.kind? = some .transactionState) :
    after = session ∨ ∃ rule key, engine.keyRule = some rule ∧ rule key = .error error := by
  by_cases hactive : (session.transaction name).state = .active
  · rw [run_executeIn_of_active engine hactive] at hrun
    refine .inr ((error_of_executeOn hrun).resolve_left fun hquery => ?_)
    cases hquery.symm.trans hkind
  · rw [run_executeIn_of_not_active engine hactive] at hrun
    exact .inl (congrArg Prod.snd hrun).symm

/-! ## Leaving -/

theorem leave_of_active (h : (session.transaction name).state = .active)
    (reason : Option String) :
    session.talk ((leave name reason).run session).2 =
      (session.transaction name).connection.toList.map (fun connection =>
        ⟨(Ending.onLeaving reason).request connection,
          session.wire.answer ((Ending.onLeaving reason).request connection)⟩) ∧
    ((session.transaction name).connection = none → ((leave name reason).run session).1 =
      .error (.noConnection (Ending.onLeaving reason).action.name)) := by
  refine ⟨talk_finish h reason, fun hnone => ?_⟩
  show ((finish name reason).run session).1 = _
  have hends := ends_finish h reason
  generalize (finish name reason).run session = result at hends
  cases hends with
  | noConnection hconnection => rfl
  | fails hconnection hanswer => cases hnone.symm.trans hconnection
  | succeeds hconnection hanswer => cases hnone.symm.trans hconnection

theorem leave_of_not_active (h : (session.transaction name).state ≠ .active)
    (reason : Option String) :
    session.talk ((leave name reason).run session).2 = [] ∧
      ((leave name reason).run session).1 = .ok () := by
  constructor
  · show session.talk ((finish name reason).run session).2 = []
    rw [run_finish_of_not_active h, Session.talk_self]
  · show ((finish name reason).run session).1 = _
    rw [run_finish_of_not_active h]

end Calls

/-! ## The whole life -/

/-- What the state of a transaction allows it, in one session. -/
structure Guarded (engine : Engine) (name : String) (session : Session) : Prop where
  active_of_asked (step : Step) : step.owner? = some name →
    ∀ answered ∈ session.talk ((Blocking.step engine step).run session).2,
      answered.request.isWork = true ∨ answered.request.ending? = some .commit →
        (session.transaction name).state = .active
  refuses_call (ending : Ending) : (session.transaction name).allows ending.action = false →
    (ending.call name).run session =
      (.error (.wrongState (session.transaction name).state.name ending.action.name), session)
  refuses_query (query : Query) : (session.transaction name).state ≠ .active →
    (executeIn engine name query).run session =
      (.error (.wrongState (session.transaction name).state.name "execute"), session)
  session_of_refused_call (ending : Ending) (error : Error) (after : Session) :
    (ending.call name).run session = (.error error, after) →
      error.kind? = some .transactionState → after = session
  /-- Only the key rule can fail as a refusal does. -/
  session_of_refused_query (query : Query) (error : Error) (after : Session) :
    (executeIn engine name query).run session = (.error error, after) →
      error.kind? = some .transactionState →
        after = session ∨ ∃ rule key, engine.keyRule = some rule ∧ rule key = .error error
  leave_of_active (reason : Option String) : (session.transaction name).state = .active →
    session.talk ((leave name reason).run session).2 =
      (session.transaction name).connection.toList.map (fun connection =>
        ⟨(Ending.onLeaving reason).request connection,
          session.wire.answer ((Ending.onLeaving reason).request connection)⟩) ∧
    ((session.transaction name).connection = none → ((leave name reason).run session).1 =
      .error (.noConnection (Ending.onLeaving reason).action.name))
  leave_of_not_active (reason : Option String) : (session.transaction name).state ≠ .active →
    session.talk ((leave name reason).run session).2 = [] ∧
      ((leave name reason).run session).1 = .ok ()

/-- A transaction that was entered is active until it has committed or rolled back. After a commit it
asks nothing more of its connection, and after a rollback nothing but another rollback. Its state
guards its calls in every session. -/
theorem state_follows_connection (engine : Engine) (name : String) :
    (∀ (script : Script) (steps : List Step) (since : List Answered),
      (Life.run engine name script steps).since = some since →
        (((Life.run engine name script steps).session.transaction name).state = .active ↔
          ∀ answered ∈ since, ∀ ending, ¬ answered.Ended ending) ∧
        since.Pairwise Answered.Precedes) ∧
    ∀ session, Guarded engine name session := by
  refine ⟨fun script steps since hsince => ?_, fun session => ?_⟩
  · have hfollows := Life.sound_run script steps since hsince
    exact ⟨hfollows.active_iff, hfollows.ordered⟩
  · exact {
      active_of_asked := fun step howner answered hmem => active_of_asked howner hmem
      refuses_call := fun ending => run_call_of_not_allows
      refuses_query := fun query hactive => run_executeIn_of_not_active engine hactive query
      session_of_refused_call := fun ending error after => session_of_refused_call
      session_of_refused_query := fun query error after => session_of_refused_query
      leave_of_active := fun reason hactive => leave_of_active hactive reason
      leave_of_not_active := fun reason hactive => leave_of_not_active hactive reason }

/-- An engine on a database in memory, with a pool of at least one connection. -/
def inMemory (poolSize : Nat) : Engine :=
  ⟨⟨"sqlite", none, none, none, none, ":memory:", max 1 poolSize, Nat.le_max_left 1 poolSize,
    Fields.empty⟩, .sqlite, none, none⟩

/-- A commit fails and leaves the transaction active. It is rolled back twice, and then a commit is
refused. -/
theorem state_follows_connection_refused :
    let life := Life.run (inMemory 1) "tx" ⟨[], [], [some ⟨false, "locked"⟩], [], []⟩
      [.begin "tx", .enter "tx", .commit "tx", .rollback "tx", .rollback "tx"]
    ∃ since, life.since = some since ∧
      since.map (fun answered => (answered.request.ending?, answered.answer.isOk)) =
        [(some .commit, false), (some .rollback, true), (some .rollback, true)] ∧
      since.Pairwise Answered.Precedes ∧
      ¬ (∀ answered ∈ since, ∀ ending, ¬ answered.Ended ending) ∧
      (Ending.commit.call "tx").run life.session =
        (.error (.wrongState "rolled_back" "commit"), life.session) := by
  intro life
  have hasked : life.since.map (List.map fun answered =>
      (answered.request.ending?, answered.answer.isOk)) =
        some [(some .commit, false), (some .rollback, true), (some .rollback, true)] := by
    decide +kernel
  have hstate : (life.session.transaction "tx").state = .rolledBack := by decide +kernel
  obtain ⟨since, hsince, hasked⟩ := Option.map_eq_some_iff.1 hasked
  obtain ⟨hruns, hguarded⟩ := state_follows_connection (inMemory 1) "tx"
  obtain ⟨hactive, hordered⟩ := hruns _ _ _ hsince
  have hallows : (life.session.transaction "tx").allows Ending.commit.action = false := by
    rw [allows, hstate]
    rfl
  have hrefused := (hguarded life.session).refuses_call .commit hallows
  rw [hstate] at hrefused
  refine ⟨since, hsince, hasked, hordered, fun hnone => ?_, hrefused⟩
  cases hstate.symm.trans (hactive.2 hnone)

end ParamSql
