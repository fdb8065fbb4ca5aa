import ParamSql.Error

/-!
# Transactions

The states of a transaction and what each of them allows.
-/

namespace ParamSql

/-- A connection by its number, or none at all. -/
abbrev Handle := Option Nat

def connectionOf (call : String) : Handle → Except Error Nat
  | some connection => .ok connection
  | none => .error (.noConnection call)

inductive TransactionState where
  | idle
  | active
  | committed
  | rolledBack
deriving DecidableEq

def TransactionState.name : TransactionState → String
  | idle => "idle"
  | active => "active"
  | committed => "committed"
  | rolledBack => "rolled_back"

inductive TransactionAction where
  | execute
  | commit
  | rollback
deriving DecidableEq

def TransactionAction.name : TransactionAction → String
  | execute => "execute"
  | commit => "commit"
  | rollback => "rollback"

structure Transaction where
  state : TransactionState
  /-- The connection last acquired, kept when the transaction is over. -/
  connection : Handle

namespace Transaction

def fresh : Transaction := ⟨.idle, none⟩

/-- An active transaction allows everything; one that was rolled back may be rolled back again. -/
def allows (transaction : Transaction) (action : TransactionAction) : Bool :=
  transaction.state == .active || (transaction.state == .rolledBack && action == .rollback)

def check (transaction : Transaction) (action : TransactionAction) : Except Error Unit :=
  if transaction.allows action then .ok ()
  else .error (.wrongState transaction.state.name action.name)

theorem allows_iff (transaction : Transaction) (action : TransactionAction) :
    transaction.allows action = true ↔ transaction.state = .active ∨
      (transaction.state = .rolledBack ∧ action = .rollback) := by
  simp [allows]

end Transaction

end ParamSql
