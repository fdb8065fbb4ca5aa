import ParamSql.Error

/-!
# Computations that keep a log

A computation that may fail, together with what it wrote to a log on the way. The log is kept when
it fails.
-/

namespace ParamSql

structure Logged (ε : Type) (α : Type) where
  log : List ε
  outcome : Except Error α

namespace Logged

variable {ε α β : Type}

protected def pure (value : α) : Logged ε α := ⟨[], .ok value⟩

protected def bind (first : Logged ε α) (next : α → Logged ε β) : Logged ε β :=
  match first.outcome with
  | .ok value => ⟨first.log ++ (next value).log, (next value).outcome⟩
  | .error error => ⟨first.log, .error error⟩

instance : Monad (Logged ε) where
  pure := Logged.pure
  bind := Logged.bind

def write (entry : ε) : Logged ε Unit := ⟨[entry], .ok ()⟩

def ofExcept (outcome : Except Error α) : Logged ε α := ⟨[], outcome⟩

@[simp] theorem log_pure (value : α) : (pure value : Logged ε α).log = [] := rfl

@[simp] theorem outcome_pure (value : α) : (pure value : Logged ε α).outcome = .ok value := rfl

theorem pure_inj {a b : α} (h : (pure a : Logged ε α) = pure b) : a = b :=
  Except.ok.inj (congrArg outcome h)

theorem bind_of_ok {first : Logged ε α} {value : α} (h : first.outcome = .ok value)
    (next : α → Logged ε β) :
    (first >>= next) = ⟨first.log ++ (next value).log, (next value).outcome⟩ := by
  show Logged.bind first next = _
  rw [Logged.bind, h]

theorem bind_of_error {first : Logged ε α} {error : Error} (h : first.outcome = .error error)
    (next : α → Logged ε β) : (first >>= next) = ⟨first.log, .error error⟩ := by
  show Logged.bind first next = _
  rw [Logged.bind, h]

end Logged

end ParamSql
