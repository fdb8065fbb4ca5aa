import ParamSql.Error

/-!
# Checks that do not stop

The outcome of several checks: a value, or the problems of all checks that failed, in the order of
the checks.
-/

namespace ParamSql

inductive Checked (α : Type) where
  | valid (value : α)
  | invalid (problems : List Problem)

namespace Checked

variable {α β : Type}

def refuse (defect : Defect) (path : List String) : Checked α := invalid [⟨defect, path⟩]

protected def seq (first : Checked (α → β)) (second : Checked α) : Checked β :=
  match first, second with
  | valid f, valid a => valid (f a)
  | valid _, invalid problems => invalid problems
  | invalid problems, valid _ => invalid problems
  | invalid problems, invalid more => invalid (problems ++ more)

instance : Applicative Checked where
  pure := valid
  seq first second := Checked.seq first (second ())

def orError (wrap : List Problem → Error) : Checked α → Except Error α
  | valid value => .ok value
  | invalid problems => .error (wrap problems)

end Checked

end ParamSql
