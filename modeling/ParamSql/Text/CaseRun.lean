/-! # Runs of characters that change case alike -/

namespace ParamSql.Text

/-- Every `step`-th code point from `first` to `last` moves by `shift`. -/
structure CaseRun where
  first : Nat
  last : Nat
  step : Nat
  shift : Int

def CaseRun.image? (run : CaseRun) (c : Char) : Option Char :=
  if run.first ≤ c.toNat && c.toNat ≤ run.last && (c.toNat - run.first) % run.step == 0 then
    some (Char.ofNat (c.toNat + run.shift).toNat)
  else
    none

/-- The image of a character under the first run that holds it, else the character. -/
def CaseRun.applyFirst (runs : List CaseRun) (c : Char) : Char :=
  (runs.findSome? (·.image? c)).getD c

end ParamSql.Text
