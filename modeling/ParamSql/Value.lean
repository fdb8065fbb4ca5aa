import ParamSql.Fields

/-!
# Bound values

The values that a caller binds and a driver returns. A list and a tuple with the same elements are
different values, and so are `true` and `1`.
-/

namespace ParamSql

inductive Value where
  | null
  | bool (b : Bool)
  | int (n : Int)
  /-- The fraction `digits / 10 ^ places` with its sign, which zero has too. -/
  | decimal (negative : Bool) (digits places : Nat)
  | text (s : String)
  | list (elements : List Value)
  | tuple (elements : List Value)
  | dict (entries : List (String × Value))
deriving Inhabited

/-- A record to insert, a conditions mapping, or named values. -/
abbrev Row := Fields String Value

namespace Value

def isNull : Value → Bool
  | null => true
  | _ => false

def signed (negative : Bool) (magnitude : Nat) : Int :=
  if negative then -(magnitude : Int) else magnitude

/-- The number that a value stands for in a comparison, as a fraction over a power of ten. -/
def number? : Value → Option (Int × Nat)
  | bool b => some (if b then 1 else 0, 0)
  | int n => some (n, 0)
  | decimal negative digits places => some (signed negative digits, places)
  | _ => none

/-- The denominator of a fraction with so many decimal places. -/
def scale (places : Nat) : Int := Nat.pow 10 places

def sameNumber (a b : Int × Nat) : Bool := a.1 * scale b.2 == b.1 * scale a.2

mutual

/-- Equality as callers see it: numbers by their worth, with `true` worth one; dictionaries
without regard to order. -/
def same : Value → Value → Bool
  | null, null => true
  | text s, text t => s == t
  | list xs, list ys => sameAll xs ys
  | tuple xs, tuple ys => sameAll xs ys
  | dict entries, dict others => entries.length == others.length && sameEntries entries others
  | a, b => match a.number?, b.number? with
    | some m, some n => sameNumber m n
    | _, _ => false

def sameAll : List Value → List Value → Bool
  | [], [] => true
  | x :: xs, y :: ys => same x y && sameAll xs ys
  | _, _ => false

def sameEntries : List (String × Value) → List (String × Value) → Bool
  | [], _ => true
  | (name, value) :: rest, others =>
    (match others.lookup name with
      | some other => same value other
      | none => false) && sameEntries rest others

end

instance : BEq Value := ⟨same⟩

@[simp] theorem text_beq_text (s t : String) : (text s == text t) = (s == t) := by
  show same (text s) (text t) = _
  rw [same]

end Value

/-- A row that a driver returns. Its keys are texts, the names of its columns, unless the driver
gave other values in their place. -/
abbrev ResultRow := Fields Value Value

end ParamSql
