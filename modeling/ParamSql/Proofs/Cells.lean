import Mathlib.Data.List.Induction
import Mathlib.Logic.Function.Basic
import ParamSql.Proofs.Conditions

/-!
# Cells and their properties

What an insertion or an update writes is a row of cells, numbered from one on. Each cell writes one
expression, which may be made by the property of its column. The properties are called cell by cell,
and the first that refuses ends the statement.
-/

namespace ParamSql

/-! ## Numbered cells -/

/-- A value that is written to a column, with the mapping that it is taken from. -/
structure Cell where
  column : String
  source : Row
  value : Value

namespace Properties

variable (properties : Properties)

/-- What a cell writes: its placeholder, or what the property of its column makes of that. -/
def answer (cell : Cell) (number : Nat) : Except Error String :=
  match properties.property? cell.column with
  | none => .ok (placeholder number)
  | some property => property cell.source (placeholder number)

def call? (cell : Cell) (number : Nat) : Option Call :=
  (properties.property? cell.column).map fun _ => ⟨cell.column, placeholder number, cell.source⟩

/-- One call for each cell whose column has a property, where the cells are numbered from `number`
on. -/
def calls (number : Nat) (cells : List Cell) : List Call :=
  (cells.zipIdx number).filterMap fun numbered => properties.call? numbered.1 numbered.2

/-- The cell of each number writes the expression of that number. -/
def Answered (number : Nat) (cells : List Cell) (expressions : Nat → String) : Prop :=
  ∀ k cell, cells[k]? = some cell →
    properties.answer cell (number + k) = .ok (expressions (number + k))

/-- The cell at position `k` is the first that is refused. -/
structure RefusedAt (number : Nat) (cells : List Cell) (k : Nat) (error : Error) : Prop where
  before : ∃ expressions, properties.Answered number (cells.take k) expressions
  refuses : ∃ cell, cells[k]? = some cell ∧ properties.answer cell (number + k) = .error error

variable {properties} {number : Nat} {cells more : List Cell} {expressions : Nat → String}

theorem calls_append :
    properties.calls number (cells ++ more) =
      properties.calls number cells ++ properties.calls (number + cells.length) more := by
  unfold calls
  rw [List.zipIdx_append, List.filterMap_append]

theorem answered_append :
    properties.Answered number (cells ++ more) expressions ↔
      properties.Answered number cells expressions ∧
        properties.Answered (number + cells.length) more expressions := by
  unfold Answered
  constructor
  · intro h
    refine ⟨fun k cell hcell => ?_, fun k cell hcell => ?_⟩
    · apply h
      rw [List.getElem?_append_left (List.getElem?_eq_some_iff.1 hcell).1, hcell]
    · rw [Nat.add_assoc]
      apply h
      rw [List.getElem?_append_right (Nat.le_add_right _ _), Nat.add_sub_cancel_left, hcell]
  · rintro ⟨hcells, hmore⟩ k cell hcell
    by_cases hk : k < cells.length
    · rw [List.getElem?_append_left hk] at hcell
      exact hcells k cell hcell
    · have hle : cells.length ≤ k := Nat.not_lt.1 hk
      rw [List.getElem?_append_right hle] at hcell
      have hlater := hmore _ cell hcell
      rwa [Nat.add_assoc, Nat.add_sub_cancel' hle] at hlater

theorem Answered.congr {others : Nat → String} (h : properties.Answered number cells expressions)
    (hsame : ∀ n, n < number + cells.length → expressions n = others n) :
    properties.Answered number cells others := by
  intro k cell hcell
  have hk := (List.getElem?_eq_some_iff.1 hcell).1
  rw [h k cell hcell, hsame _ (by omega)]

theorem answered_or_refused (properties : Properties) (number : Nat) (cells : List Cell) :
    (∃ expressions, properties.Answered number cells expressions) ∨
      ∃ k error, properties.RefusedAt number cells k error := by
  induction cells using List.reverseRecOn with
  | nil => exact .inl ⟨fun _ => "", fun k cell hcell => by simp at hcell⟩
  | append_singleton cells last ih =>
    rcases ih with ⟨expressions, hcells⟩ | ⟨k, error, hbefore, cell, hcell, hrefuses⟩
    · cases hlast : properties.answer last (number + cells.length) with
      | ok expression =>
        refine .inl ⟨Function.update expressions (number + cells.length) expression, ?_⟩
        rw [answered_append]
        refine ⟨hcells.congr fun n hn => ?_, fun k cell hcell => ?_⟩
        · rw [Function.update_of_ne (Nat.ne_of_lt hn)]
        · obtain ⟨rfl, rfl⟩ : k = 0 ∧ last = cell := by
            cases k <;> simp_all
          rw [Nat.add_zero, hlast, Function.update_self]
      | error error =>
        refine .inr ⟨cells.length, error, ⟨expressions, ?_⟩, last, ?_, hlast⟩
        · rwa [List.take_left]
        · simp
    · have hk := (List.getElem?_eq_some_iff.1 hcell).1
      refine .inr ⟨k, error, ?_, cell, ?_, hrefuses⟩
      · rwa [List.take_append_of_le_length (Nat.le_of_lt hk)]
      · rw [List.getElem?_append_left hk, hcell]

theorem answered_empty (number : Nat) (cells : List Cell) :
    Properties.Answered Fields.empty number cells fun n => placeholder n :=
  fun _ _ _ => rfl

theorem calls_empty (number : Nat) (cells : List Cell) :
    Properties.calls Fields.empty number cells = [] := by
  unfold calls
  rw [List.filterMap_eq_nil_iff]
  exact fun _ _ => rfl

end Properties

/-! ## Computations that write cells -/

open Properties

/-- A computation that writes the cells in turn, numbered from `number` on, and makes its result of
their expressions. It ends with the first cell that is refused. -/
structure Renders {α : Type} (properties : Properties) (number : Nat) (cells : List Cell)
    (run : Rendering α) (result : (Nat → String) → α) : Prop where
  answered : ∀ expressions, properties.Answered number cells expressions →
    run = ⟨properties.calls number cells, .ok (result expressions)⟩
  refused : ∀ k error, properties.RefusedAt number cells k error →
    run = ⟨properties.calls number (cells.take (k + 1)), .error error⟩

namespace Renders

variable {α β : Type} {properties : Properties} {number : Nat} {cells more : List Cell}

theorem pure (value : α) :
    Renders properties number [] (Pure.pure value) fun _ => value where
  answered _ _ := rfl
  refused k error h := by
    obtain ⟨cell, hcell, -⟩ := h.refuses
    simp at hcell

theorem bind {first : Rendering α} {next : α → Rendering β} {value : (Nat → String) → α}
    (result : (Nat → String) → (Nat → String) → β) (hfirst : Renders properties number cells first value)
    (hnext : ∀ expressions, Renders properties (number + cells.length) more
      (next (value expressions)) (result expressions)) :
    Renders properties number (cells ++ more) (first >>= next)
      fun expressions => result expressions expressions where
  answered expressions h := by
    obtain ⟨hcells, hmore⟩ := answered_append.1 h
    have hrun := hfirst.answered expressions hcells
    have hok : first.outcome = .ok (value expressions) := by rw [hrun]
    rw [Logged.bind_of_ok hok, (hnext expressions).answered expressions hmore, hrun, calls_append]
  refused k error h := by
    obtain ⟨⟨expressions, hbefore⟩, cell, hcell, hrefuses⟩ := h
    by_cases hk : k < cells.length
    · rw [List.take_append_of_le_length (Nat.le_of_lt hk)] at hbefore
      rw [List.getElem?_append_left hk] at hcell
      have hrun := hfirst.refused k error ⟨⟨expressions, hbefore⟩, cell, hcell, hrefuses⟩
      have herror : first.outcome = .error error := by rw [hrun]
      rw [Logged.bind_of_error herror, hrun, List.take_append_of_le_length hk]
    · have hle : cells.length ≤ k := Nat.not_lt.1 hk
      rw [List.take_append, List.take_of_length_le hle] at hbefore
      obtain ⟨hcells, hmore⟩ := answered_append.1 hbefore
      rw [List.getElem?_append_right hle] at hcell
      have hlater : properties.RefusedAt (number + cells.length) more (k - cells.length) error := by
        refine ⟨⟨expressions, hmore⟩, cell, hcell, ?_⟩
        rwa [Nat.add_assoc, Nat.add_sub_cancel' hle]
      have hrun := hfirst.answered expressions hcells
      have hok : first.outcome = .ok (value expressions) := by rw [hrun]
      rw [Logged.bind_of_ok hok, (hnext expressions).refused _ error hlater, hrun, List.take_append,
        List.take_of_length_le (Nat.le_succ_of_le hle), calls_append, Nat.sub_add_comm hle]

theorem map {run : Rendering α} {value : (Nat → String) → α}
    (h : Renders properties number cells run value) (f : α → β) :
    Renders properties number cells (run >>= fun result => Pure.pure (f result))
      fun expressions => f (value expressions) := by
  have hbind : Renders properties number (cells ++ []) (run >>= fun result => Pure.pure (f result))
      fun expressions => f (value expressions) :=
    h.bind (fun expressions _ => f (value expressions))
      fun expressions => .pure (f (value expressions))
  rwa [List.append_nil] at hbind

theorem seq {γ : Type} {first : Rendering α} {second : Rendering β} {value : (Nat → String) → α}
    {other : (Nat → String) → β} (hfirst : Renders properties number cells first value)
    (hsecond : Renders properties (number + cells.length) more second other) (f : α → β → γ) :
    Renders properties number (cells ++ more)
      (first >>= fun a => second >>= fun b => Pure.pure (f a b))
      fun expressions => f (value expressions) (other expressions) :=
  hfirst.bind (fun expressions others => f (value expressions) (other others))
    fun expressions => hsecond.map (f (value expressions))

theorem outcome_eq_ok_iff {run : Rendering α} {result : (Nat → String) → α}
    (h : Renders properties number cells run result) (value : α) :
    run.outcome = .ok value ↔
      ∃ expressions, properties.Answered number cells expressions ∧ value = result expressions := by
  constructor
  · intro hvalue
    rcases answered_or_refused properties number cells with ⟨expressions, hall⟩ | ⟨k, error, hrefused⟩
    · rw [h.answered expressions hall] at hvalue
      exact ⟨expressions, hall, (Except.ok.inj hvalue).symm⟩
    · rw [h.refused k error hrefused] at hvalue
      cases hvalue
  · rintro ⟨expressions, hall, rfl⟩
    rw [h.answered expressions hall]

end Renders

end ParamSql
