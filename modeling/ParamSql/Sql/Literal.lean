/-!
# Quoted literals in SQL text

A literal stands between single quotes, and a doubled quote inside it is a quote. When the quotes
of a text do not pair up, the last one opens nothing: the literals end before it.
-/

namespace ParamSql.Sql

/-! ## Where a literal ends -/

/-- How much of the text belongs to a literal opened just before it, if a quote closes it at all. A
doubled quote stays inside the literal as long as a later quote can close it. -/
def closing? : List Char → Option Nat
  | [] => none
  | '\'' :: '\'' :: rest => some (((closing? rest).map (· + 2)).getD 1)
  | '\'' :: _ => some 1
  | _ :: rest => (closing? rest).map (· + 1)

/-- How much of what follows belongs to a literal that a character opens, if it opens one. -/
def opened? (c : Char) (rest : List Char) : Option Nat :=
  if c = '\'' then closing? rest else none

/-! ## Segments -/

structure Segment where
  literal : Bool
  text : List Char
deriving DecidableEq

/-- Puts a character that belongs to no literal in front. -/
def addPlain (c : Char) : List Segment → List Segment
  | ⟨false, text⟩ :: rest => ⟨false, c :: text⟩ :: rest
  | rest => ⟨false, [c]⟩ :: rest

/-- The segments behind the next `skip` characters, which belong to the literal before them. -/
def cut : Nat → List Char → List Segment
  | _, [] => []
  | skip + 1, _ :: rest => cut skip rest
  | 0, c :: rest =>
    match opened? c rest with
    | some n => ⟨true, c :: rest.take n⟩ :: cut n rest
    | none => addPlain c (cut 0 rest)

/-- The text cut into its literals, one after the other, and what lies between them. -/
def segments (text : List Char) : List Segment := cut 0 text

theorem flatMap_text_addPlain (c : Char) (rest : List Segment) :
    (addPlain c rest).flatMap Segment.text = c :: rest.flatMap Segment.text := by
  unfold addPlain
  split <;> rfl

theorem take_append_flatMap_text_cut (skip : Nat) (text : List Char) :
    text.take skip ++ (cut skip text).flatMap Segment.text = text := by
  induction text generalizing skip with
  | nil => cases skip <;> rfl
  | cons c rest ih =>
    cases skip with
    | succ skip => rw [List.take_succ_cons, List.cons_append, cut, ih]
    | zero =>
      rw [List.take_zero, List.nil_append, cut]
      split
      · next n _ => rw [List.flatMap_cons, List.cons_append, ih]
      · rw [flatMap_text_addPlain, ← List.nil_append (List.flatMap ..), ← List.take_zero, ih]

/-- Nothing is lost or added. -/
theorem flatMap_text_segments (text : List Char) :
    (segments text).flatMap Segment.text = text :=
  take_append_flatMap_text_cut 0 text

end ParamSql.Sql
