import Mathlib.Data.List.Basic
import ParamSql.Sql.Literal

/-!
# Literals by counting quotes

What comes before a character decides in one way only whether it belongs to a literal: by leaving a
literal open or not. No literal opens right where another one has closed.
-/

namespace ParamSql.Sql

/-! ## One character at a time -/

/-- Whether a literal is open after a character. A quote closes the one that is open, and else opens
one if another quote follows. -/
def openAfter (inside : Bool) (c : Char) (rest : List Char) : Bool :=
  if c = '\'' then !inside && rest.contains '\'' else inside

/-- Each character with whether it belongs to a literal, where one may be open already. -/
def quoteMarks : Bool → List Char → List (Bool × Char)
  | _, [] => []
  | inside, c :: rest =>
    (inside || openAfter inside c rest, c) :: quoteMarks (openAfter inside c rest) rest

theorem openAfter_of_ne {c : Char} (hc : c ≠ '\'') (inside : Bool) (rest : List Char) :
    openAfter inside c rest = inside := by
  rw [openAfter, if_neg hc]

theorem openAfter_quote (inside : Bool) (rest : List Char) :
    openAfter inside '\'' rest = (!inside && rest.contains '\'') := by
  rw [openAfter, if_pos rfl]

theorem eq_quote_of_openAfter_true {c : Char} {rest : List Char}
    (h : openAfter true c rest = false) : c = '\'' := by
  by_contra hc
  rw [openAfter_of_ne hc] at h
  cases h

theorem openAfter_congr {inside : Bool} {c : Char} {rest other : List Char}
    (h : '\'' ∈ rest ↔ '\'' ∈ other) : openAfter inside c rest = openAfter inside c other := by
  have hc : rest.contains '\'' = other.contains '\'' := by
    rw [Bool.eq_iff_iff]
    simpa using h
  rw [openAfter, openAfter, hc]

theorem openAfter_of_mem {run : List Char} (hrun : '\'' ∉ run) {c : Char} (hc : c ∈ run)
    (inside : Bool) (rest : List Char) : openAfter inside c rest = inside :=
  openAfter_of_ne (fun h => hrun (h ▸ hc)) inside rest

theorem quoteMarks_append {run : List Char} (hrun : '\'' ∉ run) (rest : List Char) :
    quoteMarks false (run ++ rest) = run.map (Prod.mk false) ++ quoteMarks false rest := by
  induction run with
  | nil => rfl
  | cons c run ih =>
    rw [List.cons_append, quoteMarks, openAfter_of_mem hrun List.mem_cons_self,
      ih (List.not_mem_of_not_mem_cons hrun)]
    rfl

/-! ## The closing quote -/

theorem closing?_of_ne {c : Char} (hc : c ≠ '\'') (rest : List Char) :
    closing? (c :: rest) = (closing? rest).map (· + 1) := by
  rw [closing?] <;> simp [hc]

theorem closing?_quote_cases {rest : List Char} {n : Nat} (h : closing? ('\'' :: rest) = some n) :
    n = 1 ∨ ∃ tail m, rest = '\'' :: tail ∧ closing? tail = some m ∧ n = m + 2 := by
  rw [closing?.eq_def] at h
  split at h
  · cases h
  · next tail heq =>
    cases heq
    cases hclose : closing? tail with
    | none => exact Or.inl (by simpa [hclose] using h.symm)
    | some m => exact Or.inr ⟨tail, m, rfl, hclose, by simpa [hclose] using h.symm⟩
  · exact Or.inl (by simpa using h.symm)
  · next hc heq => cases heq; exact absurd rfl hc

theorem isSome_closing? (text : List Char) : (closing? text).isSome = text.contains '\'' := by
  induction text using closing?.induct with
  | case1 => rfl
  | case2 rest ih => simp [closing?]
  | case3 rest hrest => rw [closing? ] <;> simp_all
  | case4 c rest hc hc' ih => rw [closing?_of_ne hc', Option.isSome_map, ih]; simp [Ne.symm hc']

/-- Right after the quote that closes a literal no other literal can open. -/
theorem closing?_after {text tail : List Char} {n : Nat} (h : closing? text = some n)
    (htail : text.drop n = '\'' :: tail) : closing? tail = none := by
  induction text using closing?.induct generalizing n with
  | case1 => cases h
  | case2 rest ih =>
    rcases closing?_quote_cases h with rfl | ⟨_, m, hrest, hclose, rfl⟩
    · -- The second quote of the pair is left to follow, so nothing after it closes a literal.
      rw [List.drop_one, List.tail_cons, List.cons.injEq] at htail
      rw [← htail.2]
      rw [closing?] at h
      cases hclose : closing? rest with
      | none => rfl
      | some m => simp [hclose] at h
    · cases hrest
      exact ih hclose htail
  | case3 rest hrest =>
    rcases closing?_quote_cases h with rfl | ⟨tail, _, rfl, -, -⟩
    · exact absurd htail (hrest _)
    · exact absurd rfl (hrest tail)
  | case4 c rest _ hc ih =>
    rw [closing?_of_ne hc] at h
    obtain ⟨m, hm, rfl⟩ := Option.map_eq_some_iff.1 h
    exact ih hm htail

end ParamSql.Sql
